import GolfProgress.CommandLine.Form

/-!
# Commands

A command line names a command after the options that all commands share.  A
table can be built from a sheet, verified against a checksum, or used to analyse
what keeps a player out of the next category.
-/

set_option autoImplicit false

namespace GolfProgress

/-- What a table is built from, and where it goes. -/
structure BuildRequest where
  sheet : String
  output : String
  schemaVersion : String := "v1"
  /-- Whether the written file is verified. -/
  verified : Bool := false
  /-- The file for the metadata of the table. -/
  metadata : Option String := none
deriving DecidableEq, Repr, Inhabited

/-- A table file and the checksum that it should have. -/
structure VerifyRequest where
  table : String
  checksum : String
deriving DecidableEq, Repr, Inhabited

/-- What is known of a player, and the table to judge it by. -/
structure AnalyzeRequest where
  table : String
  category : Category
  gender : Gender
  measurements : Measurements := ⟨[]⟩
  /-- How many constraints are reported, where the settings are not to decide. -/
  limit : Option UInt32 := none
  player : Option Uuid := none
  /-- The file with the settings. -/
  settings : Option String := none
deriving Inhabited

inductive Command where
  | build (request : BuildRequest)
  | verify (request : VerifyRequest)
  | analyze (request : AnalyzeRequest)
deriving Inhabited

/-! ## What the commands are for -/

namespace HelpPage

/-- What building a table is for. -/
def buildAbout : String := "Build a requirement table from a CSV export"

/-- What verifying a table is for. -/
def verifyAbout : String := "Check a table file against its SHA256 checksum"

/-- What analysing a player is for. -/
def analyzeAbout : String := "Report binding constraints for a player against a built table"

/-- What asking for help is for. -/
def helpAbout : String := "Print this message or the help of the given subcommand(s)"

/-- The page of a command with some options, of which those that are required are
a part of its use. -/
def ofCommand (name about : String) (required : List OptionLabel)
    (options : List HelpEntry) : HelpPage where
  about
  usage := required.foldl (fun usage option => usage ++ " " ++ option.text)
    (" " ++ name ++ " [OPTIONS]")
  sections := [⟨"Options", options⟩]

/-- The page of the whole program. -/
def program : HelpPage where
  about := "Build and query category requirement tables"
  usage := " [OPTIONS] <COMMAND>"
  sections := [
    ⟨"Commands", [⟨"build", buildAbout⟩, ⟨"verify", verifyAbout⟩, ⟨"analyze", analyzeAbout⟩,
      ⟨"help", helpAbout⟩]⟩,
    ⟨"Options", [.verbose, .help, .version]⟩]

/-- The page of asking for help. -/
def help : HelpPage where
  about := helpAbout
  usage := " help [COMMAND]..."
  sections := [⟨"Arguments", [⟨"[COMMAND]...", "Print help for the subcommand(s)"⟩]⟩]

end HelpPage

/-! ## Building a table -/

/-- What has been read of a request to build a table. -/
structure BuildDraft where
  sheet : Option String := none
  output : Option String := none
  schemaVersion : Option String := none
  verified : Bool := false
  metadata : Option String := none
deriving Inhabited

namespace BuildDraft

/-- The sheet that a table is built from. -/
def sheetLabel : OptionLabel := ⟨"csv", some "CSV"⟩

/-- The file that a table is written to. -/
def outputLabel : OptionLabel := ⟨"out", some "OUT"⟩

/-- The version that a table carries. -/
def schemaVersionLabel : OptionLabel := ⟨"schema-version", some "SCHEMA_VERSION"⟩

/-- The file for the metadata of a table. -/
def metadataLabel : OptionLabel := ⟨"metadata", some "METADATA"⟩

/-- The page of building a table. -/
def page : HelpPage :=
  .ofCommand "build" HelpPage.buildAbout [sheetLabel, outputLabel] [
    sheetLabel.entry
      "Input CSV (category,gender,test_number,minimum_value,is_hard_constraint,domain)",
    .verbose,
    outputLabel.entry "Output MsgPack+LZ4 file path",
    schemaVersionLabel.entry "Schema version (e.g., \x22v1\x22) [default: v1]",
    OptionLabel.entry { name := "verify" } "Verify table after building",
    metadataLabel.entry "Output metadata JSON file",
    .help]

/-- The options of a request to build a table. -/
def form : Form BuildDraft where
  page
  switches := [{
    name := "verify"
    isGiven := (·.verified)
    set := fun draft => { draft with verified := true } }]
  parameters := [
    { label := sheetLabel
      isRequired := true
      isGiven := (·.sheet.isSome)
      take := fun text draft => return { draft with sheet := ← CommandLine.pathOfText text } },
    { label := outputLabel
      isRequired := true
      isGiven := (·.output.isSome)
      take := fun text draft => return { draft with output := ← CommandLine.pathOfText text } },
    { label := schemaVersionLabel
      isGiven := (·.schemaVersion.isSome)
      take := fun text draft => return { draft with schemaVersion := text } },
    { label := metadataLabel
      isGiven := (·.metadata.isSome)
      take := fun text draft => return { draft with
        metadata := ← CommandLine.pathOfText text } }]

/-- The request, when nothing that it needs is missing. -/
def request? (draft : BuildDraft) : Option BuildRequest := do
  return {
    sheet := ← draft.sheet
    output := ← draft.output
    schemaVersion := draft.schemaVersion.getD "v1"
    verified := draft.verified
    metadata := draft.metadata }

end BuildDraft

/-! ## Verifying a table -/

/-- What has been read of a request to verify a table. -/
structure VerifyDraft where
  table : Option String := none
  checksum : Option String := none
deriving Inhabited

namespace VerifyDraft

/-- The file of a table. -/
def tableLabel : OptionLabel := ⟨"table", some "TABLE"⟩

/-- The checksum that a table should have. -/
def checksumLabel : OptionLabel := ⟨"checksum", some "CHECKSUM"⟩

/-- The page of verifying a table. -/
def page : HelpPage :=
  .ofCommand "verify" HelpPage.verifyAbout [tableLabel, checksumLabel]
    [tableLabel.entry "", .verbose, checksumLabel.entry "", .help]

/-- The options of a request to verify a table. -/
def form : Form VerifyDraft where
  page
  parameters := [
    { label := tableLabel
      isRequired := true
      isGiven := (·.table.isSome)
      take := fun text draft => return { draft with table := ← CommandLine.pathOfText text } },
    { label := checksumLabel
      isRequired := true
      isGiven := (·.checksum.isSome)
      take := fun text draft => return { draft with checksum := text } }]

/-- The request, when nothing that it needs is missing. -/
def request? (draft : VerifyDraft) : Option VerifyRequest := do
  return { table := ← draft.table, checksum := ← draft.checksum }

end VerifyDraft

/-! ## Analysing a player -/

/-- What has been read of a request to analyse a player. -/
structure AnalyzeDraft where
  table : Option String := none
  category : Option Category := none
  gender : Option Gender := none
  /-- The measurements in the order in which they were given. -/
  measurements : List (UInt8 × Binary64) := []
  limit : Option UInt32 := none
  player : Option Uuid := none
  settings : Option String := none
deriving Inhabited

namespace AnalyzeDraft

/-- The file of a table. -/
def tableLabel : OptionLabel := ⟨"table", some "TABLE"⟩

/-- The category that a player is in. -/
def categoryLabel : OptionLabel := ⟨"category", some "CATEGORY"⟩

/-- The gender of a player. -/
def genderLabel : OptionLabel := ⟨"gender", some "GENDER"⟩

/-- A measurement of a player. -/
def measurementLabel : OptionLabel := ⟨"value", some "VALUES"⟩

/-- How many constraints are reported. -/
def limitLabel : OptionLabel := ⟨"max", some "MAX"⟩

/-- The identifier of a player. -/
def playerLabel : OptionLabel := ⟨"player", some "PLAYER"⟩

/-- The file with the settings. -/
def settingsLabel : OptionLabel := ⟨"config", some "CONFIG"⟩

/-- The page of analysing a player. -/
def page : HelpPage :=
  .ofCommand "analyze" HelpPage.analyzeAbout [tableLabel, categoryLabel, genderLabel] [
    tableLabel.entry "",
    .verbose,
    categoryLabel.entry "Current skill category (A-K)",
    genderLabel.entry "Gender code (M or K)",
    measurementLabel.entry "Latest test value as TEST=VALUE, repeatable",
    limitLabel.entry "Override the maximum number of binding constraints reported",
    playerLabel.entry "",
    settingsLabel.entry
      "Engine configuration YAML (defaults to EVIDENCE_CONFIG / EVIDENCE_PROFILE)",
    .help]

/-- The options of a request to analyse a player; only measurements may be
repeated. -/
def form : Form AnalyzeDraft where
  page
  parameters := [
    { label := tableLabel
      isRequired := true
      isGiven := (·.table.isSome)
      take := fun text draft => return { draft with table := ← CommandLine.pathOfText text } },
    { label := categoryLabel
      isRequired := true
      isGiven := (·.category.isSome)
      take := fun text draft => return { draft with
        category := ← CommandLine.categoryOfText text } },
    { label := genderLabel
      isRequired := true
      isGiven := (·.gender.isSome)
      take := fun text draft => return { draft with
        gender := ← CommandLine.genderOfText text } },
    { label := measurementLabel
      isGiven := fun _ => false
      take := fun text draft => return { draft with
        measurements := draft.measurements ++ [← CommandLine.measurementOfText text] } },
    { label := limitLabel
      isGiven := (·.limit.isSome)
      take := fun text draft => return { draft with limit := ← CommandLine.countOfText text } },
    { label := playerLabel
      isGiven := (·.player.isSome)
      take := fun text draft => return { draft with
        player := ← CommandLine.playerOfText text } },
    { label := settingsLabel
      isGiven := (·.settings.isSome)
      take := fun text draft => return { draft with
        settings := ← CommandLine.pathOfText text } }]

/-- The request, when nothing that it needs is missing. -/
def request? (draft : AnalyzeDraft) : Option AnalyzeRequest := do
  return {
    table := ← draft.table
    category := ← draft.category
    gender := ← draft.gender
    measurements := ⟨draft.measurements⟩
    limit := draft.limit
    player := draft.player
    settings := draft.settings }

end AnalyzeDraft

/-! ## Command lines -/

namespace Command

def requestOf {Draft Request : Type} [Inhabited Draft] (form : Form Draft)
    (request? : Draft → Option Request) (words : List String) :
    Except Interruption Request := do
  let draft ← form.read { draft := default } words
  match request? draft with
  | some request => return request
  | none => throw (.usage (.missing (form.missing draft)))

/-- The command of a name, with the words after it; none for another name. -/
def ofName? (name : String) (words : List String) : Option (Except Interruption Command) :=
  match name with
  | "build" => some ((requestOf BuildDraft.form BuildDraft.request? words).map .build)
  | "verify" => some ((requestOf VerifyDraft.form VerifyDraft.request? words).map .verify)
  | "analyze" => some ((requestOf AnalyzeDraft.form AnalyzeDraft.request? words).map .analyze)
  | _ => none

/-- The page of the command of a name, help among them. -/
def page? (name : String) : Option HelpPage :=
  match name with
  | "build" => some BuildDraft.page
  | "verify" => some VerifyDraft.page
  | "analyze" => some AnalyzeDraft.page
  | "help" => some .help
  | _ => none

/-- What a command line that asks for help on some words comes to: help, when they
name one command or help itself, or none at all. -/
def helpOn : List String → Interruption
  | [] => .help .program
  | name :: rest =>
    match page? name, rest with
    | none, _ => .usage (.unknownCommand name)
    | some page, [] => .help page
    | some _, word :: _ => .usage (.unknownCommand word)

/-- What letters after a hyphen in front of a command come to, if they stop the
reading. -/
def interruptionOfLetters? : List Char → Option Interruption
  | [] => none
  | 'v' :: rest => interruptionOfLetters? rest
  | 'h' :: _ => some (.help .program)
  | 'V' :: _ => some .version
  | letter :: _ => some (.usage (.unexpected (String.ofList ['-', letter])))

/-- What a name after two hyphens in front of a command comes to, if it stops the
reading. -/
def interruptionOfLong? (name : String) (value : Option String) : Option Interruption :=
  let shown? := if name = "version" then some "--version" else commonOption? name
  match shown?, value with
  | none, _ => some (.usage (.unexpected ("--" ++ name)))
  | some shown, some value => some (.usage (.valueSpare shown value))
  | some _, none =>
    if name = "help" then some (.help .program)
    else if name = "version" then some .version
    else none

/-- What a word after a divider comes to where a command should stand. -/
def afterDivider (word : String) : UsageFault :=
  if (page? word).isSome then .unexpected word else .unknownCommand word

/-- The command of the words of a command line, some of which have been read when
`begun` holds. -/
def ofWords (begun : Bool) : List String → Except Interruption Command
  | [] => .error (if begun then .usage .missingCommand else .nothing)
  | text :: rest =>
    match Word.ofText text with
    | .long name value =>
      match interruptionOfLong? name value with
      | some interruption => .error interruption
      | none => ofWords true rest
    | .letters list =>
      match interruptionOfLetters? list with
      | some interruption => .error interruption
      | none => ofWords true rest
    | .plain name =>
      if name = "help" then .error (helpOn rest)
      else (ofName? name rest).getD (.error (.usage (.unknownCommand name)))
    | .divider =>
      match rest with
      | [] => .error (if begun then .usage .missingCommand else .nothing)
      | word :: _ => .error (.usage (afterDivider word))

/-- The command of a command line. -/
def ofArguments (arguments : List String) : Except Interruption Command :=
  ofWords false arguments

end Command

end GolfProgress
