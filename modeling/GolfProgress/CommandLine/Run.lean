import GolfProgress.Binary64.Fixed
import GolfProgress.Bytes.Utf8
import GolfProgress.CommandLine.Command
import GolfProgress.Constraints.Analysis
import GolfProgress.Json.Printer
import GolfProgress.Registry.Builtin
import GolfProgress.Requirements.Building
import GolfProgress.Settings.Loading

/-!
# Running commands

`run` answers a command line with printed lines and an exit code: 0 when the
command was carried out, 1 when it failed, and 2 when it was not understood.
`analysisSettings` are the settings with which an analysis runs.
-/

set_option autoImplicit false

namespace GolfProgress

/-- Why a command failed. -/
inductive CommandFailure where
  | table (cause : BuildFailure)
  | engine (cause : Failure)
  /-- The settings in a file are not good. -/
  | settings (path : String)
  /-- The metadata cannot be written. -/
  | metadata (path : String)
  /-- A table file has another checksum. -/
  | mismatch
deriving DecidableEq, Inhabited

/-- The text of a failure. -/
def CommandFailure.message : CommandFailure → String
  | .table cause => cause.message
  | .engine cause => cause.message
  | .settings path => "Failed to load config: " ++ path
  | .metadata path => "Failed to write metadata: " ++ path
  | .mismatch => "Table verification failed - checksum mismatch!"

namespace CommandLine

/-! ## Printed lines -/

/-- The line of a count of rows, which is left out when there are none. -/
def countLine (label : String) (count : UInt32) : List String :=
  if count = 0 then [] else [label ++ toString count.toNat]

/-- What is printed of an import. -/
def countLines (counts : ImportCounts) : List String :=
  ["", "Parsed " ++ toString counts.parsed.toNat ++ " of " ++ toString counts.total.toNat ++
    " rows"] ++
  countLine "   Skipped:           " counts.failed ++
  countLine "   Duplicates:        " counts.replaced ++
  countLine "   Domain mismatches: " counts.misplaced

/-- A size in bytes and in units of 1024 bytes. -/
def sizeText (size : UInt64) : String :=
  toString size.toNat ++ " bytes (" ++
    Binary64.toFixed 2 (Binary64.ofInt size.toNat / Binary64.ofInt 1024) ++ " KB)"

/-- What is printed of the metadata of a table. -/
def metadataLines (metadata : TableMetadata) : List String :=
  ["",
   "Table built successfully!",
   "   Rows:            " ++ toString metadata.rowCount.toNat,
   "   Original size:   " ++ sizeText metadata.encodedSize,
   "   Compressed size: " ++ sizeText metadata.compressedSize,
   "   Compression:     " ++ Binary64.toFixed 1 (metadata.ratio * Binary64.ofInt 100) ++ "%",
   "   Checksum:        " ++ metadata.checksum,
   "   Created:         " ++ metadata.createdAt]

/-- What is printed of the version of the program. -/
def versionLine : String := programName ++ " 0.1.0"

variable {m : Type → Type} [Monad m] [Host m]

/-! ## Building and verifying -/

/-- Prints lines. -/
def sayAll (lines : List String) : ExceptT CommandFailure m Unit :=
  lines.forM fun line => Host.say (m := m) line

/-- A step on table files as a part of a command. -/
def onTables {α : Type} (step : ExceptT BuildFailure m α) : ExceptT CommandFailure m α :=
  step.adapt .table

def ofEngine {α : Type} (answer : Except Failure α) : ExceptT CommandFailure m α :=
  ExceptT.mk (pure (answer.mapError .engine))

/-- Verifies a table file. -/
def verify (table checksum : String) : ExceptT CommandFailure m Unit := do
  sayAll ["", "Verifying table integrity..."]
  if ← onTables (verifyTable table checksum) then sayAll ["Table verification passed"]
  else throw .mismatch

/-- Writes the metadata of a table to a file. -/
def saveMetadata (path : String) (metadata : TableMetadata) :
    ExceptT CommandFailure m Unit := do
  if !(← Host.write (m := m) path (Bytes.ofText metadata.toJson.pretty)) then
    throw (.metadata path)
  sayAll ["", "Metadata saved to: " ++ path]

/-- Builds a table from a sheet. -/
def build (request : BuildRequest) : ExceptT CommandFailure m Unit := do
  sayAll
    ["Building requirement table...",
     "   CSV Input: " ++ request.sheet,
     "   Output:    " ++ request.output,
     "   Schema:    " ++ request.schemaVersion]
  let (metadata, counts) ←
    onTables (buildTable request.sheet request.output request.schemaVersion)
  sayAll (countLines counts ++ metadataLines metadata)
  if request.verified then verify request.output metadata.checksum
  match request.metadata with
  | none => return
  | some path => saveMetadata path metadata

/-! ## Analysing -/

def settingsOfFile (path : String) : m (Except Failure Settings) := do
  match ← Host.look? path with
  | some (.file content) => return Settings.ofFile path (Bytes.toText? content)
  | _ => return Settings.ofFile path none

/-- The settings in a file; a warning when they are not good. -/
def settingsOrWarning (path : String) : m (Except Failure Settings) := do
  let settings ← settingsOfFile path
  match settings with
  | .ok _ => return settings
  | .error failure =>
    Host.complain (Warning.ignoredSettings path failure).line
    return settings

/-- The settings that the surroundings ask for. -/
def settingsOfSurroundings : m Settings := do
  let file ← match ← Host.valueOf? "EVIDENCE_CONFIG" with
    | none => pure none
    | some path => some <$> settingsOrWarning path
  return Settings.ofSurroundings file (← Host.valueOf? "EVIDENCE_PROFILE")

/-- Settings with another limit on the reported constraints, when they are still good. -/
def withLimit (settings : Settings) (limit : UInt32) : Except Failure Settings :=
  { settings with
    constraints := { settings.constraints with maxBinding := limit } : Settings }.check

/-- The settings of an analysis: those of its file or else of the surroundings,
with its own limit. -/
def analysisSettings (request : AnalyzeRequest) : ExceptT CommandFailure m Settings := do
  let settings ← match request.settings with
    | none => settingsOfSurroundings (m := m)
    | some path =>
      match ← settingsOfFile (m := m) path with
      | .ok settings => pure settings
      | .error _ => throw (.settings path)
  match request.limit with
  | none => return settings
  | some limit => ofEngine (withLimit settings limit)

/-- Reports what keeps a player out of the next category. -/
def analyze (request : AnalyzeRequest) : ExceptT CommandFailure m Unit := do
  let settings ← analysisSettings request
  let table ← onTables (loadTable request.table)
  let state : AnalysisState TableRequirements := ⟨.ofTable table, {}⟩
  let report ← ofEngine (state.compute .builtin settings.constraints
    (request.player.getD .nil) request.category request.gender request.measurements).1
  sayAll [report.toJson.pretty]

/-! ## Command lines -/

/-- Carries out a command. -/
def perform : Command → ExceptT CommandFailure m Unit
  | .build request => build request
  | .verify request => verify request.table request.checksum
  | .analyze request => analyze request

/-- Whether a variable is set to something. -/
def isSet (name : String) : m Bool := do
  return (← Host.valueOf? name).any (· ≠ "")

/-- Whether the surroundings ask for colours wherever complaints go. -/
def wantsColours : m Bool := do
  if ← isSet "NO_COLOR" then return false
  isSet "CLICOLOR_FORCE"

/-- Answers a command line that leads to no command. -/
def interrupt : Interruption → m UInt32
  | .help page => do
    page.lines.forM Host.say
    return 0
  | .version => do
    Host.say versionLine
    return 0
  | .nothing => do
    HelpPage.program.lines.forM Host.complain
    return 2
  | .usage fault => do
    Host.complain (fault.report (← wantsColours))
    return 2

/-- Answers a command line. -/
def run (arguments : List String) : m UInt32 := do
  match Command.ofArguments arguments with
  | .error interruption => interrupt interruption
  | .ok command =>
    match ← (perform command).run with
    | .ok () => return 0
    | .error failure =>
      Host.complain ("Error: " ++ failure.message)
      return 1

end CommandLine

end GolfProgress
