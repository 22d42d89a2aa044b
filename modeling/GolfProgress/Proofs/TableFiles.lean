import GolfProgress.Proofs.HostRuns
import GolfProgress.Proofs.ImportedRows
import GolfProgress.Proofs.MessagePackBytes
import GolfProgress.Proofs.RuleText
import Mathlib.Data.List.Forall2

/-!
# Table files are read back

What is written into a table file comes out of it again, layer by layer.  A record is read
as the fields that it was made of (`MessagePack.fields?_record`), a code as the choice that
it names (`MessagePack.choiceOf?_ofText`), hence a table as itself
(`RequirementTable.read?_toMessagePack`); with the bytes of values and with compression
undone as well, the content of a file gives its table (`RequirementTable.ofFile_toFile`).
A checksum holds small hexadecimal digits alone, so neither capitals nor blanks around it
hide it (`checksumMatches_of_shows`).

`TableMetadata.Holds` collects what a written table owes, and `tables_round_trip` says that
every written and every built table pays it.
-/

set_option autoImplicit false

namespace GolfProgress

/-! ## Records and choices by name -/

namespace MessagePack

theorem placeIn?_name (choices : List (List String)) (name : String) :
    Label.placeIn? choices (.name (Bytes.ofText name)) =
      choices.findIdx? fun names => names.contains name := by
  simp only [Label.placeIn?, Bytes.toText?_ofText, Option.bind_eq_bind, Option.bind_some]

/-- The name at the place that a name stands for is the name. -/
theorem name_of_placeIn? {names : List String} {name : String} (known : name ∈ names) :
    ((Label.name (Bytes.ofText name)).placeIn? (names.map ([·]))).bind (names[·]?) = some name := by
  rw [placeIn?_name, List.findIdx?_map, ← List.find?_eq_bind_findIdx?_getElem?]
  cases found : names.find? ((fun names => names.contains name) ∘ ([·])) with
  | none => simpa using List.find?_eq_none.mp found name known
  | some other =>
      have same : name = other := by simpa using List.find?_some found
      rw [same]

variable {names : List String} {fields : List (String × MessagePack)}

theorem entries?_record (known : ∀ field ∈ fields, field.1 ∈ names) :
    entries? names (fields.map fun field => (ofText field.1, field.2)) = some fields := by
  have labelled : (fields.map fun field => (ofText field.1, field.2)).mapM
      (fun entry => do return (← label? entry.1, entry.2)) =
        some (fields.map fun field => (Label.name (Bytes.ofText field.1), field.2)) := by
    rw [List.mapM_map]
    exact List.mapM_pure
  refine (congrArg (Option.bind · _) labelled).trans ?_
  rw [Option.bind_some, List.filterMap_map]
  refine congrArg some ((List.filterMap_congr fun field member => ?_).trans List.filterMap_some)
  have named := name_of_placeIn? (known field member)
  obtain ⟨place, placed, named⟩ := Option.bind_eq_some_iff.mp named
  simp [placed, named]

/-- **A record is read as the fields that it was made of.** -/
theorem fields?_record (known : ∀ field ∈ fields, field.1 ∈ names)
    (distinct : (fields.map (·.1)).Nodup) :
    Source.fields? names (record fields) = some ⟨true, fields⟩ := by
  have read : Source.fields? names (record fields) =
      (entries? names (fields.map fun field => (ofText field.1, field.2))).bind
        (Source.namedFields? names) := rfl
  have all : (fields.filter fun entry => names.contains entry.1) = fields :=
    List.filter_eq_self.mpr fun field member => by simpa using known field member
  rw [read, entries?_record known, Option.bind_some, Source.namedFields?, all, if_pos distinct]

/-- A choice is read by its name. -/
theorem choiceOf?_ofText {α : Type} (choices : List (α × List String)) (name : String) :
    Source.choiceOf? choices (ofText name) =
      (choices.find? fun choice => choice.2.contains name).map (·.1) := by
  have place : Source.choice? (choices.map (·.2)) (ofText name) =
      choices.findIdx? fun choice => choice.2.contains name :=
    (placeIn?_name _ name).trans List.findIdx?_map
  rw [Source.choiceOf?, place, List.find?_eq_bind_findIdx?_getElem?, Option.map_bind]
  rfl

theorem number?_float (value : Binary64) : Source.number? (float value) = some value := rfl

theorem bool?_bool (value : Bool) : Source.bool? (bool value) = some value := rfl

theorem text?_ofText (text : String) : Source.text? (ofText text) = some text :=
  Bytes.toText?_ofText text

theorem uint8?_natural (value : UInt8) : Source.uint8? (natural value.toNat) = some value := by
  have number : Source.natural? (natural value.toNat) = some value.toNat := rfl
  rw [Source.uint8?, number, Option.bind_eq_bind, Option.bind_some, if_pos value.toNat_lt,
    UInt8.ofNat_toNat]

end MessagePack

/-! ## Rows -/

theorem Category.read?_code (category : Category) :
    Category.read? (MessagePack.ofText category.code) = some category := by
  rw [Category.read?, MessagePack.choiceOf?_ofText]
  cases category <;> decide

theorem Gender.read?_code (gender : Gender) :
    Gender.read? (MessagePack.ofText gender.code) = some gender := by
  rw [Gender.read?, MessagePack.choiceOf?_ofText]
  cases gender <;> decide

theorem Domain.read?_code (domain : Domain) :
    Domain.read? (MessagePack.ofText domain.code) = some domain := by
  rw [Domain.read?, MessagePack.choiceOf?_ofText]
  cases domain <;> decide

namespace Requirement

/-- A row is read from its record. -/
theorem read?_toMessagePack (row : Requirement) : read? row.toMessagePack = some row := by
  have fields : Source.fields? fieldNames row.toMessagePack = some ⟨true, _⟩ :=
    MessagePack.fields?_record (by simp [fieldNames]) (by simp)
  simp [read?, fields, Fields.required, Fields.find?, Category.read?_code, Gender.read?_code,
    Domain.read?_code, MessagePack.number?_float, MessagePack.bool?_bool,
    MessagePack.uint8?_natural]

theorem fits_toMessagePack (row : Requirement) (depth : Nat) :
    row.toMessagePack.Fits (depth + 1) := by
  have test : row.test.toNat < UInt64.size := Nat.lt_trans row.test.toNat_lt (by decide)
  simp [toMessagePack, MessagePack.record, MessagePack.ofText, MessagePack.Fits,
    MessagePack.EntriesFit, test]

end Requirement

/-! ## Tables -/

namespace RequirementTable

theorem read?_toMessagePack (table : RequirementTable) :
    read? table.toMessagePack = some table := by
  have fields : Source.fields? ["schema_version", "generated_at", "rows"] table.toMessagePack =
      some ⟨true, _⟩ :=
    MessagePack.fields?_record (by simp) (by simp)
  have rows : Source.listOf? Requirement.read?
      (MessagePack.list (table.rows.map Requirement.toMessagePack)) = some table.rows := by
    have each : Requirement.read? ∘ Requirement.toMessagePack = some :=
      funext Requirement.read?_toMessagePack
    refine List.mapM_map.trans ?_
    rw [each]
    exact List.mapM_pure.trans (congrArg some table.rows.map_id)
  simp [read?, fields, Fields.required, Fields.find?, MessagePack.text?_ofText, rows]

theorem fits_toMessagePack (table : RequirementTable) :
    table.toMessagePack.Fits MessagePack.maxDepth := by
  have rows (depth : Nat) (rows : List Requirement) :
      MessagePack.ItemsFit (rows.map Requirement.toMessagePack) (depth + 1) := by
    induction rows with
    | nil => simp [MessagePack.ItemsFit]
    | cons first rest ih => simp [MessagePack.ItemsFit, first.fits_toMessagePack, ih]
  simp [toMessagePack, MessagePack.record, MessagePack.ofText, MessagePack.Fits,
    MessagePack.EntriesFit, MessagePack.maxDepth, rows]

variable {table : RequirementTable}

/-- A table that can be written: before compression it has fewer than `2 ^ 32` bytes. -/
def Short (table : RequirementTable) : Prop := table.encoded.length < UInt32.size

instance (table : RequirementTable) : Decidable table.Short := inferInstanceAs (Decidable (_ < _))

/-- **The content of the file of a table is the table again.** -/
theorem ofFile_toFile (short : table.Short) : ofFile table.toFile = .ok table := by
  have read := MessagePack.ofBytes?_bytes table.fits_toMessagePack short
  rw [ofFile, toFile, Lz4.decompress?_compress _ short]
  simp only [encoded, read, Option.bind_some, read?_toMessagePack]

theorem length_rows_lt (short : table.Short) : table.rows.length < UInt32.size := by
  have few : (table.rows.map Requirement.toMessagePack).length ≤ table.encoded.length := by
    refine Nat.le_trans (MessagePack.length_le_itemsBytes _) ?_
    simp only [encoded, toMessagePack, MessagePack.record, List.map_cons, MessagePack.bytes,
      MessagePack.entriesBytes, List.length_append]
    omega
  rw [List.length_map] at few
  exact Nat.lt_of_le_of_lt few short

end RequirementTable

/-! ## Checksums -/

namespace Text

/-- A text shows another of small letters: in any case of the letters, and with blanks
around it. -/
def Shows (shown text : String) : Prop :=
  ∃ lead letters trail, shown.toList = lead ++ letters ++ trail ∧
    (∀ c ∈ lead, isBlank c = true) ∧ (∀ c ∈ trail, isBlank c = true) ∧
    List.Forall₂ (fun other c => other = c ∨ other = c.toUpper) letters text.toList

theorem mem_toDigits {base : Nat} (large : 1 < base) {c : Char} (value : Nat)
    (member : c ∈ Nat.toDigits base value) : ∃ digit < base, c = digit.digitChar := by
  induction value using Nat.strongRecOn with
  | ind value ih =>
      rcases Nat.lt_or_ge value base with small | reaches
      · rw [Nat.toDigits_of_lt_base small, List.mem_singleton] at member
        exact ⟨value, small, member⟩
      · rw [Nat.toDigits_of_base_le large reaches, List.mem_append, List.mem_singleton] at member
        rcases member with higher | last
        · exact ih _ (Nat.div_lt_self (by omega) large) higher
        · exact ⟨_, Nat.mod_lt _ (by omega), last⟩

theorem mem_toHex {bytes : List UInt8} {c : Char} (member : c ∈ (Bytes.toHex bytes).toList) :
    ∃ digit < 16, c = digit.digitChar := by
  rw [Bytes.toHex, String.toList_ofList, List.mem_flatMap] at member
  obtain ⟨byte, -, member⟩ := member
  rcases List.mem_append.mp member with zero | digit
  · exact ⟨0, by decide, (List.mem_replicate.mp zero).2⟩
  · exact mem_toDigits (by decide) _ digit

/-- A hexadecimal digit of either case is no blank, and both cases have one small letter. -/
theorem hex_cases : ∀ digit < 16, isBlank digit.digitChar = false ∧
    isBlank digit.digitChar.toUpper = false ∧
    digit.digitChar.toUpper.toLower = digit.digitChar.toLower := by
  decide +kernel

theorem shown_hex {letters hex : List Char}
    (cased : List.Forall₂ (fun other c => other = c ∨ other = c.toUpper) letters hex)
    (digits : ∀ c ∈ hex, ∃ digit < 16, c = digit.digitChar) :
    (∀ c ∈ letters, isBlank c = false) ∧ letters.map Char.toLower = hex.map Char.toLower := by
  induction cased with
  | nil => exact ⟨List.forall_mem_nil _, rfl⟩
  | @cons letter c letters hex same _ ih =>
      obtain ⟨here, later⟩ := List.forall_mem_cons.mp digits
      obtain ⟨solid, small⟩ := ih later
      obtain ⟨digit, least, rfl⟩ := here
      obtain ⟨plain, capital, lowered⟩ := hex_cases digit least
      rcases same with rfl | rfl
      · exact ⟨List.forall_mem_cons.mpr ⟨plain, solid⟩, by rw [List.map_cons, small]; rfl⟩
      · exact ⟨List.forall_mem_cons.mpr ⟨capital, solid⟩,
          by rw [List.map_cons, small, lowered]; rfl⟩

end Text

/-- **A checksum is known by every text that shows it.** -/
theorem checksumMatches_of_shows {content : List UInt8} {expected : String}
    (shows : Text.Shows expected (checksum content)) : checksumMatches content expected = true := by
  obtain ⟨lead, letters, trail, text, before, after, cased⟩ := shows
  obtain ⟨solid, small⟩ := Text.shown_hex cased fun c member => Text.mem_toHex member
  rw [checksumMatches, beq_iff_eq, Text.lowerAscii, Text.lowerAscii, Text.trimString, text,
    Text.trim_append before solid after, String.toList_ofList, small]

/-- The checksum of an empty file in capitals, with blanks around it. -/
example : checksumMatches []
    "\tE3B0C44298FC1C149AFBF4C8996FB92427AE41E4649B934CA495991B7852B855\n" = true := by
  decide +kernel

/-! ## Written and built tables -/

/-- What is known of a table that has been written at a path holds there: the file gives
the table back, and has the checksum. -/
structure TableMetadata.Holds (metadata : TableMetadata) (host : MemoryHost) (path : String)
    (version : String) (rows : List Requirement) : Prop where
  loaded : host.run (loadTable path) = (.ok ⟨version, metadata.createdAt, rows⟩, host)
  version : metadata.schemaVersion = version
  counted : metadata.rowCount.toNat = rows.length
  verified : ∀ expected, Text.Shows expected metadata.checksum →
    host.run (verifyTable path expected) = (.ok true, host)

namespace MemoryHost

variable {host : MemoryHost} {path : String}

/-- A table that is written holds at its path. -/
theorem holds_writeTable {rows : List Requirement} {version : String}
    (writable : host.files.Writable path)
    (short : RequirementTable.Short ⟨version, host.clock.toOffsetText, rows⟩) :
    ∃ metadata after, host.run (writeTable rows path version) = (.ok metadata, after) ∧
      metadata.Holds after path version rows := by
  obtain ⟨files, written, found⟩ := run_writeTable writable rows version
  let after : MemoryHost := { host with files }
  have read : after.run (readTableFile path) = (.ok _, after) := run_readTableFile found
  refine ⟨_, after, written, ?_⟩
  refine ⟨?_, rfl, ?_, fun expected shows => ?_⟩
  · rw [loadTable, run_bind_ok read, RequirementTable.ofFile_toFile short]
    rfl
  · have few : rows.length < UInt64.size :=
      Nat.lt_trans (RequirementTable.length_rows_lt short) (by decide)
    show (UInt64.ofNat rows.length).toNat = rows.length
    exact UInt64.toNat_ofNat_of_lt' few
  · rw [verifyTable, run_bind_ok read, checksumMatches_of_shows shows]
    rfl

end MemoryHost

/-- **Tables that are written are read back.**  A table that is written holds at its path,
and so does a table that is built from a sheet with a record that is a row: it has the rows
of the import.  From a sheet without one no table is built, and no file is touched. -/
theorem tables_round_trip (host : MemoryHost) (path version : String) :
    let dated (rows : List Requirement) : RequirementTable :=
      ⟨version, host.clock.toOffsetText, rows⟩
    (∀ rows, (dated rows).Short → host.files.Writable path →
      ∃ metadata after, host.run (writeTable rows path version) = (.ok metadata, after) ∧
        metadata.Holds after path version rows) ∧
    ∀ sheet content, host.files.look? sheet = some (.file content) →
      let imported := RequirementImport.ofFile content
      (∃ heard, host.run (importRequirements sheet) = (.ok imported, heard)) ∧
      ((Csv.Sheet.ofBytes content).rows ≠ [] → (dated imported.rows).Short →
        host.files.Writable path →
        ∃ metadata after,
          host.run (buildTable sheet path version) = (.ok (metadata, imported.counts), after) ∧
          metadata.Holds after path version imported.rows) ∧
      ((Csv.Sheet.ofBytes content).rows = [] →
        ∃ after, host.run (buildTable sheet path version) = (.error (.noRows sheet), after) ∧
          after.files = host.files) := by
  intro dated
  refine ⟨fun rows short writable => MemoryHost.holds_writeTable writable short,
    fun sheet content found => ?_⟩
  intro imported
  obtain ⟨lines, heard⟩ := MemoryHost.run_importRequirements found
  have kept : imported.rows = [] ↔ (Csv.Sheet.ofBytes content).rows = [] :=
    (RequirementImport.ofSheet_exact _).rows_eq_nil_iff
  refine ⟨⟨_, heard⟩, fun rows short writable => ?_, fun none => ?_⟩
  · have writable : (host.complaining lines).files.Writable path := writable
    obtain ⟨metadata, after, written, holds⟩ := MemoryHost.holds_writeTable writable short
    refine ⟨metadata, after, ?_, holds⟩
    rw [buildTable, MemoryHost.run_bind_ok heard, if_neg (mt kept.mp rows)]
    exact MemoryHost.run_bind_ok written
  · refine ⟨host.complaining lines, ?_, rfl⟩
    rw [buildTable, MemoryHost.run_bind_ok heard, if_pos (kept.mpr none)]
    rfl

/-! ## A table of the export -/

namespace Export

/-- A table file can be written beside the sheet, whatever its content. -/
theorem writable_table (content : List UInt8) : (host content).files.Writable "table.lz4" := by
  have here : (Path.parent? "table.lz4").filter (· ≠ "") = none := by decide +kernel
  have room : (host content).files.withRoom "table.lz4" = (true, (host content).files) := by
    rw [FileTree.withRoom, here]
  have target : ({} : FileTree).target? "table.lz4" = some ["table.lz4"] := by decide +kernel
  have usable : (Path.isUsable "table.lz4" && Path.isName "table.lz4") = true := by decide +kernel
  have free : (host content).files.find? ["table.lz4"] = none := by
    rw [host, FileTree.find?_put_of_ne _ _ _ _ (by decide)]
    simp [FileTree.find?]
  refine ⟨congrArg Prod.fst room, fun content => ?_⟩
  simp only [Bool.and_eq_true] at usable
  simp [room, FileTree.write?, target?_host, target, usable, free]

/-- The rows of the export in their order. -/
theorem rows_import : (RequirementImport.ofFile content).rows =
    [⟨.b, .female, 2, 8.5, false, .putting⟩, ⟨.c, .male, 1, 255, true, .teeShots⟩] := by
  let sheet := Csv.Sheet.ofBytes content
  have worked : ((sheet.records.map fun record =>
      (Requirement.ofRecord sheet record).toOption).foldl RequirementImport.add {}).rows =
        [⟨.c, .male, 1, 255, true, .teeShots⟩, ⟨.b, .female, 2, 8.5, false, .putting⟩] := by
    decide +kernel
  have sorted : (RequirementImport.ofFile content).rows.Perm _ := List.mergeSort_perm _ _
  rw [worked] at sorted
  refine Requirement.eq_of_inOrder (sorted.trans (.swap ..))
    (RequirementImport.ofSheet_exact sheet).inOrder ?_
  exact List.pairwise_pair.mpr (.gender (by decide +kernel))

end Export

/-- Beside the export, rows with unusual numbers are written and read back, and so is the
table that is built from it; beside an empty sheet no file is touched. -/
theorem tables_round_trip_export :
    let host := Export.host Export.content
    let unusual : List Requirement :=
      [⟨.k, .female, 255, .nan, false, .scoring⟩, ⟨.a, .male, 0, -0, true, .teeShots⟩]
    let imported := RequirementImport.ofFile Export.content
    (∃ metadata after,
      host.run (writeTable unusual "table.lz4" "1.0") = (.ok metadata, after) ∧
      metadata.Holds after "table.lz4" "1.0" unusual) ∧
    (∃ metadata after,
      host.run (buildTable "in.csv" "table.lz4" "1.0") =
        (.ok (metadata, imported.counts), after) ∧
      metadata.Holds after "table.lz4" "1.0" imported.rows) ∧
    ∃ after,
      (Export.host []).run (buildTable "in.csv" "table.lz4" "1.0") =
        (.error (.noRows "in.csv"), after) ∧
      after.files = (Export.host []).files := by
  intro host unusual imported
  obtain ⟨written, built⟩ := tables_round_trip host "table.lz4" "1.0"
  obtain ⟨-, blank⟩ := tables_round_trip (Export.host []) "table.lz4" "1.0"
  refine ⟨written unusual (by decide +kernel) (Export.writable_table _),
    (built "in.csv" _ (Export.look?_sheet _)).2.1 (by decide +kernel) ?_ (Export.writable_table _),
    (blank "in.csv" _ (Export.look?_sheet _)).2.2 (by decide +kernel)⟩
  rw [Export.rows_import]
  decide +kernel

end GolfProgress
