import GolfProgress.Binary64.Decimal
import GolfProgress.Csv.Sheet
import GolfProgress.Failure
import GolfProgress.Requirements.Basic

/-!
# Importing requirements

Requirement rows come from CSV sheets with a column for each field.  Records
that do not read as rows are counted and passed over; `RowFault` says why.  A row
replaces an earlier one for the same category, gender and test.  A row whose domain
is not the one that its test is known to measure is counted, and kept as it is.
-/

set_option autoImplicit false

namespace GolfProgress

/-- Why a record of a sheet is no row: what is wrong with it first. -/
inductive RowFault where
  /-- It does not hold the cells of a row. -/
  | cells
  | category (text : String)
  | gender (text : String)
  | test (text : String)
  | minimum (text : String)
  | hard (text : String)
  | domain (text : String)
deriving DecidableEq, Repr, Inhabited

namespace RowFault

/-- The text of a cell that holds no value of its field. -/
def ofCell (field text : String) : String := "Invalid " ++ field ++ " value: '" ++ text ++ "'"

def message : RowFault → String
  | .cells => "The record does not hold the cells of a row"
  | .category text => (Failure.invalidCategory text).message
  | .gender text => (Failure.invalidGender text).message
  | .test text => ofCell "test_number" text
  | .minimum text => ofCell "minimum_value" text
  | .hard text => ofCell "is_hard_constraint" text
  | .domain text => (Failure.invalidDomain text).message

end RowFault

namespace Requirement

/-- A flag in a sheet; nothing stands for no. -/
def flagOfText? (text : String) : Option Bool :=
  let word := Text.lowerAscii (Text.trimString text)
  if ["true", "1", "yes", "y"].contains word then some true
  else if ["false", "0", "no", "n", ""].contains word then some false
  else none

/-- A finite threshold in a sheet, with a point or a comma before the fraction. -/
def minimumOfText? (text : String) : Option Binary64 :=
  (Binary64.ofChars? (Text.commaToPoint (Text.trim text.toList))).bind Binary64.finite?

/-- A test number in a sheet. -/
def testOfText? (text : String) : Option UInt8 :=
  (Text.natAtMost? 255 (Text.trim text.toList)).map UInt8.ofNat

/-- What a cell holds; the fault is about the cell without blanks around it. -/
def ofCell {α : Type} (fault : String → RowFault) (ofText? : String → Option α)
    (text : String) : Except RowFault α :=
  match ofText? text with
  | some value => .ok value
  | none => .error (fault (Text.trimString text))

/-- The row whose fields some cells hold, in the order of the fields. -/
def ofCells : List String → Except RowFault Requirement
  | [category, gender, test, minimum, hard, domain] => do
    return {
      category := ← ofCell .category Category.ofText? category
      gender := ← ofCell .gender Gender.ofText? gender
      test := ← ofCell .test testOfText? test
      minimum := ← ofCell .minimum minimumOfText? minimum
      hard := ← ofCell .hard flagOfText? hard
      domain := ← ofCell .domain (fun text => Domain.ofCode? (Text.trimString text)) domain }
  | _ => .error .cells

def ofRecord (sheet : Csv.Sheet) (record : Csv.Record) : Except RowFault Requirement :=
  match sheet.cells? fieldNames record with
  | some cells => ofCells cells
  | none => .error .cells

/-- Whether two rows are for the same category, gender and test. -/
def sameKey (row other : Requirement) : Bool :=
  row.category = other.category && row.gender = other.gender && row.test = other.test

/-- Whether the domain of a row is not the one that its test is known to measure. -/
def isMisplaced (row : Requirement) : Bool :=
  (Domain.ofTest? row.test).any fun domain => domain ≠ row.domain

/-- Whether a row stands before another or beside it: by the code of the gender,
then by category, then by test. -/
def before (row other : Requirement) : Bool :=
  if row.gender ≠ other.gender then row.gender.index < other.gender.index
  else if row.category ≠ other.category then row.category.index < other.category.index
  else row.test ≤ other.test

end Requirement

/-- What an import met. -/
structure ImportCounts where
  /-- The records under the header. -/
  total : UInt32 := 0
  /-- The records that were rows. -/
  parsed : UInt32 := 0
  /-- The records that were not. -/
  failed : UInt32 := 0
  /-- The rows with another domain than the one their test is known to measure. -/
  misplaced : UInt32 := 0
  /-- The rows that replaced an earlier one. -/
  replaced : UInt32 := 0
deriving DecidableEq, Repr, Inhabited

/-- The rows of a sheet and what the import met. -/
structure RequirementImport where
  rows : List Requirement := []
  counts : ImportCounts := {}
deriving DecidableEq, Inhabited

namespace RequirementImport

/-- The import after one more record, which is a row or is not. -/
def add (state : RequirementImport) (record : Option Requirement) : RequirementImport :=
  let counts := { state.counts with total := state.counts.total + 1 }
  match record with
  | none => { state with counts := { counts with failed := counts.failed + 1 } }
  | some row =>
    let counts := { counts with parsed := counts.parsed + 1 }
    let counts :=
      if row.isMisplaced then { counts with misplaced := counts.misplaced + 1 } else counts
    let counts :=
      if state.rows.any row.sameKey then { counts with replaced := counts.replaced + 1 }
      else counts
    { rows := row :: state.rows.filter fun other => !row.sameKey other, counts }

/-- The import of records, each a row or not, with its rows in order. -/
def ofRecords (records : List (Option Requirement)) : RequirementImport :=
  let state := records.foldl add {}
  { state with rows := state.rows.mergeSort Requirement.before }

def ofSheet (sheet : Csv.Sheet) : RequirementImport :=
  ofRecords (sheet.records.map fun record => (Requirement.ofRecord sheet record).toOption)

/-- The records of a sheet that are passed over, each by its number, where the header
has number 1, and its fault. -/
def passedOver (sheet : Csv.Sheet) : List (Nat × RowFault) :=
  (sheet.records.zipIdx 2).filterMap fun (record, number) =>
    match Requirement.ofRecord sheet record with
    | .ok _ => none
    | .error fault => some (number, fault)

def ofFile (bytes : List UInt8) : RequirementImport := ofSheet (Csv.Sheet.ofBytes bytes)

end RequirementImport

end GolfProgress
