import GolfProgress.Bytes.Utf8
import GolfProgress.Csv.Record
import GolfProgress.Text.Blank

/-!
# CSV sheets

The first record of a file is its header, which names the columns.  Names and
cells are read without the blanks around them.  A record with more or fewer
fields than the header does not read, nor does one that is not UTF-8.  When the
header itself is not UTF-8 the columns have no names, and the cells asked for
are those in front.
-/

set_option autoImplicit false

namespace GolfProgress.Csv

/-- A header and the records under it. -/
structure Sheet where
  header : Record
  records : List Record
deriving DecidableEq, Repr, Inhabited

/-- The trimmed texts of a record that is UTF-8. -/
def Record.texts? (record : Record) : Option (List String) :=
  record.mapM fun field => (Bytes.toText? field).map Text.trimString

namespace Sheet

/-- The sheet of a file; an empty file has an empty header. -/
def ofBytes (bytes : List UInt8) : Sheet :=
  match Csv.records bytes with
  | [] => ⟨[], []⟩
  | header :: records => ⟨header, records⟩

/-- The cell of a column that occurs once. -/
def cell? (cells : List (String × String)) (name : String) : Option String :=
  match cells.filter fun cell => cell.1 = name with
  | [cell] => some cell.2
  | _ => none

def cells? (sheet : Sheet) (names : List String) (record : Record) : Option (List String) := do
  if record.length ≠ sheet.header.length then none
  let texts ← record.texts?
  match sheet.header.texts? with
  | some columns => names.mapM (cell? (columns.zip texts))
  | none => if names.length ≤ texts.length then some (texts.take names.length) else none

end Sheet

end GolfProgress.Csv
