import GolfProgress.Calendar.Text
import GolfProgress.Files.Host
import GolfProgress.Requirements.Import
import GolfProgress.Requirements.TableFile
import GolfProgress.Warning

/-!
# Building, writing and reading table files

A table is built from a CSV sheet with at least one row; each record that is no
row is warned of.  Before a file is written the directories around it are made.
-/

set_option autoImplicit false

namespace GolfProgress

/-- Why a table was not built or read. -/
inductive BuildFailure where
  /-- The sheet cannot be opened. -/
  | sheet (path : String)
  /-- The sheet holds no row. -/
  | noRows (path : String)
  /-- A directory around the table file cannot be made. -/
  | directory (path : String)
  /-- The table file cannot be written. -/
  | output (path : String)
  /-- The table file cannot be read. -/
  | table (path : String)
  /-- The table file holds no table. -/
  | content (fault : TableFault)
deriving DecidableEq, Repr, Inhabited

/-- The text of a failure. -/
def BuildFailure.message : BuildFailure → String
  | .sheet path => "Failed to open CSV file: " ++ path
  | .noRows path => "No valid requirement rows in " ++ path
  | .directory path => "Failed to create output directory: " ++ path
  | .output path => "Failed to write output file: " ++ path
  | .table path => "Failed to read table file: " ++ path
  | .content .compression => "Failed to decompress LZ4"
  | .content .encoding => "Failed to deserialize MessagePack"

variable {m : Type → Type} [Monad m] [Host m]

/-- The content of a table file. -/
def readTableFile (path : String) : ExceptT BuildFailure m (List UInt8) := do
  match ← Host.look? (m := m) path with
  | some (.file content) => return content
  | _ => throw (.table path)

/-- The table in a file. -/
def loadTable (path : String) : ExceptT BuildFailure m RequirementTable := do
  match RequirementTable.ofFile (← readTableFile path) with
  | .ok table => return table
  | .error fault => throw (.content fault)

/-- Whether a table file has a checksum. -/
def verifyTable (path expected : String) : ExceptT BuildFailure m Bool := do
  return checksumMatches (← readTableFile path) expected

/-- Warns of every record of a sheet that is passed over. -/
def warnOfRecords (sheet : Csv.Sheet) : ExceptT BuildFailure m Unit :=
  (RequirementImport.passedOver sheet).forM fun (number, fault) =>
    Host.complain (m := m) (Warning.passedOver number fault).line

/-- The rows of a sheet; a directory opens as a sheet without any. -/
def importRequirements (path : String) : ExceptT BuildFailure m RequirementImport := do
  match ← Host.look? (m := m) path with
  | some (.file content) =>
    let sheet := Csv.Sheet.ofBytes content
    warnOfRecords sheet
    return .ofSheet sheet
  | some .directory => return {}
  | none => throw (.sheet path)

/-- Makes the directories around a file. -/
def makeRoom (path : String) : ExceptT BuildFailure m Unit := do
  match (Path.parent? path).filter (· ≠ "") with
  | none => return
  | some directory =>
    if !(← Host.makeDirectories (m := m) directory) then throw (.directory directory)

/-- Writes a table of rows, generated now. -/
def writeTable (rows : List Requirement) (path schemaVersion : String) :
    ExceptT BuildFailure m TableMetadata := do
  let now ← Host.now (m := m)
  let table : RequirementTable := { schemaVersion, generatedAt := now.toOffsetText, rows }
  let content := table.toFile
  makeRoom path
  if !(← Host.write (m := m) path content) then throw (.output path)
  return .ofTable table content

/-- Builds a table from a sheet. -/
def buildTable (sheet path schemaVersion : String) :
    ExceptT BuildFailure m (TableMetadata × ImportCounts) := do
  let imported ← importRequirements sheet
  if imported.rows = [] then throw (.noRows sheet)
  return (← writeTable imported.rows path schemaVersion, imported.counts)

end GolfProgress
