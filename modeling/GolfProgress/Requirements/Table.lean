import GolfProgress.Requirements.Store

/-!
# Requirement tables

A table holds the rows that were built from one export, with the version of its
schema and the time it was generated.  Indexed by category and gender, with the
rows of each group in ascending order of their tests, it is a requirement store.
-/

set_option autoImplicit false

namespace GolfProgress

structure RequirementTable where
  schemaVersion : String := ""
  /-- When the table was generated. -/
  generatedAt : String := ""
  rows : List Requirement := []
deriving DecidableEq, Inhabited

namespace RequirementTable

def toJson (table : RequirementTable) : Json :=
  .object [("schema_version", .text table.schemaVersion),
    ("generated_at", .text table.generatedAt),
    ("rows", Json.ofList Requirement.toJson table.rows)]

/-- The table in a document. -/
def read? {Node : Type} [Source Node] (node : Node) : Option RequirementTable := do
  let fields ← Source.fields? ["schema_version", "generated_at", "rows"] node
  return {
    schemaVersion := ← fields.required "schema_version" Source.text?
    generatedAt := ← fields.required "generated_at" Source.text?
    rows := ← fields.required "rows" (Source.listOf? Requirement.read?) }

end RequirementTable

/-- The rows of one category and gender. -/
structure RequirementGroup where
  category : Category
  gender : Gender
  rows : List Requirement
deriving DecidableEq, Inhabited

/-- A requirement table indexed by category and gender. -/
structure TableRequirements where
  schemaVersion : String := ""
  groups : List RequirementGroup := []
deriving DecidableEq, Inhabited

namespace TableRequirements

/-- Groups with a row added to the end of its group, which is made when it is
not there. -/
def addRow (row : Requirement) : List RequirementGroup → List RequirementGroup
  | [] => [⟨row.category, row.gender, [row]⟩]
  | group :: others =>
    if group.category = row.category ∧ group.gender = row.gender then
      { group with rows := group.rows ++ [row] } :: others
    else group :: addRow row others

/-- Rows in ascending order of their tests, rows of one test in their old order. -/
def sortRows (rows : List Requirement) : List Requirement :=
  rows.mergeSort fun a b => decide (a.test ≤ b.test)

/-- The index of a table. -/
def ofTable (table : RequirementTable) : TableRequirements where
  schemaVersion := table.schemaVersion
  groups := (table.rows.foldl (fun groups row => addRow row groups) []).map fun group =>
    { group with rows := sortRows group.rows }

/-- The number of rows in all groups. -/
def size (store : TableRequirements) : Nat :=
  store.groups.foldl (fun size group => size + group.rows.length) 0

/-- Whether there is no group. -/
def isEmpty (store : TableRequirements) : Bool := store.groups.isEmpty

def rowsOf (store : TableRequirements) (category : Category) (gender : Gender) :
    List Requirement :=
  ((store.groups.find? fun group =>
    group.category = category && group.gender = gender).map (·.rows)).getD []

instance : RequirementStore TableRequirements where
  list store category gender := (.ok (store.rowsOf category gender), store)

end TableRequirements

end GolfProgress
