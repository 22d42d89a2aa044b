import GolfProgress.Registry.Metric

/-!
# Test catalogs

A catalog lists benchmark tests with their metrics and with whether they are
hard requirements.  Entries may repeat a test number; the registry decides which
one counts.
-/

set_option autoImplicit false

namespace GolfProgress

/-- One test of a catalog. -/
structure CatalogEntry where
  test : UInt8
  metricId : String
  label : String
  unit : String
  direction : Direction
  domain : Domain
  hard : Bool
  targets : Targets
deriving DecidableEq, Inhabited

namespace CatalogEntry

def metric (entry : CatalogEntry) : Metric :=
  { id := entry.metricId, label := entry.label, unit := entry.unit,
    direction := entry.direction, test := entry.test, domain := entry.domain,
    targets := entry.targets }

def toJson (entry : CatalogEntry) : Json :=
  .object [
    ("test_number", .nat entry.test.toNat),
    ("metric_id", .text entry.metricId),
    ("label", .text entry.label),
    ("unit", .text entry.unit),
    ("direction", .text entry.direction.code),
    ("domain", .text entry.domain.code),
    ("hard_constraint", .bool entry.hard),
    ("targets", entry.targets.toJson)]

/-- The entry in a document; a test is soft unless it says otherwise. -/
def read? {Node : Type} [Source Node] (node : Node) : Option CatalogEntry := do
  let fields ← Source.fields?
    ["test_number", "metric_id", "label", "unit", "direction", "domain", "hard_constraint",
      "targets"] node
  return {
    test := ← fields.required "test_number" Source.uint8?
    metricId := ← fields.required "metric_id" Source.text?
    label := ← fields.required "label" Source.text?
    unit := ← fields.required "unit" Source.text?
    direction := ← fields.required "direction" Direction.read?
    domain := ← fields.required "domain" Domain.read?
    hard := ← fields.defaulting "hard_constraint" false Source.bool?
    targets := ← fields.required "targets" Targets.read? }

end CatalogEntry

/-- A list of benchmark tests. -/
structure Catalog where
  entries : List CatalogEntry
deriving DecidableEq, Inhabited

namespace Catalog

def toJson (catalog : Catalog) : Json :=
  .object [("tests", Json.ofList CatalogEntry.toJson catalog.entries)]

/-- The catalog in a document. -/
def read? {Node : Type} [Source Node] (node : Node) : Option Catalog := do
  let fields ← Source.fields? ["tests"] node
  return ⟨← fields.required "tests" (Source.listOf? CatalogEntry.read?)⟩

end Catalog

end GolfProgress
