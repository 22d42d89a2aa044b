import GolfProgress.Registry.Basic

/-!
# Category requirements

A requirement is the least result on one test with which a player is placed in
a category; for a test where lower is better it is the greatest.  The rows that
a test catalog implies stand in for requirement tables that cannot be read.
-/

set_option autoImplicit false

namespace GolfProgress

/-- The result on one test that a category asks for. -/
structure Requirement where
  category : Category
  gender : Gender
  test : UInt8
  /-- The threshold, in the unit of the test. -/
  minimum : Binary64
  /-- Whether the requirement blocks advancement. -/
  hard : Bool
  domain : Domain
deriving DecidableEq, Inhabited

namespace Requirement

/-- The names of the fields in documents. -/
def fieldNames : List String :=
  ["category", "gender", "test_number", "minimum_value", "is_hard_constraint", "domain"]

def toJson (row : Requirement) : Json :=
  .object [
    ("category", .text row.category.code),
    ("gender", .text row.gender.code),
    ("test_number", .nat row.test.toNat),
    ("minimum_value", .float row.minimum),
    ("is_hard_constraint", .bool row.hard),
    ("domain", .text row.domain.code)]

/-- The requirement in a document. -/
def read? {Node : Type} [Source Node] (node : Node) : Option Requirement := do
  let fields ← Source.fields? fieldNames node
  return {
    category := ← fields.required "category" Category.read?
    gender := ← fields.required "gender" Gender.read?
    test := ← fields.required "test_number" Source.uint8?
    minimum := ← fields.required "minimum_value" Source.number?
    hard := ← fields.required "is_hard_constraint" Source.bool?
    domain := ← fields.required "domain" Domain.read? }

end Requirement

/-- The requirement of a metric for a category and gender, when it has one. -/
def Registry.requirement? (registry : Registry) (category : Category) (gender : Gender)
    (metric : Metric) : Option Requirement :=
  (metric.targets.find? category gender).map fun minimum =>
    { category, gender, test := metric.test, minimum, hard := registry.isHard metric.test,
      domain := metric.domain }

/-- The requirements that the registry implies, in ascending order of the tests. -/
def Registry.requirements (registry : Registry) (category : Category) (gender : Gender) :
    List Requirement :=
  registry.metrics.filterMap (registry.requirement? category gender)

end GolfProgress
