import GolfProgress.Registry.Category
import GolfProgress.Registry.Domain

/-!
# Proof metrics

A benchmark test is measured by a metric, which says which way its values
improve and what each category asks of each gender.
-/

set_option autoImplicit false

namespace GolfProgress

/-- Which way the values of a test improve. -/
inductive Direction where
  | higherBetter | lowerBetter
deriving DecidableEq, Repr, Inhabited

namespace Direction

/-- The stored code. -/
def code : Direction → String
  | .higherBetter => "higher_better"
  | .lowerBetter => "lower_better"

/-- Whether a value is as good as a target or better. -/
def meets (direction : Direction) (value target : Binary64) : Bool :=
  match direction with
  | .higherBetter => decide (target ≤ value)
  | .lowerBetter => decide (value ≤ target)

/-- How much better the second value is than the first. -/
def improvement (direction : Direction) (first second : Binary64) : Binary64 :=
  match direction with
  | .higherBetter => second - first
  | .lowerBetter => first - second

/-- The direction in a document. -/
def read? {Node : Type} [Source Node] (node : Node) : Option Direction :=
  Source.choiceOf? [(.higherBetter, ["higher_better"]), (.lowerBetter, ["lower_better"])] node

end Direction

/-- What each category asks of each gender, category A first. -/
structure Targets where
  male : List Binary64
  female : List Binary64
deriving DecidableEq, Inhabited

namespace Targets

def ofGender (targets : Targets) : Gender → List Binary64
  | .male => targets.male
  | .female => targets.female

/-- The target of a category and gender, when the list reaches that far. -/
def find? (targets : Targets) (category : Category) (gender : Gender) : Option Binary64 :=
  (targets.ofGender gender)[category.index]?

/-- Whether both genders have exactly one target for every category. -/
def isComplete (targets : Targets) : Bool :=
  targets.male.length == Category.all.length && targets.female.length == Category.all.length

def toJson (targets : Targets) : Json :=
  .object [("M", Json.ofList .float targets.male), ("K", Json.ofList .float targets.female)]

/-- The targets in a document. -/
def read? {Node : Type} [Source Node] (node : Node) : Option Targets := do
  let fields ← Source.fields? ["M", "K"] node
  return {
    male := ← fields.required "M" (Source.listOf? Source.number?)
    female := ← fields.required "K" (Source.listOf? Source.number?) }

end Targets

/-- A measurable proof of progress inside a domain. -/
structure Metric where
  id : String
  label : String
  unit : String
  direction : Direction
  test : UInt8
  domain : Domain
  targets : Targets
deriving DecidableEq, Inhabited

namespace Metric

def toJson (metric : Metric) : Json :=
  .object [
    ("id", .text metric.id),
    ("label", .text metric.label),
    ("unit", .text metric.unit),
    ("direction", .text metric.direction.code),
    ("test_number", .nat metric.test.toNat),
    ("domain", .text metric.domain.code),
    ("targets", metric.targets.toJson)]

/-- The metric in a document. -/
def read? {Node : Type} [Source Node] (node : Node) : Option Metric := do
  let fields ← Source.fields?
    ["id", "label", "unit", "direction", "test_number", "domain", "targets"] node
  return {
    id := ← fields.required "id" Source.text?
    label := ← fields.required "label" Source.text?
    unit := ← fields.required "unit" Source.text?
    direction := ← fields.required "direction" Direction.read?
    test := ← fields.required "test_number" Source.uint8?
    domain := ← fields.required "domain" Domain.read?
    targets := ← fields.required "targets" Targets.read? }

end Metric

end GolfProgress
