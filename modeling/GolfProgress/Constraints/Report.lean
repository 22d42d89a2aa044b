import GolfProgress.Constraints.Gap
import GolfProgress.Requirements.Basic
import GolfProgress.Document.Stamps

/-!
# Constraint reports

A report says which requirements of the next category a player does not meet.
Hard ones come before soft ones, larger gaps before smaller ones and lower tests
before higher ones; the report lists as many as the settings allow, but counts
and scores them all.
-/

set_option autoImplicit false

namespace GolfProgress

/-- Whether an unmet requirement blocks advancement. -/
inductive Severity where
  | hard | soft
deriving DecidableEq, Repr, Inhabited

namespace Severity

/-- The severity of a requirement. -/
def ofHard (hard : Bool) : Severity := if hard then .hard else .soft

/-- The place of a severity, hard before soft. -/
def rank : Severity → Nat
  | .hard => 0
  | .soft => 1

/-- The stored code. -/
def code : Severity → String
  | .hard => "hard"
  | .soft => "soft"

/-- The severity in a document. -/
def read? {Node : Type} [Source Node] (node : Node) : Option Severity :=
  Source.choiceOf? [(.hard, ["hard"]), (.soft, ["soft"])] node

end Severity

/-- Where the requirements of a report came from. -/
inductive RequirementOrigin where
  | store | cache | builtinFallback
deriving DecidableEq, Repr, Inhabited

namespace RequirementOrigin

/-- The stored code. -/
def code : RequirementOrigin → String
  | .store => "store"
  | .cache => "cache"
  | .builtinFallback => "builtin_fallback"

/-- The origin in a document. -/
def read? {Node : Type} [Source Node] (node : Node) : Option RequirementOrigin :=
  Source.choiceOf? [(.store, ["store"]), (.cache, ["cache"]),
    (.builtinFallback, ["builtin_fallback"])] node

end RequirementOrigin

/-- A requirement that is not met. -/
structure BindingConstraint where
  test : UInt8
  domain : Domain
  severity : Severity
  gap : Binary64
  current : Binary64
  required : Binary64
deriving DecidableEq, Inhabited

namespace BindingConstraint

/-- Whether a constraint may stand before another. -/
def isBefore (a b : BindingConstraint) : Bool :=
  if a.severity ≠ b.severity then decide (a.severity.rank ≤ b.severity.rank)
  else if a.gap.orderKey ≠ b.gap.orderKey then decide (b.gap.orderKey ≤ a.gap.orderKey)
  else decide (a.test ≤ b.test)

def toJson (constraint : BindingConstraint) : Json :=
  .object [
    ("test_number", .nat constraint.test.toNat),
    ("domain", .text constraint.domain.code),
    ("severity", .text constraint.severity.code),
    ("gap_normalized", .float constraint.gap),
    ("current_value", .float constraint.current),
    ("required_value", .float constraint.required)]

/-- The constraint in a document. -/
def read? {Node : Type} [Source Node] (node : Node) : Option BindingConstraint := do
  let fields ← Source.fields?
    ["test_number", "domain", "severity", "gap_normalized", "current_value",
      "required_value"] node
  return {
    test := ← fields.required "test_number" Source.uint8?
    domain := ← fields.required "domain" Domain.read?
    severity := ← fields.required "severity" Severity.read?
    gap := ← fields.required "gap_normalized" Source.number?
    current := ← fields.required "current_value" Source.number?
    required := ← fields.required "required_value" Source.number? }

end BindingConstraint

/-- The latest values of some tests; of several values of a test the last one
counts. -/
structure Measurements where
  values : List (UInt8 × Binary64)
deriving Inhabited

/-- The latest value of a test. -/
def Measurements.find? (measurements : Measurements) (test : UInt8) : Option Binary64 :=
  measurements.values.reverse.lookup test

/-- What keeps a player out of the next category. -/
structure ConstraintReport where
  player : Uuid
  current : Category
  target : Category
  gender : Gender
  /-- The foremost unmet requirements. -/
  constraints : List BindingConstraint
  canAdvance : Bool
  readiness : Binary64
  /-- The requirements that had a measured value. -/
  evaluated : Nat
  /-- The unmet requirements, listed or not. -/
  unmetTotal : Nat
  origin : RequirementOrigin
deriving DecidableEq, Inhabited

namespace ConstraintReport

/-- A requirement beside the measured value to judge it by, when both are
finite. -/
def measured? (measurements : Measurements) (row : Requirement) :
    Option (Requirement × Binary64) := do
  let current ← (measurements.find? row.test).bind Binary64.finite?
  if row.minimum.isFinite then some (row, current) else none

/-- The constraint that a measured requirement makes, when it is not met. -/
def unmet? (registry : Registry) (measured : Requirement × Binary64) :
    Option BindingConstraint :=
  let (row, current) := measured
  let gap := (registry.direction row.test).gap current row.minimum
  if gap ≤ 0 then none
  else some {
    test := row.test, domain := row.domain, severity := .ofHard row.hard, gap, current,
    required := row.minimum }

/-- The sum of the gaps of one severity, from the first to the last. -/
def gapSum (severity : Severity) (unmet : List BindingConstraint) : Binary64 :=
  (unmet.filter fun constraint => constraint.severity = severity).foldl
    (fun sum constraint => sum + constraint.gap) 0

/-- The foremost constraints, at most `limit` of them. -/
def foremost (limit : Nat) (unmet : List BindingConstraint) : List BindingConstraint :=
  (unmet.mergeSort BindingConstraint.isBefore).take limit

def ofRows (registry : Registry) (settings : ConstraintSettings) (player : Uuid)
    (current target : Category) (gender : Gender) (measurements : Measurements)
    (rows : List Requirement) (origin : RequirementOrigin) : ConstraintReport :=
  let evaluated := rows.filterMap (measured? measurements)
  let unmet := evaluated.filterMap (unmet? registry)
  { player, current, target, gender,
    constraints := foremost settings.maxBinding.toNat unmet
    canAdvance := unmet.all fun constraint => constraint.severity ≠ .hard
    readiness := settings.readiness (gapSum .hard unmet) (gapSum .soft unmet)
    evaluated := evaluated.length
    unmetTotal := unmet.length
    origin }

def toJson (report : ConstraintReport) : Json :=
  .object [
    ("player_id", .text report.player.toText),
    ("current_category", .text report.current.code),
    ("target_category", .text report.target.code),
    ("gender", .text report.gender.code),
    ("binding_constraints", Json.ofList BindingConstraint.toJson report.constraints),
    ("can_advance", .bool report.canAdvance),
    ("readiness_score", .float report.readiness),
    ("requirements_evaluated", .nat report.evaluated),
    ("unmet_total", .nat report.unmetTotal),
    ("requirements_source", .text report.origin.code)]

/-- The report in a document. -/
def read? {Node : Type} [Source Node] (node : Node) : Option ConstraintReport := do
  let fields ← Source.fields?
    ["player_id", "current_category", "target_category", "gender", "binding_constraints",
      "can_advance", "readiness_score", "requirements_evaluated", "unmet_total",
      "requirements_source"] node
  return {
    player := ← fields.required "player_id" Uuid.read?
    current := ← fields.required "current_category" Category.read?
    target := ← fields.required "target_category" Category.read?
    gender := ← fields.required "gender" Gender.read?
    constraints := ← fields.required "binding_constraints"
      (Source.listOf? BindingConstraint.read?)
    canAdvance := ← fields.required "can_advance" Source.bool?
    readiness := ← fields.required "readiness_score" Source.number?
    evaluated := ← fields.required "requirements_evaluated" Source.natural?
    unmetTotal := ← fields.required "unmet_total" Source.natural?
    origin := ← fields.required "requirements_source" RequirementOrigin.read? }

end ConstraintReport

end GolfProgress
