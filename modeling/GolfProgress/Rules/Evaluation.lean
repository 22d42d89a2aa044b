import GolfProgress.Rules.Basic
import GolfProgress.Document.Stamps

/-!
# Evaluating a rule on a reading

`RuleEvaluation.ofReading` judges one reading by a rule.  Where a number decides,
the evaluation echoes the comparison, the actual value and the required one; an
improvement is echoed to one decimal but judged in full.  A reading that cannot
be judged fails with a reason.
-/

set_option autoImplicit false

namespace GolfProgress

/-- Why a rule could not be judged; an expected answer, not a fault. -/
inductive RuleMiss where
  | invalidRuleFormat | noTestInWindow | nonNumericValue | missingBaseline
deriving DecidableEq, Repr, Inhabited

namespace RuleMiss

/-- Every reason. -/
def all : List RuleMiss := [.invalidRuleFormat, .noTestInWindow, .nonNumericValue, .missingBaseline]

/-- The stored code. -/
def code : RuleMiss → String
  | .invalidRuleFormat => "invalid_rule_format"
  | .noTestInWindow => "no_test_in_window"
  | .nonNumericValue => "non_numeric_value"
  | .missingBaseline => "missing_baseline"

/-- The reason in a document. -/
def read? {Node : Type} [Source Node] (node : Node) : Option RuleMiss :=
  Source.choiceOf? (all.map fun miss => (miss, [miss.code])) node

end RuleMiss

/-- What a rule says of a reading. -/
structure RuleEvaluation where
  passed : Bool
  reason : Option RuleMiss := none
  comparison : Option Comparison := none
  actual : Option Binary64 := none
  required : Option Binary64 := none
  /-- The date of the reading. -/
  date : Option Date := none
deriving DecidableEq, Inhabited

/-- A reading as a rule sees it. -/
structure Reading where
  /-- The finite value, when there is one. -/
  value : Option Binary64
  /-- The pass flag, when one was recorded. -/
  passed : Option Bool
deriving DecidableEq, Inhabited

/-- The reading of a value alone; one that is not finite counts as none. -/
def Reading.ofValue (value : Binary64) : Reading := ⟨value.finite?, none⟩

/-- The improvement from a baseline to a value, in percent of the baseline;
nothing when an input is not finite or the baseline is zero. -/
def Direction.improvementPercent (direction : Direction) (baseline value : Binary64) :
    Option Binary64 :=
  if !baseline.isFinite || !value.isFinite || baseline.isZero then none
  else some (direction.improvement baseline value * 100 / baseline.abs)

namespace RuleEvaluation

/-- The evaluation of a reading that could not be judged. -/
def rejected (miss : RuleMiss) : RuleEvaluation := { passed := false, reason := some miss }

/-- A number to one decimal. -/
def toOneDecimal (value : Binary64) : Binary64 := (value * 10).round / 10

/-- What a rule says of a reading, given the baseline and the direction of the
metric; only improvement rules look at these. -/
def ofReading (rule : SuccessRule) (reading : Reading) (baseline : Option Binary64)
    (direction : Direction) : RuleEvaluation :=
  match rule with
  | .testPass _ => { passed := reading.passed.getD false, actual := reading.value }
  | .metricThreshold _ comparison threshold =>
    match reading.value with
    | some actual =>
      { passed := comparison.holds actual threshold, comparison := some comparison,
        actual := some actual, required := some threshold }
    | none =>
      { rejected .nonNumericValue with
        comparison := some comparison, required := some threshold }
  | .improvementPercent percent =>
    match reading.value with
    | none => rejected .nonNumericValue
    | some value =>
      match baseline.bind fun start => direction.improvementPercent start value with
      | some change =>
        { passed := decide (percent ≤ change), comparison := some .atLeast,
          actual := some (toOneDecimal change), required := some percent }
      | none => { rejected .missingBaseline with required := some percent }

/-- The evaluation as JSON, without the parts that it lacks. -/
def toJson (evaluation : RuleEvaluation) : Json :=
  .object (
    ("passed", .bool evaluation.passed) ::
    ((evaluation.reason.map fun miss => ("reason", Json.text miss.code)).toList ++
    (evaluation.comparison.map fun comparison =>
      ("operator", Json.text comparison.symbol)).toList ++
    (evaluation.actual.map fun value => ("actual_value", Json.float value)).toList ++
    (evaluation.required.map fun value => ("required_value", Json.float value)).toList ++
    (evaluation.date.map fun date => ("test_date", Json.text date.toText)).toList))

/-- The evaluation in a document. -/
def read? {Node : Type} [Source Node] (node : Node) : Option RuleEvaluation := do
  let fields ← Source.fields?
    ["passed", "reason", "operator", "actual_value", "required_value", "test_date"] node
  return {
    passed := ← fields.required "passed" Source.bool?
    reason := ← fields.optional "reason" RuleMiss.read?
    comparison := ← fields.optional "operator" Comparison.read?
    actual := ← fields.optional "actual_value" Source.number?
    required := ← fields.optional "required_value" Source.number?
    date := ← fields.optional "test_date" Date.read? }

end RuleEvaluation

end GolfProgress
