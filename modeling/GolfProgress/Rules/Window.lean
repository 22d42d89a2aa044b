import GolfProgress.Rules.Evaluation
import GolfProgress.Results.Basic
import GolfProgress.Registry.Basic
import GolfProgress.Failure

/-!
# Evaluating a stored rule in a window of dates

A stored rule is judged by the latest result in the days up to a date.  A text
that stores no rule is answered before the results are looked at.
-/

set_option autoImplicit false

namespace GolfProgress

/-- What a stored rule is asked about. -/
structure RuleRequest where
  player : Uuid
  /-- The stored text of the rule. -/
  rule : String
  test : String
  /-- How many days the window reaches back. -/
  window : UInt32
  /-- The last day of the window. -/
  asOf : Date
  /-- Where an improvement starts from. -/
  baseline : Option Binary64 := none
deriving Inhabited

namespace RuleRequest

/-- The first day of a window, or the first day of the calendar when the window
reaches past it. -/
def windowStart (asOf : Date) (days : UInt32) : Date := asOf.daysBack days.toNat

/-- The first day of the window. -/
def start (request : RuleRequest) : Date := windowStart request.asOf request.window

/-- The direction of the test, higher being better when the registry does not
know it. -/
def direction (registry : Registry) (request : RuleRequest) : Direction :=
  ((registry.find? request.test).map (·.direction)).getD .higherBetter

/-- What the rule says of the latest result in the window. -/
def evaluate (registry : Registry) (log : ResultLog) (request : RuleRequest) :
    Except Failure RuleEvaluation :=
  match SuccessRule.ofText? request.rule with
  | none => .ok (.rejected .invalidRuleFormat)
  | some rule =>
    match log.findLatest request.player request.test request.start request.asOf with
    | .error failure => .error (.store failure)
    | .ok none => .ok (.rejected .noTestInWindow)
    | .ok (some result) =>
      .ok { RuleEvaluation.ofReading rule ⟨result.value.finite?, result.passed⟩
              request.baseline (request.direction registry) with
            date := some result.date }

end RuleRequest

end GolfProgress
