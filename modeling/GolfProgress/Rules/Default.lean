import GolfProgress.Rules.Basic

/-!
# Rules proposed for a new weakness

A target close to the baseline becomes the threshold of the rule.  A target
further away becomes an improvement of half the gap, between five and twenty
percent.  Without usable measurements the pass flag of the test has to do.
-/

set_option autoImplicit false

namespace GolfProgress.SuccessRule

/-- The gap, relative to the target, below which the target itself is asked for. -/
def directTargetGap : Binary64 := 0.15

/-- The distance of the target from the baseline relative to the target, or as
it is when the target is zero. -/
def relativeGap (baseline target : Binary64) : Binary64 :=
  (target - baseline).abs / (if target.isZero then 1 else target.abs)

/-- The improvement asked for when the target is far away, in percent. -/
def improvementStep (gap : Binary64) : Binary64 := ((gap * 100 / 2).clamp 5 20).round

def proposed (test : String) (baseline target : Binary64) (comparison : Comparison) :
    SuccessRule :=
  if !baseline.isFinite || !target.isFinite then .testPass test
  else if relativeGap baseline target < directTargetGap then
    .metricThreshold test comparison target
  else .improvementPercent (improvementStep (relativeGap baseline target))

def proposedText (test : String) (baseline target : Binary64) (comparison : Comparison) :
    String :=
  (proposed test baseline target comparison).toText

end GolfProgress.SuccessRule
