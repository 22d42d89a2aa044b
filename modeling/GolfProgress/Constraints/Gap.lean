import GolfProgress.Settings.Basic
import GolfProgress.Registry.Metric
import GolfProgress.Binary64.Exponential

/-!
# Gaps and readiness

The gap of a value is how far it falls short of a requirement, relative to the
requirement.  Readiness falls from 100 with the weighted sums of the gaps.
-/

set_option autoImplicit false

namespace GolfProgress

/-- How far a value falls short of a requirement, relative to the requirement or,
when that is zero, as it is; zero when the requirement is met. -/
def Direction.gap (direction : Direction) (current required : Binary64) : Binary64 :=
  let shortfall := match direction with
    | .higherBetter => required - current
    | .lowerBetter => current - required
  (shortfall / (if required.isZero then 1 else required.abs)).max 0

/-- A hundred times `exp` of minus the weighted gaps, to one decimal, within 0
and 100. -/
def ConstraintSettings.readiness (settings : ConstraintSettings)
    (hardGaps softGaps : Binary64) : Binary64 :=
  let penalty := settings.hardWeight * hardGaps + settings.softWeight * softGaps
  ((100 * (-penalty).exp * 10).round / 10).clamp 0 100

end GolfProgress
