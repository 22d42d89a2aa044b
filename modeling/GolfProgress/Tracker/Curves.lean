import GolfProgress.Settings.Basic
import GolfProgress.BreakingPoint.Basic

/-!
# Effort and progress curves

The two signals come from separate inputs: effort from the number of sessions,
progress from benchmark readings.  A reading that does not pass never lowers
progress and never completes it.
-/

set_option autoImplicit false

namespace GolfProgress

/-- The effort of a number of sessions: so much for each, up to the ceiling of
the settings and never above that of breaking points. -/
def EffortSettings.effort (settings : EffortSettings) (sessions : UInt32) : UInt8 :=
  UInt8.ofNat (min (sessions.toNat * settings.perSession.toNat)
    (min settings.ceiling.toNat BreakingPoint.effortCeiling.toNat))

/-- The share of the way from a baseline to a target that a value covers, in
percent; nothing when there is no way to cover or the value is not finite.  The
sign of the way tells which direction is better. -/
def gapClosed (baseline target value : Binary64) : Option Binary64 :=
  let span := target - baseline
  if !span.isFinite || !value.isFinite || span.isZero then none
  else some (((value - baseline) / span * 100).clamp 0 100)

/-- The progress that a reading which does not pass may claim: not below the
existing progress, and of its own not above the cap. -/
def unresolvedProgress (existing : UInt8) (closed : Option Binary64) (cap : UInt8) : UInt8 :=
  let top := min cap.toNat (BreakingPoint.fullProgress.toNat - 1)
  let claimed := match closed with
    | some percent => (percent.round.clamp 0 (.ofNat top)).toNatAtMost top
    | none => 0
  UInt8.ofNat (max existing.toNat claimed)

end GolfProgress
