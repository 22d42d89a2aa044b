import GolfProgress.Settings.Basic
import GolfProgress.BreakingPoint.Basic

/-!
# Deciding transitions and confidence

Each step forward has a guard: effort begins the work, high effort with enough
sessions asks for proof, and full progress resolves.
-/

set_option autoImplicit false

namespace GolfProgress

/-- Whether the guard of the step out of the status of a breaking point holds,
given the sessions linked to it since it was created. -/
def TransitionSettings.guard (settings : TransitionSettings) (point : BreakingPoint)
    (sessions : UInt32) : Bool :=
  match point.status with
  | .notStarted => 0 < point.effort.toNat
  | .inProgress =>
    settings.highEffort.toNat ≤ point.effort.toNat &&
      settings.minSessions.toNat ≤ sessions.toNat
  | .awaitingProof => point.progress = BreakingPoint.fullProgress
  | .resolved => false

/-- The transition whose guard holds, if any. -/
def TransitionSettings.decide (settings : TransitionSettings) (point : BreakingPoint)
    (sessions : UInt32) : Option Transition :=
  if settings.guard point sessions then
    point.status.next.map fun goal => ⟨point.status, goal⟩
  else none

/-- How much evidence backs the picture of a breaking point. -/
inductive Confidence where
  | low | medium | high
deriving DecidableEq, Repr, Inhabited

namespace Confidence

/-- The place of a level, the lowest first. -/
def rank : Confidence → Nat
  | .low => 0
  | .medium => 1
  | .high => 2

/-- The stored code. -/
def code : Confidence → String
  | .low => "low"
  | .medium => "medium"
  | .high => "high"

/-- The level in a document. -/
def read? {Node : Type} [Source Node] (node : Node) : Option Confidence :=
  Source.choiceOf? [(.low, ["low"]), (.medium, ["medium"]), (.high, ["high"])] node

end Confidence

/-- The confidence that a number of sessions and a recent benchmark give. -/
def ConfidenceSettings.confidence (settings : ConfidenceSettings) (sessions : UInt32)
    (hasBenchmark : Bool) : Confidence :=
  if settings.forHigh.toNat ≤ sessions.toNat && hasBenchmark then .high
  else if settings.forMedium.toNat ≤ sessions.toNat || hasBenchmark then .medium
  else .low

end GolfProgress
