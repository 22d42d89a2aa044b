import GolfProgress.Document.Stamps
import GolfProgress.Store.Failure

/-!
# The log of training sessions

Completed sessions belong to a player and may be linked to a breaking point.
Sessions completed together are logged as one entry with their number.
-/

set_option autoImplicit false

namespace GolfProgress

/-- A number of sessions completed at one instant. -/
structure SessionEntry where
  player : Uuid
  point : Option Uuid
  completedAt : Instant
  count : Nat := 1
deriving DecidableEq, Inhabited

/-- Whose sessions are counted. -/
inductive SessionScope where
  | player (id : Uuid)
  | point (id : Uuid)
deriving DecidableEq, Inhabited

def SessionScope.holds (scope : SessionScope) (entry : SessionEntry) : Bool :=
  match scope with
  | .player id => entry.player = id
  | .point id => entry.point = some id

/-- A log of completed sessions. -/
structure SessionLog where
  entries : List SessionEntry := []
  /-- The failure with which every count is answered, when there is one. -/
  failure : Option StoreFailure := none
deriving Inhabited

namespace SessionLog

/-- The log with one more entry. -/
def record (log : SessionLog) (entry : SessionEntry) : SessionLog :=
  { log with entries := log.entries ++ [entry] }

/-- The number of sessions in a scope completed since an instant. -/
def total (log : SessionLog) (scope : SessionScope) (since : Instant) : Nat :=
  (log.entries.filter fun entry =>
    decide (since ≤ entry.completedAt) && scope.holds entry).foldl
      (fun total entry => total + entry.count) 0

/-- The number of sessions in a scope completed since an instant, at most the
largest number of thirty-two bits. -/
def count (log : SessionLog) (scope : SessionScope) (since : Instant) :
    Except StoreFailure UInt32 :=
  match log.failure with
  | some failure => .error failure
  | none => .ok (UInt32.ofNat (min (log.total scope since) (UInt32.size - 1)))

end SessionLog

end GolfProgress
