import GolfProgress.Sessions.Log
import GolfProgress.Tracker.Curves

/-!
# Counts of a log that grows

The sessions that count for a record are those linked to it and completed since its creation
(`linkedSince`); what the log counts for a record is their number (`SessionLog.total_point`), so
sessions of another record, of none or from before the creation add nothing to it.  Entries that
are put into the log add to a count (`SessionLog.total_le_of_sublist`), and a count is the number
as far as thirty-two bits reach (`SessionLog.toNat_of_count`).

Nothing more is needed for effort: where the count stops, every curve that rises at all has been
at its ceiling for long, so the effort of a count is the curve at the number of sessions itself
(`EffortSettings.toNat_effort_of_count`).
-/

set_option autoImplicit false

namespace GolfProgress

/-- Those of some entries that are linked to a record and completed since an instant. -/
def linkedSince (id : Uuid) (since : Instant) (entries : List SessionEntry) : List SessionEntry :=
  entries.filter fun entry => entry.point = some id ∧ since ≤ entry.completedAt

/-- How many sessions some entries stand for. -/
def sessionsIn : List SessionEntry → Nat
  | [] => 0
  | entry :: later => entry.count + sessionsIn later

/-- More entries stand for no fewer sessions. -/
theorem sessionsIn_le_of_sublist {entries others : List SessionEntry}
    (more : entries.Sublist others) : sessionsIn entries ≤ sessionsIn others := by
  induction more with
  | slnil => exact Nat.le_refl _
  | cons entry _ ih => exact Nat.le_trans ih (Nat.le_add_left _ _)
  | cons_cons entry _ ih => exact Nat.add_le_add_left ih _

theorem sessionsIn_linkedSince_le {entries others : List SessionEntry}
    (more : entries.Sublist others) (id : Uuid) (since : Instant) :
    sessionsIn (linkedSince id since entries) ≤ sessionsIn (linkedSince id since others) :=
  sessionsIn_le_of_sublist (more.filter _)

/-! ## Counts -/

namespace SessionLog

variable {log later : SessionLog} {scope : SessionScope} {since : Instant} {sessions : UInt32}

theorem foldl_count (entries : List SessionEntry) (start : Nat) :
    entries.foldl (fun total entry => total + entry.count) start = start + sessionsIn entries := by
  induction entries generalizing start with
  | nil => rfl
  | cons entry later ih => rw [List.foldl_cons, ih, sessionsIn, Nat.add_assoc]

theorem total_eq_sessionsIn (log : SessionLog) (scope : SessionScope) (since : Instant) :
    log.total scope since = sessionsIn (log.entries.filter fun entry =>
      decide (since ≤ entry.completedAt) && scope.holds entry) := by
  rw [total, foldl_count, Nat.zero_add]

/-- **What the log counts for a record** are the sessions linked to it, and no others. -/
theorem total_point (log : SessionLog) (id : Uuid) (since : Instant) :
    log.total (.point id) since = sessionsIn (linkedSince id since log.entries) := by
  rw [total_eq_sessionsIn, linkedSince]
  congr 2
  funext entry
  simp [SessionScope.holds, Bool.and_comm]

/-- A log with more entries has no fewer sessions. -/
theorem total_le_of_sublist (more : log.entries.Sublist later.entries) (scope : SessionScope)
    (since : Instant) : log.total scope since ≤ later.total scope since := by
  rw [total_eq_sessionsIn, total_eq_sessionsIn]
  exact sessionsIn_le_of_sublist (more.filter _)

/-- A count is the number of sessions, as far as thirty-two bits reach. -/
theorem toNat_of_count (counted : log.count scope since = .ok sessions) :
    sessions.toNat = min (log.total scope since) (UInt32.size - 1) := by
  unfold count at counted
  split at counted
  · cases counted
  · obtain rfl := Except.ok.inj counted
    exact UInt32.toNat_ofNat_of_lt' (Nat.lt_of_le_of_lt (Nat.min_le_right _ _) (by decide))

/-- The count of a log with more entries is no lower. -/
theorem count_le_of_sublist {counted : UInt32} (more : log.entries.Sublist later.entries)
    (before : log.count scope since = .ok counted)
    (after : later.count scope since = .ok sessions) : counted.toNat ≤ sessions.toNat := by
  have grown := total_le_of_sublist more scope since
  rw [toNat_of_count before, toNat_of_count after]
  omega

end SessionLog

/-! ## Effort -/

namespace EffortSettings

variable {settings : EffortSettings} {log : SessionLog} {scope : SessionScope} {since : Instant}
  {sessions : UInt32}

/-- The effort of a number of sessions, however large. -/
def curve (settings : EffortSettings) (sessions : Nat) : Nat :=
  min (settings.perSession.toNat * sessions) (min settings.ceiling.toNat 150)

theorem curve_zero (settings : EffortSettings) : settings.curve 0 = 0 := by simp [curve]

theorem curve_mono (settings : EffortSettings) {fewer more : Nat} (grown : fewer ≤ more) :
    settings.curve fewer ≤ settings.curve more := by
  have further := Nat.mul_le_mul_left settings.perSession.toNat grown
  unfold curve
  omega

theorem curve_le (settings : EffortSettings) (sessions : Nat) : settings.curve sessions ≤ 150 := by
  unfold curve
  omega

/-- Effort follows the curve for every count, without overflow. -/
theorem toNat_effort (settings : EffortSettings) (sessions : UInt32) :
    (settings.effort sessions).toNat = settings.curve sessions.toNat := by
  have ceiling : BreakingPoint.effortCeiling.toNat = 150 := rfl
  have within : settings.curve sessions.toNat < UInt8.size :=
    Nat.lt_of_le_of_lt (settings.curve_le _) (by decide)
  rw [effort, ceiling, Nat.mul_comm]
  exact UInt8.toNat_ofNat_of_lt' within

/-- **The effort of a count follows the curve at the number of sessions**, also when that
number is larger than a count can be. -/
theorem toNat_effort_of_count (settings : EffortSettings)
    (counted : log.count scope since = .ok sessions) :
    (settings.effort sessions).toNat = settings.curve (log.total scope since) := by
  rw [toNat_effort, SessionLog.toNat_of_count counted]
  rcases Nat.le_total (log.total scope since) (UInt32.size - 1) with within | beyond
  · rw [Nat.min_eq_left within]
  · rw [Nat.min_eq_right beyond]
    rcases Nat.eq_zero_or_pos settings.perSession.toNat with flat | rising
    · simp [curve, flat]
    · -- the largest count alone is worth more than any ceiling
      have most := Nat.mul_le_mul_right (UInt32.size - 1) rising
      have further := Nat.mul_le_mul_left settings.perSession.toNat beyond
      have large : 150 ≤ UInt32.size - 1 := by decide
      unfold curve
      omega

end EffortSettings

end GolfProgress
