import GolfProgress.Proofs.Decisions
import GolfProgress.Proofs.Serializability

/-!
# Writes that come soon enough

A record that has the version that an edit has read may be a later one, whose version was counted
all the way round.  That takes other operations a great many calls.  A run is brisk when they
never make so many between a read and the update that rests on it (`Brisk`): every run is that
has fewer calls altogether (`Brisk.of_length_lt`), and so is every run in which the calls of one
operation are not interrupted by others (`Brisk.of_uninterrupted`), however long it is.

In a brisk run a write lands on the very record that was read (`Follows.basis`), whatever the
versions at its start.  The proof counts for each record that an edit carries how often it has
changed since (`System.Behind`).
-/

set_option autoImplicit false

namespace GolfProgress

/-! ## Brisk runs -/

/-- A call of a thread is its last read before some calls. -/
structure Event.LastRead (read : Event) (between : List Event) : Prop where
  reads : read.request.isRead = true
  last : ∀ other ∈ between, other.thread = read.thread → other.request.isRead = false

/-- The calls of other threads than one. -/
def callsBeside (number : Nat) (events : List Event) : Nat :=
  events.countP fun event => event.thread != number

/-- Between an update and the last read of its thread others make fewer calls than half of the
versions that there are. -/
def Brisk (events : List Event) : Prop :=
  ∀ earlier read between update later, events = earlier ++ read :: between ++ update :: later →
    read.LastRead between → update.request.isUpdate = true → update.thread = read.thread →
    callsBeside read.thread between < UInt64.size / 2

namespace Brisk

variable {events later : List Event} {event : Event}

theorem of_append (brisk : Brisk (events ++ later)) : Brisk events := by
  rintro earlier read between update rest rfl
  exact brisk earlier read between update (rest ++ later) (by simp)

/-- A run of few calls is brisk. -/
theorem of_length_lt (few : events.length < UInt64.size / 2) : Brisk events := by
  rintro earlier read between update later rfl - - -
  have most : callsBeside read.thread between ≤ between.length := List.countP_le_length
  simp only [List.length_append, List.length_cons] at few
  omega

/-- A run in which no operation is interrupted by calls of others is brisk. -/
theorem of_uninterrupted (uninterrupted : ∀ earlier first between second later,
    events = earlier ++ first :: between ++ second :: later → second.thread = first.thread →
    ∀ other ∈ between, other.thread = first.thread) : Brisk events := by
  intro earlier read between update later parts _ _ same
  have own := uninterrupted earlier read between update later parts same
  have none : callsBeside read.thread between = 0 :=
    List.countP_eq_zero.mpr fun other held => by simp [own other held]
  rw [none]
  decide

end Brisk

/-! ## Changes since a read -/

/-- The record of an identifier has changed since it was read, but not more often than so; each
change has counted its version up. -/
def System.Behind (system : System) (id : Uuid) (point : BreakingPoint) (most : Nat) : Prop :=
  ∃ stored changes, system.record? id = some stored ∧ changes ≤ most ∧
    stored.version.toNat = (point.version.toNat + changes) % UInt64.size ∧
    (changes = 0 → stored = point)

section Behind

variable {tracker : Tracker} {allowed : Workspace → Workspace → Prop}
  {property : PhaseProperty tracker} {system next : System} {event? : Option Event} {id : Uuid}
  {point stored new : BreakingPoint} {most : Nat}

theorem System.Behind.of_read (found : system.record? id = some point) (most : Nat) :
    system.Behind id point most :=
  ⟨point, 0, found, Nat.zero_le _, (Nat.mod_eq_of_lt point.version.toNat_lt).symm, fun _ => rfl⟩

theorem System.Behind.of_same (behind : system.Behind id point most)
    (same : next.record? = system.record?) : next.Behind id point most := by
  obtain ⟨stored, changes, found, few⟩ := behind
  exact ⟨stored, changes, same ▸ found, few⟩

/-- A step changes the record twice at most. -/
theorem System.Behind.step (behind : system.Behind id point most)
    (step : Step tracker allowed system event? next) (stand : system.Stand tracker property)
    (alone : system.workspace.rivals = [])
    (disturbs : ∀ old new, allowed old new → old.Disturbed new) :
    next.Behind id point (most + 2) := by
  obtain ⟨stored, changes, found, few, counted, same⟩ := behind
  obtain ⟨new, after, change⟩ := step.becomes stand alone disturbs found
  rcases change.becomes.version with rfl | ⟨more, some, two, onward⟩
  · exact ⟨new, changes, after, by omega, counted, same⟩
  · refine ⟨new, changes + more, after, by omega, ?_, by omega⟩
    rw [onward, counted, Nat.mod_add_mod, Nat.add_assoc]

/-- A write lands on the very record that was read, unless its version has come all the way
round. -/
theorem System.Behind.basis {patch : Patch} (behind : system.Behind id point most)
    (few : most + 1 < UInt64.size) (found : system.record? id = some stored)
    (landing : Landing point.version patch stored new) : stored = point := by
  obtain ⟨_, changes, found', within, counted, same⟩ := behind
  obtain rfl := Option.some.inj (found'.symm.trans found)
  have bound := point.version.toNat_lt
  unfold UInt64.size at *
  rcases landing.version with ⟨met, -⟩ | ⟨bumped, -⟩
  · rw [met] at counted
    exact same (by omega)
  · unfold UInt64.size at bumped
    omega

end Behind

/-! ## Records that edits carry -/

/-- A record that an edit carries is the one that it has read last, and has changed since by the
calls of others only. -/
def Follows {tracker : Tracker} (events : List Event) (system : System) (number : Nat)
    (edit : Edit) (phase : (edit.loop tracker).Phase) : Prop :=
  ∀ point, phase.point? = some point → ∃ earlier read between,
    events = earlier ++ read :: between ∧ read.thread = number ∧ read.LastRead between ∧
      system.Behind edit.id point (2 * callsBeside number between)

namespace Follows

variable {tracker : Tracker} {allowed : Workspace → Workspace → Prop}
  {property : PhaseProperty tracker} {system next : System} {events : List Event}
  {event? : Option Event} {number : Nat} {edit : Edit} {phase : (edit.loop tracker).Phase}

/-- The calls of others change the record that an edit carries twice each at most. -/
theorem waits (follows : Follows events system number edit phase)
    (step : Step tracker allowed system event? next) (stand : system.Stand tracker property)
    (alone : system.workspace.rivals = [])
    (disturbs : ∀ old new, allowed old new → old.Disturbed new)
    (other : ∀ event, event? = some event → event.thread ≠ number) :
    Follows (events ++ event?.toList) next number edit phase := by
  intro point carries
  obtain ⟨earlier, read, between, rfl, thread, last, behind⟩ := follows point carries
  cases event? with
  | none =>
      exact ⟨earlier, read, between, by simp, thread, last,
        behind.of_same (step.record?_of_none disturbs)⟩
  | some event =>
      have apart := other event rfl
      refine ⟨earlier, read, between ++ [event], by simp, thread, ⟨last.reads, ?_⟩, ?_⟩
      · intro call held same
        rcases List.mem_append.mp held with inside | new
        · exact last.last call inside same
        · obtain rfl := List.mem_singleton.mp new
          exact absurd (same.trans thread) apart
      · have counted :
            callsBeside number (between ++ [event]) = callsBeside number between + 1 := by
          simp [callsBeside, apart]
        rw [counted, Nat.mul_add]
        exact behind.step step stand alone disturbs

/-- An edit that acts carries what it has just read or what it carried before. -/
theorem acts {event : Event} (follows : Follows events system event.thread edit phase)
    (step : Step tracker allowed system (some event) next)
    (calls : phase.request? = some event.request) :
    Follows (events ++ [event]) next event.thread edit (phase.after system.workspace) := by
  intro point carries
  rcases WriteLoop.writing_or_reads calls with
    ⟨left, other, decision, yields, changes, rfl, -⟩ | reads
  · have dropped : ((WriteLoop.Phase.writing left other decision yields changes).after
        system.workspace).point? = none := WriteLoop.point?_answered left decision _
    rw [dropped] at carries
    cases carries
  · have same : next.record? = system.record? :=
      congrArg Workspace.record? (step.workspace_of_reads reads)
    cases phase with
    | ended result => cases calls
    | writing left other decision yields changes =>
        exact absurd (Option.some.inj calls).symm (reads _ _ _)
    | reading left =>
        rcases WriteLoop.point?_after carries with before | ⟨-, read⟩
        · cases before
        · rw [edit.id_loop] at read
          refine ⟨events, event, [], rfl, rfl, ⟨?_, by simp⟩, .of_read ?_ _⟩
          · obtain calls := Option.some.inj calls
            rw [← calls]
            rfl
          · rw [same]
            exact Workspace.record?_of_get read
    | counting left other decide planned =>
        rcases WriteLoop.point?_after carries with before | ⟨none, -⟩
        · obtain ⟨earlier, read, between, rfl, thread, last, behind⟩ := follows point before
          have counts : event.request.isRead = false := by
            obtain calls := Option.some.inj calls
            rw [← calls]
            rfl
          refine ⟨earlier, read, between ++ [event], by simp, thread, ⟨last.reads, ?_⟩, ?_⟩
          · intro call held own
            rcases List.mem_append.mp held with inside | new
            · exact last.last call inside own
            · obtain rfl := List.mem_singleton.mp new
              exact counts
          · have counted : callsBeside event.thread (between ++ [event]) =
                callsBeside event.thread between := by simp [callsBeside]
            rw [counted]
            exact behind.of_same same
        · cases none

/-- **In a brisk run a write lands on the very record that was read.** -/
theorem basis {event : Event} {point stored new : BreakingPoint} {patch : Patch}
    (follows : Follows events system event.thread edit phase)
    (carries : phase.point? = some point) (brisk : Brisk (events ++ [event]))
    (updates : event.request.isUpdate = true) (found : system.record? edit.id = some stored)
    (landing : Landing point.version patch stored new) : stored = point := by
  obtain ⟨earlier, read, between, rfl, thread, last, behind⟩ := follows point carries
  have few := brisk earlier read between event [] (by simp) last updates thread.symm
  rw [thread] at few
  refine behind.basis ?_ found landing
  unfold UInt64.size at few ⊢
  omega

end Follows

end GolfProgress
