import GolfProgress.Proofs.EditWrites

/-!
# Versions identify records

While no version is counted back to zero, each change of a record counts its version
up, so a record that still has the version that an edit has read is the very record
that was read.  `System.Current` states this for every record that an edit is about
to write by, `System.Current.step` shows that steps keep it, and `Landing.basis` draws
the conclusion: a write lands on the record that it was decided about.

`Run.counted` says that no version goes back in a run that is short enough for the
versions at its start.
-/

set_option autoImplicit false

namespace GolfProgress

variable {tracker : Tracker} {allowed : Workspace → Workspace → Prop}
  {property : PhaseProperty tracker} {system next start finish : System}
  {event? : Option Event} {events : List Event} {id : Uuid} {old new point : BreakingPoint}

/-! ## Versions count up -/

theorem toNat_version_succ (version : UInt64) :
    (version + 1).toNat = (version.toNat + 1) % UInt64.size := by
  rw [UInt64.toNat_add]
  rfl

/-- A bump leads to another version. -/
theorem BreakingPoint.version_bumped_ne (point : BreakingPoint) :
    point.bumped.version ≠ point.version := by
  intro same
  have counted := toNat_version_succ point.version
  have bound := point.version.toNat_lt
  rw [show point.version + 1 = point.version from same] at counted
  unfold UInt64.size at counted
  omega

/-- A write that lands counts the version up by one, or by two after a bump. -/
theorem Landing.version {expected : UInt64} {patch : Patch}
    (landing : Landing expected patch old new) :
    (old.version = expected ∧ new.version.toNat = (old.version.toNat + 1) % UInt64.size) ∨
    (expected.toNat = (old.version.toNat + 1) % UInt64.size ∧
      new.version.toNat = (old.version.toNat + 2) % UInt64.size) := by
  have written : new.version.toNat = (expected.toNat + 1) % UInt64.size := by
    rw [landing.written]
    exact toNat_version_succ expected
  rcases landing.met with rfl | rfl
  · exact .inl ⟨rfl, written⟩
  · have bumped : old.bumped.version.toNat = (old.version.toNat + 1) % UInt64.size :=
      toNat_version_succ old.version
    refine .inr ⟨bumped, ?_⟩
    unfold UInt64.size at *
    omega

/-- What changes a record counts its version up by one or two. -/
theorem BreakingPoint.Becomes.version (becomes : old.Becomes new) :
    new = old ∨ ∃ more, 1 ≤ more ∧ more ≤ 2 ∧
      new.version.toNat = (old.version.toNat + more) % UInt64.size := by
  cases becomes with
  | kept => exact .inl rfl
  | bumped => exact .inr ⟨1, by omega, by omega, toNat_version_succ old.version⟩
  | landed landing =>
      rcases landing.version with ⟨-, counted⟩ | ⟨-, counted⟩
      · exact .inr ⟨1, by omega, by omega, counted⟩
      · exact .inr ⟨2, by omega, by omega, counted⟩

/-- A change that does not lead to an older version leads to a newer one. -/
theorem BreakingPoint.Becomes.newer (becomes : old.Becomes new)
    (ordered : old.version.toNat ≤ new.version.toNat) :
    new = old ∨ old.version.toNat < new.version.toNat := by
  have bound := old.version.toNat_lt
  rcases becomes.version with same | ⟨more, some, few, counted⟩
  · exact .inl same
  · right
    unfold UInt64.size at counted
    omega

theorem Change.becomes (change : Change tracker property system event? next id old new) :
    old.Becomes new := by
  cases change with
  | kept => exact .kept
  | bumped => exact .bumped
  | landed _ _ _ _ _ _ landing => exact .landed landing

/-! ## Records that edits have read -/

/-- The record of an identifier is not older than one that was read, and is that very
one if it still has its version. -/
structure System.Has (system : System) (id : Uuid) (point stored : BreakingPoint) : Prop where
  found : system.record? id = some stored
  ordered : point.version.toNat ≤ stored.version.toNat
  same : point.version = stored.version → stored = point

/-- A system in which versions identify the records that edits are about to write by. -/
structure System.Current (tracker : Tracker) (system : System) : Prop where
  alone : system.workspace.rivals = []
  stand : system.Stand tracker fun _ edit phase =>
    ∀ point, phase.point? = some point → ∃ stored, system.Has edit.id point stored

/-- A record that was read stays identified by its version. -/
theorem System.Has.step {stored : BreakingPoint} (has : system.Has id point stored)
    (change : Change tracker property system event? next id stored new)
    (after : next.record? id = some new)
    (ordered : stored.version.toNat ≤ new.version.toNat) : next.Has id point new := by
  refine ⟨after, Nat.le_trans has.ordered ordered, fun same => ?_⟩
  rcases change.becomes.newer ordered with rfl | newer
  · exact has.same same
  · -- a newer record has another version than the one that was read
    have read := has.ordered
    rw [same] at read
    omega

/-- Records that were read stay identified in a step in which no version goes back. -/
theorem Step.has (step : Step tracker allowed system event? next)
    (stand : system.Stand tracker property) (alone : system.workspace.rivals = [])
    (disturbs : ∀ old new, allowed old new → old.Disturbed new)
    (unwrapped : ∀ event, event? = some event → event.KeepsVersions)
    (has : ∃ stored, system.Has id point stored) : ∃ stored, next.Has id point stored := by
  obtain ⟨stored, has⟩ := has
  obtain ⟨new, after, change⟩ := step.becomes stand alone disturbs has.found
  exact ⟨new, has.step change after (step.version_le disturbs unwrapped has.found after)⟩

/-- A record that a phase of an edit carries was carried before or has just been read. -/
theorem System.has_after {edit : Edit} {phase : (edit.loop tracker).Phase}
    (holds : ∀ point, phase.point? = some point → ∃ stored, system.Has edit.id point stored)
    (carries : (phase.after system.workspace).point? = some point) :
    ∃ stored, system.Has edit.id point stored := by
  rcases WriteLoop.point?_after carries with before | ⟨-, read⟩
  · exact holds point before
  · rw [edit.id_loop] at read
    exact ⟨point, Workspace.record?_of_get read, Nat.le_refl _, fun _ => rfl⟩

theorem System.Current.idle {workspace : Workspace} (alone : workspace.rivals = []) :
    (System.idle workspace).Current tracker :=
  ⟨alone, .idle workspace⟩

/-- **A step in which no version goes back keeps a system current.** -/
theorem System.Current.step (current : system.Current tracker)
    (step : Step tracker allowed system event? next)
    (disturbs : ∀ old new, allowed old new → old.Disturbed new)
    (unwrapped : ∀ event, event? = some event → event.KeepsVersions) :
    next.Current tracker where
  alone := step.alone disturbs current.alone
  stand := by
    refine step.stand current.stand ?_ ?_ ?_
    · intro number edit _ point carries
      rw [edit.point?_opening] at carries
      cases carries
    · exact fun number edit phase request _ _ holds point carries =>
        step.has current.stand current.alone disturbs unwrapped (System.has_after holds carries)
    · exact fun number edit phase _ holds point carries =>
        step.has current.stand current.alone disturbs unwrapped (holds point carries)

/-- Every system is current that is reached without a version going back. -/
theorem Run.current (run : Run tracker allowed start events finish)
    (current : start.Current tracker)
    (disturbs : ∀ old new, allowed old new → old.Disturbed new)
    (unwrapped : ∀ event ∈ events, event.KeepsVersions) : finish.Current tracker := by
  induction run with
  | refl => exact current
  | step _ last ih =>
      obtain ⟨early, late⟩ := Event.forall_append unwrapped
      exact (ih early).step last disturbs late

/-- No record appears in a run. -/
theorem System.Current.absent_run (current : system.Current tracker)
    (run : Run tracker allowed system events finish)
    (disturbs : ∀ old new, allowed old new → old.Disturbed new)
    (unwrapped : ∀ event ∈ events, event.KeepsVersions)
    (absent : system.record? id = none) : finish.record? id = none := by
  induction run with
  | refl => exact absent
  | step run last ih =>
      obtain ⟨early, -⟩ := Event.forall_append unwrapped
      have reached := run.current current disturbs early
      cases after : System.record? _ id with
      | none => rfl
      | some new =>
          obtain ⟨old, before, -⟩ := last.stems reached.stand reached.alone disturbs after
          rw [ih early] at before
          cases before

/-- **A write lands on the very record that was read.** -/
theorem Landing.basis {patch : Patch} {stored : BreakingPoint}
    (landing : Landing point.version patch stored new) (has : system.Has id point stored)
    (ordered : stored.version.toNat ≤ new.version.toNat) : stored = point := by
  rcases landing.version with ⟨met, -⟩ | ⟨bumped, written⟩
  · exact has.same met.symm
  · -- a pending conflict leads to an older version only by way of zero
    have bound := stored.version.toNat_lt
    have read := has.ordered
    unfold UInt64.size at bumped written
    omega

/-! ## Small versions -/

/-- Each record of a system that is reached from an idle one was there at the start, and
its version was counted up by at most two with every call, as long as versions are small
enough. -/
structure System.Counted (start : Workspace) (events : List Event) (system : System) : Prop where
  bounded : ∀ id new, system.record? id = some new → ∃ old, start.record? id = some old ∧
    new.version.toNat ≤ old.version.toNat + 2 * events.length
  unwrapped : ∀ event ∈ events, event.KeepsVersions

/-- **No version goes back in a run that is short for the versions at its start.** -/
theorem Run.counted {workspace : Workspace} (alone : workspace.rivals = [])
    (run : Run tracker allowed (.idle workspace) events finish)
    (disturbs : ∀ old new, allowed old new → old.Disturbed new)
    (small : ∀ id point, workspace.record? id = some point →
      point.version.toNat + 2 * events.length < UInt64.size) :
    finish.Counted workspace events := by
  induction run with
  | refl => exact ⟨fun id new found => ⟨new, found, by simp⟩, by simp⟩
  | @step events middle finish event? run last ih =>
      have reached : middle.Counted workspace events := by
        refine ih fun id point found => ?_
        have bound := small id point found
        rw [List.length_append] at bound
        omega
      cases event? with
      | none =>
          rw [Option.toList_none, List.append_nil]
          refine ⟨?_, reached.unwrapped⟩
          have same := last.record?_of_none disturbs
          exact fun id new found => reached.bounded id new (same ▸ found)
      | some event =>
          have length : (events ++ [event]).length = events.length + 1 := by simp
          rw [Option.toList_some, length] at small
          -- the call counts the version of a record up without wrapping
          have counts : ∀ id old new, middle.record? id = some old →
              Change tracker (fun _ _ _ => True) middle (some event) finish id old new →
              old.version.toNat ≤ new.version.toNat ∧ ∃ first, workspace.record? id = some first ∧
                new.version.toNat ≤ first.version.toNat + 2 * (events.length + 1) := by
            intro id old new before change
            obtain ⟨first, found, bound⟩ := reached.bounded id old before
            have enough := small id first found
            unfold UInt64.size at enough
            rcases change.becomes.version with rfl | ⟨more, _, few, counted⟩
            · exact ⟨Nat.le_refl _, first, found, by omega⟩
            · unfold UInt64.size at counted
              exact ⟨by omega, first, found, by omega⟩
          have stems {id : Uuid} {new : BreakingPoint} (found : finish.record? id = some new) :=
            last.stems run.stand (run.alone disturbs alone) disturbs found
          obtain ⟨before, after⟩ := last.event
          refine ⟨fun id new found => ?_, fun call occurs => ?_⟩
          · rw [Option.toList_some, length]
            obtain ⟨old, stored, change⟩ := stems found
            exact (counts id old new stored change).2
          · rcases List.mem_append.mp occurs with early | late
            · exact reached.unwrapped call early
            · obtain rfl := List.mem_singleton.mp late
              intro id old new stored found
              rw [before] at stored
              rw [after] at found
              obtain ⟨_, stored', change⟩ := stems found
              obtain rfl := Option.some.inj (stored'.symm.trans stored)
              exact (counts id _ new stored' change).1

end GolfProgress
