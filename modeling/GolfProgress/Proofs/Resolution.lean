import GolfProgress.Proofs.EditWrites

/-!
# Resolution needs proof

A store refuses a record that is resolved without full progress or without a date, but
not one that has full progress and is not resolved.  That no such record arises is a
matter of the operations: none of them lets a failing benchmark complete the progress
of a record, and so the transition that resolves full progress is never due.

`BreakingPoint.Sound` is what the records keep, and also the records that edits have
read and are about to write by (`System.Sound.step`).  `resolved_by_proof` concludes
that status, progress and date of every reachable record say the same, and that only
the write of a passing benchmark evaluation resolves a record.
-/

set_option autoImplicit false

namespace GolfProgress

/-! ## Sound records -/

/-- A valid record that has full progress only when it is resolved. -/
structure BreakingPoint.Sound (point : BreakingPoint) : Prop where
  valid : point.Valid
  short : point.isResolved = false → point.progress < BreakingPoint.fullProgress

namespace BreakingPoint.Sound

variable {point : BreakingPoint}

/-- A sound record is resolved exactly when it has full progress. -/
theorem resolved_iff_progress (sound : point.Sound) :
    point.status = .resolved ↔ point.progress = fullProgress := by
  rw [← isResolved_iff]
  constructor
  · exact fun resolved => (sound.valid.proved resolved).1
  · intro full
    cases resolved : point.isResolved with
    | true => rfl
    | false => exact absurd full (UInt8.ne_of_lt (sound.short resolved))

/-- A sound record has full progress exactly when it has a date. -/
theorem progress_iff_date (sound : point.Sound) :
    point.progress = fullProgress ↔ point.resolvedOn.isSome = true := by
  rw [← sound.resolved_iff_progress, ← isResolved_iff]
  constructor
  · exact fun resolved => (sound.valid.proved resolved).2
  · intro dated
    cases resolved : point.isResolved with
    | true => rfl
    | false => simp [sound.valid.undated resolved] at dated

end BreakingPoint.Sound

/-! ## Writes about sound records -/

section Writes

variable {tracker : Tracker} {edit : Edit} {point old new : BreakingPoint} {patch : Patch}
  {report : BreakingPoint → Report} {expected : UInt64}

/-- A write makes a sound record of a sound record when it rests on a sound one.  The
two may differ: a decision about a record that was since resolved is refused by the
store unless it keeps the record resolved. -/
theorem Edit.Writes.sound (writes : edit.Writes tracker point patch report)
    (basis : point.Sound) (landing : Landing expected patch old new) (sound : old.Sound) :
    new.Sound := by
  refine ⟨landing.valid, fun unresolved => ?_⟩
  -- progress is claimed over the record that was read, which was short of the full one
  have short := basis.short writes.unresolved
  obtain ⟨-, rfl, valid⟩ := landing
  cases writes with
  | effort => exact sound.short unresolved
  | proof => cases unresolved
  | shortfall id benchmark =>
      have below := unresolvedProgress_lt short
        (benchmark.improvement point) tracker.settings.progress.unresolvedCap
      have kept := sound.short unresolved
      simp only [Benchmark.shortfall, Patch.apply]
      split
      · exact kept
      · exact below
  | transition id transition today =>
      refine sound.short ?_
      cases resolved : old.isResolved with
      | false => rfl
      | true =>
          -- the date of the resolved record would stay
          have dated := (sound.valid.proved resolved).2
          have undated := valid.undated unresolved
          simp only [Patch.apply, Option.or_eq_none_iff] at undated
          simp [undated.2] at dated

/-- Only a passing benchmark evaluation resolves a record that was not resolved, and
the date is that of the benchmark. -/
theorem Edit.Writes.resolves (writes : edit.Writes tracker point patch report)
    (basis : point.Sound) (landing : Landing expected patch old new)
    (unresolved : old.isResolved = false) (resolved : new.isResolved = true) :
    ∃ benchmark outcome, edit = .evaluateBenchmark edit.id benchmark ∧
      outcome.evaluation.passed = true ∧ (∀ record, report record = .benchmark outcome) ∧
      new.resolvedOn = some benchmark.date := by
  have short := basis.short writes.unresolved
  obtain ⟨-, rfl, -⟩ := landing
  cases writes with
  | effort => exact absurd (unresolved.symm.trans resolved) Bool.false_ne_true
  | proof id benchmark outcome _ passed =>
      exact ⟨benchmark, outcome, rfl, passed, fun _ => rfl, rfl⟩
  | shortfall => exact absurd (unresolved.symm.trans resolved) Bool.false_ne_true
  | transition id transition today forward proved =>
      -- the step forward that resolves is due only at full progress
      have full := proved (BreakingPoint.isResolved_iff.mp resolved)
      exact absurd full (UInt8.ne_of_lt short)

end Writes

/-! ## Sound systems -/

/-- Every record is sound, and so is every record that an edit is about to write by. -/
structure System.Sound (tracker : Tracker) (system : System) : Prop where
  alone : system.workspace.rivals = []
  records : ∀ id point, system.record? id = some point → point.Sound
  stand : system.Stand tracker fun _ _ phase => ∀ point, phase.point? = some point → point.Sound

variable {tracker : Tracker} {system next start finish : System} {event? : Option Event}
  {events : List Event}

/-- **A step keeps a system sound.** -/
theorem System.Sound.step (sound : system.Sound tracker)
    (step : Step tracker Workspace.Disturbed system event? next) : next.Sound tracker where
  alone := step.alone (fun _ _ => id) sound.alone
  records := by
    intro id new after
    obtain ⟨old, before, change⟩ :=
      step.stems sound.stand sound.alone (fun _ _ disturbed => disturbed) after
    have basis := sound.records id old before
    cases change with
    | kept => exact basis
    | bumped => exact ⟨basis.valid, basis.short⟩
    | landed _ _ _ holds reads writes landing =>
        exact writes.sound (holds _ reads) landing basis
  stand := by
    refine step.stand sound.stand ?_ ?_ ?_
    · intro number edit _ point carries
      rw [edit.point?_opening] at carries
      cases carries
    · intro number edit phase request _ _ holds point carries
      rcases WriteLoop.point?_after carries with before | ⟨-, read⟩
      · exact holds point before
      · exact sound.records _ point (Workspace.record?_of_get read)
    · exact fun number edit phase _ holds => holds

/-- A step of a sound system that resolves a record is the write of a passing benchmark
evaluation. -/
theorem System.Sound.proves (sound : system.Sound tracker)
    (step : Step tracker Workspace.Disturbed system event? next) {id : Uuid}
    {old new : BreakingPoint} (before : system.record? id = some old)
    (after : next.record? id = some new) (unresolved : old.status ≠ .resolved)
    (resolved : new.status = .resolved) :
    ∃ event benchmark, event? = some event ∧ event.Proves next id benchmark new ∧
      new.resolvedOn = some benchmark.date := by
  obtain ⟨_, found, change⟩ :=
    step.stems sound.stand sound.alone (fun _ _ disturbed => disturbed) after
  obtain rfl := Option.some.inj (found.symm.trans before)
  cases change with
  | kept => exact absurd resolved unresolved
  | bumped => exact absurd resolved unresolved
  | @landed event edit phase point _ patch report occurs operation named holds reads writes
      landing written reported =>
      subst named
      obtain ⟨benchmark, outcome, evaluates, passed, reports, dated⟩ :=
        writes.resolves (holds _ reads) landing
          (BreakingPoint.isResolved_eq_false_iff.mpr unresolved)
          (BreakingPoint.isResolved_iff.mpr resolved)
      refine ⟨event, benchmark, occurs, ⟨?_, written, outcome, passed, ?_⟩, dated⟩
      · rw [operation, evaluates]
        rfl
      · rw [operation, reported, reports]

/-- Every reachable system is sound. -/
theorem Run.sound (run : Run tracker Workspace.Disturbed start events finish)
    (sound : start.Sound tracker) : finish.Sound tracker := by
  induction run with
  | refl => exact sound
  | step _ last ih => exact ih.step last

/-- **Status, progress and date of a record say the same in every reachable state, and
a record is resolved only by the write of a benchmark evaluation that passes, on the
date of that benchmark**, when at the start every record is valid and those that are
not resolved are short of full progress.  Rivals would write without an operation. -/
theorem resolved_by_proof {workspace : Workspace} (alone : workspace.rivals = [])
    (valid : ∀ id point, workspace.record? id = some point → point.Valid)
    (short : ∀ id point, workspace.record? id = some point → point.status ≠ .resolved →
      point.progress < BreakingPoint.fullProgress)
    (run : Run tracker Workspace.Disturbed (.idle workspace) events finish) :
    (∀ id point, finish.record? id = some point →
      (point.status = .resolved ↔ point.progress = BreakingPoint.fullProgress) ∧
      (point.progress = BreakingPoint.fullProgress ↔ point.resolvedOn.isSome = true)) ∧
    ∀ event? next, Step tracker Workspace.Disturbed finish event? next →
      ∀ id old new, finish.record? id = some old → next.record? id = some new →
        old.status ≠ .resolved → new.status = .resolved →
        ∃ event benchmark, event? = some event ∧ event.Proves next id benchmark new ∧
          new.resolvedOn = some benchmark.date := by
  have sound : finish.Sound tracker := by
    refine run.sound ⟨alone, fun id point found => ⟨valid id point found, ?_⟩, .idle workspace⟩
    exact fun unresolved =>
      short id point found (BreakingPoint.isResolved_eq_false_iff.mp unresolved)
  refine ⟨fun id point found => ?_, ?_⟩
  · have basis := sound.records id point found
    exact ⟨basis.resolved_iff_progress, basis.progress_iff_date⟩
  · intro event? next step id old new before after unresolved resolved
    exact sound.proves step before after unresolved resolved

/-- After the race a carry of 222 metres is evaluated, and its write resolves the record:
the record is one that the theorem speaks of. -/
theorem resolved_after_race :
    ∃ event next record benchmark,
      (Race.play 3 (Race.moves ++ [.begin (.edit (Race.reading 222)), .call 2])).2.call?
        (Race.tracker 3) 2 = some (event, next) ∧
      next.record? Race.carry = some record ∧ record.status = .resolved ∧
      event.Proves next Race.carry benchmark record ∧ record.resolvedOn = some benchmark.date := by
  let moves := Race.moves ++ [.begin (.edit (Race.reading 222)), .call 2]
  have writes : (((Race.play 3 moves).2.call? (Race.tracker 3) 2).bind
      fun result => (result.2.record? Race.carry).map (·.status)) = some .resolved := by
    decide +kernel
  obtain ⟨⟨event, next⟩, called, writes⟩ := Option.bind_eq_some_iff.mp writes
  obtain ⟨record, after, resolved⟩ := Option.map_eq_some_iff.mp writes
  have unresolved : ((Race.play 3 moves).2.record? Race.carry).map (·.status) =
      some .inProgress := by
    decide +kernel
  obtain ⟨old, before, unresolved⟩ := Option.map_eq_some_iff.mp unresolved
  have proved := (resolved_by_proof Race.available.noRivals
    (fun id point found => Race.eq_record found ▸ (by decide +kernel : Race.record.Valid))
    (fun id point found _ => Race.eq_record found ▸ (by decide : Race.record.progress < 100))
    (Race.run Workspace.Disturbed 3 moves)).2 (some event) next (.of_call? called) Race.carry old
    record before after (by rw [unresolved]; decide) resolved
  obtain ⟨_, benchmark, ⟨⟩, proves, dated⟩ := proved
  exact ⟨event, next, record, benchmark, called, after, resolved, proves, dated⟩

end GolfProgress
