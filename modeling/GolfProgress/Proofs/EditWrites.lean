import GolfProgress.Proofs.Threads

/-!
# What edits write

`Edit.Writes` lists every patch that an edit may decide to write about a record, with
what the edit then reports: an effort, a proof, a shortfall or a step forward.  No edit
writes anything about a resolved record.  `Edit.writes_of_yields` says that the list is
complete, so that what holds of these four kinds of patches holds of every write.
-/

set_option autoImplicit false

namespace GolfProgress

/-! ## Valid records -/

namespace BreakingPoint

variable {point : BreakingPoint}

theorem isResolved_iff : point.isResolved = true ↔ point.status = .resolved := by
  simp [isResolved, Status.isTerminal]

theorem isResolved_eq_false_iff : point.isResolved = false ↔ point.status ≠ .resolved := by
  rw [Bool.eq_false_iff, Ne, isResolved_iff]

/-- The rules of a valid record, one by one. -/
theorem valid_iff : point.Valid ↔
    point.resolutionViolations = [] ∧ point.test.toList.isEmpty = false ∧
    (1 ≤ point.window.toNat ∧ point.window.toNat ≤ 365) ∧ point.effort.toNat ≤ 150 ∧
    point.progress.toNat ≤ 100 := by
  simp [Valid, violations, Violation.ifNot, and_assoc]

theorem Valid.proved (valid : point.Valid) (resolved : point.isResolved = true) :
    point.progress = fullProgress ∧ point.resolvedOn.isSome = true := by
  have resolution := (valid_iff.mp valid).1
  simp [resolutionViolations, resolved, Violation.ifNot] at resolution
  exact ⟨resolution.2, resolution.1⟩

theorem Valid.undated (valid : point.Valid) (unresolved : point.isResolved = false) :
    point.resolvedOn = none := by
  have resolution := (valid_iff.mp valid).1
  simpa [resolutionViolations, unresolved, Violation.ifNot] using resolution

theorem no_resolutionViolations (unresolved : point.isResolved = false)
    (undated : point.resolvedOn = none) : point.resolutionViolations = [] := by
  simp [resolutionViolations, unresolved, undated, Violation.ifNot]

theorem Valid.progress_le (valid : point.Valid) : point.progress ≤ fullProgress :=
  UInt8.le_iff_toNat_le.mpr (valid_iff.mp valid).2.2.2.2

end BreakingPoint

/-! ## Progress short of proof -/

theorem Binary64.toNatAtMost_le (value : Binary64) (top : Nat) : value.toNatAtMost top ≤ top := by
  unfold toNatAtMost
  split
  · exact Nat.min_le_right _ _
  · exact Nat.le_refl _
  · exact Nat.zero_le _

/-- The progress that a reading claims by the share of the way that it covers. -/
def claimedProgress (closed : Option Binary64) (cap : UInt8) : Nat :=
  -- a cap may exceed the full progress, so it is cut before the claim is
  let top := min cap.toNat (BreakingPoint.fullProgress.toNat - 1)
  match closed with
  | some percent => (percent.round.clamp 0 (.ofNat top)).toNatAtMost top
  | none => 0

theorem claimedProgress_le (closed : Option Binary64) (cap : UInt8) :
    claimedProgress closed cap ≤ min cap.toNat 99 := by
  cases closed with
  | none => exact Nat.zero_le _
  | some percent => exact Binary64.toNatAtMost_le _ _

/-- The progress of a reading that does not pass: the existing progress or its claim. -/
theorem toNat_unresolvedProgress_eq (existing : UInt8) (closed : Option Binary64) (cap : UInt8) :
    (unresolvedProgress existing closed cap).toNat =
      max existing.toNat (claimedProgress closed cap) := by
  have bound := existing.toNat_lt
  have short := claimedProgress_le closed cap
  have fits : max existing.toNat (claimedProgress closed cap) < 256 := by omega
  cases closed with
  | none | some => exact Nat.mod_eq_of_lt fits

/-- The claim is below the full progress, and it does not depend on the existing progress. -/
theorem toNat_unresolvedProgress (closed : Option Binary64) (cap : UInt8) :
    ∃ claimed, claimed < 100 ∧
      ∀ existing, (unresolvedProgress existing closed cap).toNat = max existing.toNat claimed := by
  have short := claimedProgress_le closed cap
  exact ⟨claimedProgress closed cap, by omega,
    fun existing => toNat_unresolvedProgress_eq existing closed cap⟩

/-- A claim that was met is met again. -/
theorem unresolvedProgress_again (existing : UInt8) (closed : Option Binary64) (cap : UInt8) :
    unresolvedProgress (unresolvedProgress existing closed cap) closed cap =
      unresolvedProgress existing closed cap := by
  obtain ⟨claimed, -, progress⟩ := toNat_unresolvedProgress closed cap
  refine UInt8.toNat.inj ?_
  rw [progress, progress, Nat.max_assoc, Nat.max_self]

/-- A reading that does not pass never lowers progress. -/
theorem le_unresolvedProgress (existing : UInt8) (closed : Option Binary64) (cap : UInt8) :
    existing ≤ unresolvedProgress existing closed cap := by
  obtain ⟨claimed, -, progress⟩ := toNat_unresolvedProgress closed cap
  rw [UInt8.le_iff_toNat_le, progress]
  exact Nat.le_max_left _ _

/-- A reading that does not pass never completes progress, whatever the cap. -/
theorem unresolvedProgress_lt {existing : UInt8} (short : existing < BreakingPoint.fullProgress)
    (closed : Option Binary64) (cap : UInt8) :
    unresolvedProgress existing closed cap < BreakingPoint.fullProgress := by
  obtain ⟨claimed, below, progress⟩ := toNat_unresolvedProgress closed cap
  rw [UInt8.lt_iff_toNat_lt] at short ⊢
  rw [progress]
  exact Nat.max_lt.mpr ⟨short, below⟩

/-! ## The patches -/

/-- The patches that edits write about a record, and what they report when the record
was written. -/
inductive Edit.Writes (tracker : Tracker) (point : BreakingPoint) :
    Edit → Patch → (BreakingPoint → Report) → Prop where
  /-- The effort that some number of sessions amounts to. -/
  | effort (id : Uuid) (sessions : UInt32) (unresolved : point.isResolved = false) :
      Writes tracker point (.recordEffort id)
        { effort := some (tracker.settings.effort.effort sessions) }
        fun _ => .effort
          ⟨id, point.effort, tracker.settings.effort.effort sessions, sessions⟩
  /-- A reading that passes. -/
  | proof (id : Uuid) (benchmark : Benchmark) (outcome : BenchmarkOutcome)
      (unresolved : point.isResolved = false) (passed : outcome.evaluation.passed = true) :
      Writes tracker point (.evaluateBenchmark id benchmark) benchmark.resolution
        fun _ => .benchmark outcome
  /-- A reading that does not pass. -/
  | shortfall (id : Uuid) (benchmark : Benchmark) (outcome : BenchmarkOutcome)
      (unresolved : point.isResolved = false) (failed : outcome.evaluation.passed = false) :
      Writes tracker point (.evaluateBenchmark id benchmark)
        (benchmark.shortfall point (unresolvedProgress point.progress
          (benchmark.improvement point) tracker.settings.progress.unresolvedCap))
        fun _ => .benchmark outcome
  /-- A step forward, which resolves only full progress. -/
  | transition (id : Uuid) (transition : Transition) (today : Date)
      (forward : point.status.next = some transition.goal)
      (proved : transition.goal = .resolved → point.progress = BreakingPoint.fullProgress) :
      Writes tracker point (.applyTransition id transition today)
        (Tracker.transitionPatch transition today point)
        fun record => .transition (some record)

/-- A transition that is decided is the step forward out of the record's status, and
resolves only full progress. -/
theorem TransitionSettings.forward_of_decide {settings : TransitionSettings}
    {point : BreakingPoint} {sessions : UInt32} {transition : Transition}
    (decided : settings.decide point sessions = some transition) :
    point.status.next = some transition.goal ∧
      (transition.goal = .resolved → point.progress = BreakingPoint.fullProgress) := by
  unfold decide at decided
  split at decided
  · next guarded =>
      obtain ⟨goal, next, rfl⟩ := Option.map_eq_some_iff.mp decided
      refine ⟨next, ?_⟩
      rintro rfl
      cases status : point.status <;> simp [status, Status.next] at next
      simpa [guard, status] using guarded
  · cases decided

/-- **Every patch that an edit decides to write is one of those listed.** -/
theorem Edit.writes_of_yields {tracker : Tracker} {edit : Edit} {point : BreakingPoint}
    {decision : Decision (edit.loop tracker).Outcome}
    (yields : ((edit.loop tracker).plan point).Yields decision)
    (changes : decision.patch.isEmpty = false) :
    edit.Writes tracker point decision.patch fun record =>
      (edit.loop tracker).report ⟨decision.outcome, some record⟩ := by
  cases edit with
  | recordEffort id =>
      cases yields with
      | counted _ sessions =>
          by_cases resolved : point.isResolved = true
          · simp [Tracker.effortDecision, resolved, Patch.isEmpty] at changes
          · have unresolved : point.isResolved = false := by simpa using resolved
            by_cases same : tracker.settings.effort.effort sessions = point.effort
            · simp [Tracker.effortDecision, unresolved, same, Patch.isEmpty] at changes
            · simpa [Tracker.effortDecision, unresolved, same, loop] using
                Writes.effort id sessions unresolved
  | evaluateBenchmark id benchmark =>
      change (tracker.benchmarkPlan id benchmark point).Yields decision at yields
      unfold Tracker.benchmarkPlan at yields
      split at yields
      · next direction _ =>
          cases yields with
          | decided =>
              by_cases resolved : point.isResolved = true
              · simp [Benchmark.decision, resolved, Patch.isEmpty] at changes
              · have unresolved : point.isResolved = false := by simpa using resolved
                by_cases passed : (benchmark.evaluation direction point).passed = true
                · simpa [Benchmark.decision, unresolved, passed, loop] using
                    Writes.proof id benchmark _ unresolved passed
                · simpa [Benchmark.decision, unresolved, passed, loop] using
                    Writes.shortfall id benchmark _ unresolved (by simpa using passed)
      · cases yields
  | applyTransition id transition today =>
      change (tracker.transitionPlan transition today point).Yields decision at yields
      unfold Tracker.transitionPlan at yields
      split at yields
      · cases yields
        simp [Patch.isEmpty] at changes
      · cases yields with
        | counted _ sessions =>
            by_cases decided :
                tracker.settings.transitions.decide point sessions = some transition
            · obtain ⟨forward, proved⟩ := TransitionSettings.forward_of_decide decided
              simpa [decided, loop] using Writes.transition id transition today forward proved
            · simp [decided, Patch.isEmpty] at changes

/-- Nothing is written about a resolved record. -/
theorem Edit.Writes.unresolved {tracker : Tracker} {edit : Edit} {point : BreakingPoint}
    {patch : Patch} {report : BreakingPoint → Report}
    (writes : edit.Writes tracker point patch report) : point.isResolved = false := by
  cases writes with
  | effort _ _ unresolved => exact unresolved
  | proof _ _ _ unresolved _ => exact unresolved
  | shortfall _ _ _ unresolved _ => exact unresolved
  | transition _ transition _ forward _ =>
      cases status : point.status <;> simp [status, Status.next] at forward <;>
        simp [BreakingPoint.isResolved, status, Status.isTerminal]

theorem EffortSettings.toNat_effort_le (settings : EffortSettings) (sessions : UInt32) :
    (settings.effort sessions).toNat ≤ 150 := by
  have capped : min (sessions.toNat * settings.perSession.toNat)
      (min settings.ceiling.toNat BreakingPoint.effortCeiling.toNat) ≤ 150 :=
    Nat.le_trans (Nat.min_le_right _ _) (Nat.min_le_right _ _)
  exact Nat.le_trans (Nat.mod_le _ _) capped

/-- **What an edit writes to a valid record keeps it valid.** -/
theorem Edit.Writes.valid_landing {tracker : Tracker} {edit : Edit} {point : BreakingPoint}
    {patch : Patch} {report : BreakingPoint → Report}
    (writes : edit.Writes tracker point patch report) (valid : point.Valid) :
    (patch.landing point).Valid := by
  have unresolved := writes.unresolved
  have undated := valid.undated unresolved
  obtain ⟨resolution, named, window, effort, progress⟩ := BreakingPoint.valid_iff.mp valid
  rw [BreakingPoint.valid_iff]
  cases writes with
  | effort id sessions =>
      exact ⟨resolution, named, window, tracker.settings.effort.toNat_effort_le sessions, progress⟩
  | proof id benchmark => exact ⟨rfl, named, window, effort, Nat.le_refl 100⟩
  | shortfall id benchmark =>
      refine ⟨BreakingPoint.no_resolutionViolations unresolved undated, named, window, effort, ?_⟩
      obtain ⟨claimed, below, equal⟩ := toNat_unresolvedProgress
        (benchmark.improvement point) tracker.settings.progress.unresolvedCap
      have equal := equal point.progress
      simp only [Patch.landing, Patch.apply, Benchmark.shortfall]
      split
      · exact progress
      · simp only [Option.getD_some]
        omega
  | transition id transition today forward proved =>
      refine ⟨?_, named, window, effort, progress⟩
      by_cases resolves : transition.goal = .resolved
      · simp [BreakingPoint.resolutionViolations, BreakingPoint.isResolved, Patch.landing,
          Patch.apply, Tracker.transitionPatch, resolves, Status.isTerminal, undated,
          proved resolves, Violation.ifNot]
      · have pending : transition.goal.isTerminal = false := by
          cases goal : transition.goal <;> simp_all [Status.isTerminal]
        simp [BreakingPoint.resolutionViolations, BreakingPoint.isResolved, Patch.landing,
          Patch.apply, Tracker.transitionPatch, resolves, pending, undated, Violation.ifNot]

/-! ## What a step does to a record -/

/-- What a step makes of the record of an identifier. -/
inductive Change (tracker : Tracker) (property : PhaseProperty tracker) (system : System)
    (event? : Option Event) (next : System) (id : Uuid) (old : BreakingPoint) :
    BreakingPoint → Prop where
  /-- The record stays. -/
  | kept : Change tracker property system event? next id old old
  /-- A pending conflict bumps the record. -/
  | bumped : Change tracker property system event? next id old old.bumped
  /-- A write of an edit lands, on the record that the edit has read or a later one. -/
  | landed {event : Event} {edit : Edit} {phase : (edit.loop tracker).Phase}
      {point new : BreakingPoint} {patch : Patch} {report : BreakingPoint → Report}
      (occurs : event? = some event) (operation : event.operation = .edit edit)
      (named : edit.id = id) (holds : property event.thread edit phase)
      (reads : phase.point? = some point) (writes : edit.Writes tracker point patch report)
      (landing : Landing point.version patch old new) (written : event.written? = some new)
      (reported : next.threads[event.thread]? = some ⟨.edit edit, .done (.ok (report new))⟩) :
      Change tracker property system event? next id old new

/-- A call is the write of a benchmark evaluation that passes; after it the evaluation
has ended with an outcome that says so. -/
structure Event.Proves (event : Event) (next : System) (id : Uuid) (benchmark : Benchmark)
    (record : BreakingPoint) : Prop where
  evaluates : event.operation = .edit (.evaluateBenchmark id benchmark)
  writes : event.written? = some record
  passes : ∃ outcome : BenchmarkOutcome, outcome.evaluation.passed = true ∧
    next.threads[event.thread]? = some ⟨event.operation, .done (.ok (.benchmark outcome))⟩

variable {tracker : Tracker} {allowed : Workspace → Workspace → Prop}
  {property : PhaseProperty tracker} {system next : System} {event? : Option Event}

/-- **Records neither appear nor vanish with a step, and change only by the writes of
edits and the bumps of pending conflicts.** -/
theorem Step.change (step : Step tracker allowed system event? next)
    (stand : system.Stand tracker property) (alone : system.workspace.rivals = [])
    (disturbs : ∀ old new, allowed old new → old.Disturbed new) (id : Uuid) :
    (system.record? id = none ∧ next.record? id = none) ∨
      ∃ old new, system.record? id = some old ∧ next.record? id = some new ∧
        Change tracker property system event? next id old new := by
  -- a step after which every record is found as before
  have still (same : next.record? = system.record?) : (system.record? id = none ∧
      next.record? id = none) ∨ ∃ old new, system.record? id = some old ∧
        next.record? id = some new ∧ Change tracker property system event? next id old new := by
    rw [same]
    cases found : system.record? id with
    | none => exact .inl ⟨rfl, rfl⟩
    | some old => exact .inr ⟨old, old, rfl, rfl, .kept⟩
  cases event? with
  | none => exact still (step.record?_of_none disturbs)
  | some event =>
      obtain ⟨before, after⟩ := step.event
      have quiet (reads : ∀ id expected patch, event.request ≠ .update id expected patch) :=
        still (congrArg Workspace.record? (step.workspace_of_reads reads))
      rcases step.acts stand with ⟨edit, phase, acts⟩ | reads
      · rcases event with ⟨number, operation, request, workspace⟩
        obtain ⟨rfl, calls, holds, resumed⟩ := acts
        obtain rfl : workspace = system.workspace := before
        rcases WriteLoop.writing_or_reads calls with
          ⟨left, point, decision, yields, changes, rfl, rfl⟩ | reads
        · have records : next.record? = (system.workspace.perform (.update
              (edit.loop tracker).id point.version decision.patch)).2.record? :=
            congrArg Workspace.record? after.symm
          rw [records]
          rcases (Workspace.perform_update_updated alone (edit.loop tracker).id point.version
            decision.patch).change id with absent | ⟨old, new, before, after, change⟩
          · exact .inl absent
          · refine .inr ⟨old, new, before, after, ?_⟩
            rcases change with rfl | rfl | ⟨rfl, landing, replied⟩
            · exact .kept
            · exact .bumped
            · -- the store answers with the record, so the edit has ended with its report
              refine .landed rfl rfl edit.id_loop.symm holds rfl
                (edit.writes_of_yields yields changes) landing (Event.written?_of_ok replied) ?_
              rw [resumed]
              simp only [WriteLoop.Phase.after, replied]
              rfl
        · exact quiet reads
      · exact quiet reads

/-- A record that is found before a step becomes the one that is found after it. -/
theorem Step.becomes (step : Step tracker allowed system event? next)
    (stand : system.Stand tracker property) (alone : system.workspace.rivals = [])
    (disturbs : ∀ old new, allowed old new → old.Disturbed new) {id : Uuid} {old : BreakingPoint}
    (before : system.record? id = some old) :
    ∃ new, next.record? id = some new ∧ Change tracker property system event? next id old new := by
  rcases step.change stand alone disturbs id with ⟨absent, -⟩ | ⟨_, new, found, after, change⟩
  · rw [absent] at before
    cases before
  · obtain rfl := Option.some.inj (found.symm.trans before)
    exact ⟨new, after, change⟩

/-- A record that is found after a step stems from the one that was found before it. -/
theorem Step.stems (step : Step tracker allowed system event? next)
    (stand : system.Stand tracker property) (alone : system.workspace.rivals = [])
    (disturbs : ∀ old new, allowed old new → old.Disturbed new) {id : Uuid} {new : BreakingPoint}
    (after : next.record? id = some new) :
    ∃ old, system.record? id = some old ∧
      Change tracker property system event? next id old new := by
  rcases step.change stand alone disturbs id with ⟨-, absent⟩ | ⟨old, _, before, found, change⟩
  · rw [absent] at after
    cases after
  · obtain rfl := Option.some.inj (found.symm.trans after)
    exact ⟨old, before, change⟩

end GolfProgress
