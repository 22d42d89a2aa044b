import GolfProgress.Proofs.EvaluationPaths
import GolfProgress.Proofs.FanOut
import GolfProgress.Proofs.Refusals
import GolfProgress.Proofs.Retries

/-!
# Edits made again

What an edit has written leaves it nothing to write: the same decision about the record as
it was written has an empty patch (`Edit.decision_again`).  Efforts and progress are written
as they would be worked out again, a finite measurement is equal to itself, and a record that
was resolved, or that has gone on to its next status, is left alone.

`Edit.Steady` follows an edit that nothing else disturbs through its phases and says of the
end that it is `Edit.Settled`; its calls keep this (`Edit.Steady.after`).  So an edit that
has returned a report reads, decides the same and writes nothing when it is made again,
whatever conflicts are pending (`Edit.settled_of_run`, `Edit.Settled.run`).
-/

set_option autoImplicit false

namespace GolfProgress

/-! ## Decisions about what was just written -/

/-- The report of an edit that is made again at once: what it found is what it left. -/
def Report.repeated : Report → Report
  | .effort update => .effort { update with previous := update.new }
  | .benchmark outcome => .benchmark { outcome with previousProgress := outcome.newProgress }
  | .transition _ => .transition none
  | report => report

section Decisions

variable {tracker : Tracker} {settings : Settings} {log : SessionLog} {id : Uuid}
  {point : BreakingPoint}

/-- The effort that was just written is not written again. -/
theorem Tracker.effortDecision_again (tracker : Tracker) (id : Uuid) (point : BreakingPoint)
    (sessions : UInt32) (version : UInt64) :
    let first := tracker.effortDecision id point sessions
    tracker.effortDecision id { first.patch.apply point with version } sessions =
      ⟨{}, { first.outcome with previous := first.outcome.new }⟩ := by
  by_cases resolved : point.isResolved = true
  · have still : point.status.isTerminal = true := resolved
    simp [effortDecision, BreakingPoint.isResolved, still, Patch.apply]
  · have still : point.status.isTerminal = false := Bool.eq_false_iff.mpr resolved
    by_cases same : tracker.settings.effort.effort sessions = point.effort
    · simp [effortDecision, BreakingPoint.isResolved, still, same, Patch.apply]
    · simp [effortDecision, BreakingPoint.isResolved, still, same, Patch.apply]

theorem Binary64.equals_self {value : Binary64} (finite : value.isFinite = true) :
    value.equals value = true := by
  cases value with
  | nan | infinite => cases finite
  | finite negative quanta fits => simp [equals, isAtMost]

section Benchmarks

variable {benchmark : Benchmark} {direction : Direction}

theorem Benchmark.decision_of_resolved (settings : Settings) (id : Uuid) (benchmark : Benchmark)
    (direction : Direction) (resolved : point.isResolved = true) :
    benchmark.decision settings id direction point =
      ⟨{}, ⟨id, (benchmark.evaluation direction point).passed, point.progress, point.progress,
        benchmark.improvement point, true, benchmark.evaluation direction point⟩⟩ := by
  rw [decision, if_pos resolved]

theorem Benchmark.decision_of_passed (settings : Settings) (id : Uuid)
    (unresolved : point.isResolved = false)
    (passes : (benchmark.evaluation direction point).passed = true) :
    benchmark.decision settings id direction point =
      ⟨benchmark.resolution, ⟨id, true, point.progress, BreakingPoint.fullProgress,
        benchmark.improvement point, true, benchmark.evaluation direction point⟩⟩ := by
  simp only [decision, unresolved, passes, Bool.false_eq_true, if_false, if_true]

theorem Benchmark.decision_of_failed (settings : Settings) (id : Uuid)
    (unresolved : point.isResolved = false)
    (fails : (benchmark.evaluation direction point).passed = false) :
    let progress := unresolvedProgress point.progress (benchmark.improvement point)
      settings.progress.unresolvedCap
    benchmark.decision settings id direction point =
      ⟨benchmark.shortfall point progress, ⟨id, false, point.progress, progress,
        benchmark.improvement point, false, benchmark.evaluation direction point⟩⟩ := by
  simp only [decision, unresolved, fails, Bool.false_eq_true, if_false]

/-- A shortfall that was just written leaves nothing to write. -/
theorem Benchmark.shortfall_again (finite : benchmark.value.isFinite = true)
    (point : BreakingPoint) (progress : UInt8) (version : UInt64) :
    ((benchmark.shortfall point progress).apply point).progress = progress ∧
      benchmark.shortfall { (benchmark.shortfall point progress).apply point with version }
        progress = {} := by
  have proved : ((benchmark.shortfall point progress).apply point).progress = progress := by
    by_cases same : progress = point.progress <;> simp [Patch.apply, shortfall, same]
  have measured : ((((benchmark.shortfall point progress).apply point).current.map fun value =>
      value.equals benchmark.value).getD false) = true := by
    cases known : (point.current.map fun value => value.equals benchmark.value).getD false with
    | true => simp [Patch.apply, shortfall, known]
    | false => simp [Patch.apply, shortfall, known, Binary64.equals_self finite]
  refine ⟨proved, ?_⟩
  change ({ progress := if progress = _ then none else some progress,
            current := if _ then none else some benchmark.value } : Patch) = {}
  rw [if_pos proved.symm, if_pos measured]

/-- An evaluation looks at the baseline and the target, which no patch changes. -/
theorem Benchmark.evaluation_patched (benchmark : Benchmark) (direction : Direction)
    (patch : Patch) (point : BreakingPoint) (version : UInt64) :
    benchmark.evaluation direction { patch.apply point with version } =
      benchmark.evaluation direction point := rfl

/-- So does the share of the way that a reading covers. -/
theorem Benchmark.improvement_patched (benchmark : Benchmark) (patch : Patch)
    (point : BreakingPoint) (version : UInt64) :
    benchmark.improvement { patch.apply point with version } = benchmark.improvement point := rfl

/-- A reading that was just evaluated changes nothing when it is evaluated again. -/
theorem Benchmark.decision_again (settings : Settings) (id : Uuid)
    (finite : benchmark.value.isFinite = true) (direction : Direction) (point : BreakingPoint)
    (version : UInt64) :
    let first := benchmark.decision settings id direction point
    benchmark.decision settings id direction { first.patch.apply point with version } =
      ⟨{}, { first.outcome with previousProgress := first.outcome.newProgress }⟩ := by
  intro first
  by_cases resolved : point.isResolved = true
  · have decided : first = _ := benchmark.decision_of_resolved settings id direction resolved
    have still : ({ first.patch.apply point with version } : BreakingPoint).isResolved = true := by
      rw [decided]
      exact resolved
    rw [decision_of_resolved settings id benchmark direction still, evaluation_patched,
      improvement_patched, decided]
    rfl
  have unresolved := Bool.eq_false_iff.mpr resolved
  by_cases passes : (benchmark.evaluation direction point).passed = true
  · have decided : first = _ := decision_of_passed settings id unresolved passes
    have still : ({ first.patch.apply point with version } : BreakingPoint).isResolved = true := by
      rw [decided]
      rfl
    rw [decision_of_resolved settings id benchmark direction still, evaluation_patched,
      improvement_patched, passes, decided]
    rfl
  · have fails := Bool.eq_false_iff.mpr passes
    have decided : first = _ := decision_of_failed settings id unresolved fails
    -- the progress that was written is claimed again
    obtain ⟨proved, settled⟩ := shortfall_again finite point
      (unresolvedProgress point.progress (benchmark.improvement point)
        settings.progress.unresolvedCap) version
    have still : ({ first.patch.apply point with version } : BreakingPoint).isResolved = false := by
      rw [decided]
      exact unresolved
    have again : unresolvedProgress (first.patch.apply point).progress
        (benchmark.improvement point) settings.progress.unresolvedCap =
        unresolvedProgress point.progress (benchmark.improvement point)
          settings.progress.unresolvedCap := by
      rw [decided, proved]
      exact unresolvedProgress_again _ _ _
    rw [decision_of_failed settings id still fails, evaluation_patched, improvement_patched, again,
      decided, settled, proved]

end Benchmarks

theorem Status.next_ne (status : Status) : status.next ≠ some status := by
  cases status <;> decide

/-- A transition that was just applied, or was not due, is not applied again. -/
theorem Tracker.transitionPlan_again (tracker : Tracker) (transition : Transition) (today : Date)
    {decision : Decision Unit}
    (decides : (tracker.transitionPlan transition today point).decision log point = .ok decision)
    (version : UInt64) :
    let after := { decision.patch.apply point with version }
    (tracker.transitionPlan transition today after).decision log after = .ok ⟨{}, ()⟩ := by
  intro after
  by_cases here : point.status = transition.start
  · cases counted : log.count (.point point.id) point.createdAt with
    | error failure =>
        simp [transitionPlan, here, Plan.decision, counted] at decides
    | ok sessions =>
        rw [decision_transitionPlan_of_count tracker here counted] at decides
        by_cases due : tracker.settings.transitions.decide point sessions = some transition
        · -- the record has left the status that the transition starts from
          rw [if_pos due] at decides
          cases decides
          obtain ⟨forward, -⟩ := TransitionSettings.forward_of_decide due
          rw [here] at forward
          exact decision_transitionPlan_of_ne tracker log
            (fun same : transition.goal = transition.start =>
              transition.start.next_ne (forward.trans (congrArg some same))) today
        · rw [if_neg due] at decides
          cases decides
          have here : after.status = transition.start := here
          have due : ¬ tracker.settings.transitions.decide after sessions = some transition := due
          have counted : log.count (.point after.id) after.createdAt = .ok sessions := counted
          rw [decision_transitionPlan_of_count tracker here counted, if_neg due]
  · rw [decision_transitionPlan_of_ne tracker log here] at decides
    cases decides
    exact decision_transitionPlan_of_ne tracker log here today

/-- **An edit that has decided about a record decides to change nothing about what it makes of
the record**, and reports that it leaves what it finds. -/
theorem Edit.decision_again {edit : Edit} (sane : edit.fault? = none)
    {decision : Decision (edit.loop tracker).Outcome}
    (decides : ((edit.loop tracker).plan point).decision log point = .ok decision)
    (version : UInt64) (record : Option BreakingPoint) :
    let after := { decision.patch.apply point with version }
    (edit.patch tracker log after).isEmpty = true ∧
      edit.answer tracker log after =
        .ok ((edit.loop tracker).report ⟨decision.outcome, record⟩).repeated := by
  intro after
  suffices again : ∃ outcome,
      ((edit.loop tracker).plan after).decision log after = .ok ⟨{}, outcome⟩ ∧
        (edit.loop tracker).report ⟨outcome, none⟩ =
          ((edit.loop tracker).report ⟨decision.outcome, record⟩).repeated by
    obtain ⟨outcome, decided, reports⟩ := again
    rw [patch_of_no_fault sane, Plan.patch_of_ok decided, answer, sane, ← reports]
    refine ⟨rfl, ?_⟩
    simp only [decided, Except.map]
  cases edit with
  | recordEffort id =>
      cases counted : log.count (.point point.id) point.createdAt with
      | error failure =>
          simp [loop, Plan.decision, counted] at decides
      | ok sessions =>
          simp only [loop, Plan.decision, counted] at decides
          cases decides
          have counted : log.count (.point after.id) after.createdAt = .ok sessions := counted
          have settled := tracker.effortDecision_again id point sessions version
          refine ⟨_, ?_, rfl⟩
          simp only [loop, Plan.decision, counted]
          exact congrArg Except.ok settled
  | evaluateBenchmark id benchmark =>
      have finite : benchmark.value.isFinite = true := by
        by_contra infinite
        simp [fault?, infinite] at sane
      cases directed : tracker.direction benchmark.metric point.test with
      | error failure =>
          simp [loop, Tracker.benchmarkPlan, directed, Plan.decision] at decides
      | ok direction =>
          simp only [loop, Tracker.benchmarkPlan, directed, Plan.decision] at decides
          cases decides
          have directed : tracker.direction benchmark.metric after.test = .ok direction := directed
          have settled :=
            Benchmark.decision_again tracker.settings id finite direction point version
          refine ⟨_, ?_, rfl⟩
          simp only [loop, Tracker.benchmarkPlan, directed, Plan.decision]
          exact congrArg Except.ok settled
  | applyTransition id transition today =>
      exact ⟨(), tracker.transitionPlan_again transition today decides version, rfl⟩

end Decisions

/-! ## Calls without rivals -/

/-- What calls make of a workspace that no rival writes to. -/
structure Workspace.Continues (start later : Workspace) : Prop where
  alone : later.rivals = []
  sessions : later.sessions = start.sessions
  failure : later.store.failure = start.store.failure
  identifies : ∀ id new, later.record? id = some new →
    ∃ old, start.record? id = some old ∧ old.Identifies new

namespace Workspace

variable {start middle later workspace : Workspace}

theorem Continues.refl (alone : start.rivals = []) : start.Continues start :=
  ⟨alone, rfl, rfl, fun _ new found => ⟨new, found, (BreakingPoint.Evolves.refl new).identifies⟩⟩

theorem Continues.trans (early : start.Continues middle) (late : middle.Continues later) :
    start.Continues later where
  alone := late.alone
  sessions := late.sessions.trans early.sessions
  failure := late.failure.trans early.failure
  identifies := by
    intro id new found
    obtain ⟨between, known, identifies⟩ := late.identifies id new found
    obtain ⟨old, first, stems⟩ := early.identifies id between known
    exact ⟨old, first, stems.trans identifies⟩

/-- A call continues a workspace that no rival writes to. -/
theorem continues_perform (alone : workspace.rivals = []) (request : Call) :
    workspace.Continues (workspace.perform request).2 where
  alone := rivals_perform alone request
  sessions := workspace.sessions_perform request
  identifies := fun _ _ found => identifies_perform request found
  failure := by
    cases request with
    | get | list | count | latest => rfl
    | update id expected patch =>
        simp only [perform, meetRival_of_none alone]
        cases workspace.updateFailure with
        | some failure => rfl
        | none => exact workspace.store.failure_update id expected patch

/-- A call that updates no record of an identifier leaves what is stored under it. -/
theorem record?_perform_of_ne (alone : workspace.rivals = []) {request : Call} {other : Uuid}
    (apart : ∀ id expected patch, request = .update id expected patch → id ≠ other) :
    (workspace.perform request).2.record? other = workspace.record? other := by
  cases request with
  | get | list | count | latest => rfl
  | update id expected patch =>
      exact (perform_update_updated alone id expected patch).kept (apart id expected patch rfl).symm

/-- What is read depends on what is stored and on whether the store answers. -/
theorem get_congr {id : Uuid} (failure : later.store.failure = workspace.store.failure)
    (same : later.record? id = workspace.record? id) :
    later.store.get id = workspace.store.get id := by
  have same : later.store.find? id = workspace.store.find? id := same
  unfold BreakingPointStore.get
  rw [failure, same]

end Workspace

/-! ## Edits that nothing else disturbs -/

/-- An edit has come to a report and has nothing to change any more. -/
def Edit.Settled (tracker : Tracker) (edit : Edit) (workspace : Workspace) (report : Report) :
    Prop :=
  ∃ point, workspace.store.get edit.id = .ok (some point) ∧
    (edit.patch tracker workspace.sessions point).isEmpty = true ∧
    edit.answer tracker workspace.sessions point = .ok report.repeated

/-- Where an edit stands on a record that nothing else touches: the record is still the one
that it has read, the decision is the one that it would make now, and what it has ended with
is settled. -/
inductive Edit.Steady (tracker : Tracker) (edit : Edit) (workspace : Workspace) :
    (edit.loop tracker).Phase → Prop where
  | reading (sane : edit.fault? = none) (left : Nat) : Steady tracker edit workspace (.reading left)
  | counting (sane : edit.fault? = none) {left : Nat} {point : BreakingPoint}
      {decide : UInt32 → Decision (edit.loop tracker).Outcome}
      {planned : (edit.loop tracker).plan point = .counted decide}
      (reads : workspace.store.get edit.id = .ok (some point)) :
      Steady tracker edit workspace (.counting left point decide planned)
  | writing (sane : edit.fault? = none) {left : Nat} {point : BreakingPoint}
      {decision : Decision (edit.loop tracker).Outcome}
      {yields : ((edit.loop tracker).plan point).Yields decision}
      {changes : decision.patch.isEmpty = false}
      (reads : workspace.store.get edit.id = .ok (some point))
      (decides : ((edit.loop tracker).plan point).decision workspace.sessions point =
        .ok decision) :
      Steady tracker edit workspace (.writing left point decision yields changes)
  | settled {report : Report} (settled : edit.Settled tracker workspace report) :
      Steady tracker edit workspace (.ended (.ok report))
  | failed (failure : Failure) : Steady tracker edit workspace (.ended (.error failure))

section Steady

variable {tracker : Tracker} {edit : Edit} {workspace later : Workspace} {report : Report}
  {phase : (edit.loop tracker).Phase}

/-- An edit begins steady. -/
theorem Edit.steady_opening (tracker : Tracker) (edit : Edit) (workspace : Workspace) :
    edit.Steady tracker workspace (edit.opening tracker) := by
  unfold opening
  cases fault : edit.fault? with
  | some failure => exact .failed failure
  | none =>
      cases tracker.maxAttempts.toNat with
      | zero => exact .failed _
      | succ left => exact .reading fault left

/-- A settled edit stays so while its record and the logged sessions do. -/
theorem Edit.Settled.waits (settled : edit.Settled tracker workspace report)
    (same : later.store.get edit.id = workspace.store.get edit.id)
    (sessions : later.sessions = workspace.sessions) : edit.Settled tracker later report := by
  obtain ⟨point, reads, empty, answers⟩ := settled
  exact ⟨point, same.trans reads, sessions ▸ empty, sessions ▸ answers⟩

/-- A steady edit stays so while its record and the logged sessions do. -/
theorem Edit.Steady.waits (steady : edit.Steady tracker workspace phase)
    (same : later.store.get edit.id = workspace.store.get edit.id)
    (sessions : later.sessions = workspace.sessions) : edit.Steady tracker later phase := by
  cases steady with
  | reading sane left => exact .reading sane left
  | counting sane reads => exact .counting sane (same.trans reads)
  | writing sane reads decides => exact .writing sane (same.trans reads) (sessions ▸ decides)
  | settled settled => exact .settled (settled.waits same sessions)
  | failed failure => exact .failed failure

/-- A decision leads to a steady phase. -/
theorem Edit.steady_decided (sane : edit.fault? = none) {point : BreakingPoint}
    {decision : Decision (edit.loop tracker).Outcome}
    (reads : workspace.store.get edit.id = .ok (some point))
    (decides : ((edit.loop tracker).plan point).decision workspace.sessions point = .ok decision)
    (left : Nat) (yields : ((edit.loop tracker).plan point).Yields decision) :
    edit.Steady tracker workspace (WriteLoop.decided left point decision yields) := by
  unfold WriteLoop.decided
  split
  · exact .writing sane reads decides
  · next unchanged =>
      -- nothing is to be written, so the record is what the decision makes of it
      have written : { decision.patch.apply point with version := point.version } = point := by
        rw [Patch.apply_of_isEmpty (by simpa using unchanged)]
      obtain ⟨empty, answers⟩ := Edit.decision_again sane decides point.version none
      rw [written] at empty answers
      exact .settled ⟨point, reads, empty, answers⟩

/-- A record that was read leads to a steady phase. -/
theorem Edit.steady_planned (sane : edit.fault? = none) {point : BreakingPoint}
    (reads : workspace.store.get edit.id = .ok (some point)) (left : Nat) :
    edit.Steady tracker workspace ((edit.loop tracker).planned left point) := by
  unfold WriteLoop.planned
  split
  · exact .failed _
  · next decision plan =>
      refine Edit.steady_decided sane reads ?_ left _
      rw [plan]
      rfl
  · exact .counting sane reads

/-- A write that was answered leads to a steady phase. -/
theorem Edit.steady_answered (sane : edit.fault? = none) (alone : workspace.rivals = [])
    {point : BreakingPoint} {decision : Decision (edit.loop tracker).Outcome}
    (reads : workspace.store.get edit.id = .ok (some point))
    (decides : ((edit.loop tracker).plan point).decision workspace.sessions point = .ok decision)
    (left : Nat) :
    let written := workspace.perform (.update edit.id point.version decision.patch)
    edit.Steady tracker written.2 (WriteLoop.answered left decision written.1) := by
  intro written
  have continues : workspace.Continues written.2 := Workspace.continues_perform alone _
  have updated : Updated workspace.record? edit.id point.version decision.patch written.1
    written.2.record? := Workspace.perform_update_updated alone _ _ _
  have failed (failure : StoreFailure) (later : Workspace) :
      edit.Steady tracker later (WriteLoop.answered left decision (.error failure)) := by
    cases failure with
    | versionConflict =>
        cases left with
        | zero => exact .failed _
        | succ left => exact .reading sane left
    | notFound | unavailable | invalidRecord => exact .failed _
  cases reply : written.1 with
  | error failure => exact failed failure written.2
  | ok new =>
      rw [reply] at updated
      cases updated with
      | @landed old _ _ found landing changed =>
          obtain rfl : old = point :=
            Option.some.inj (found.symm.trans (Workspace.record?_of_get reads))
          obtain ⟨empty, answers⟩ := Edit.decision_again sane decides (old.version + 1) (some new)
          rw [← landing.written] at empty answers
          have reachable := (BreakingPointStore.get_eq_some.mp reads).1
          have known : written.2.record? edit.id = some new := (changed edit.id).trans (if_pos rfl)
          exact .settled ⟨new,
            BreakingPointStore.get_eq_some.mpr ⟨continues.failure.trans reachable, known⟩,
            continues.sessions ▸ empty, continues.sessions ▸ answers⟩

/-- **A call of its own leaves an edit steady.** -/
theorem Edit.Steady.after (steady : edit.Steady tracker workspace phase)
    (alone : workspace.rivals = []) {request : Call} (calls : phase.request? = some request) :
    edit.Steady tracker (workspace.perform request).2 (phase.after workspace) := by
  cases steady with
  | reading sane left =>
      cases calls
      simp only [WriteLoop.Phase.after]
      split
      · next point read =>
          rw [edit.id_loop] at read
          exact Edit.steady_planned sane read left
      · exact .failed _
      · exact .failed _
  | @counting sane left point decide planned reads =>
      cases calls
      simp only [WriteLoop.Phase.after]
      split
      · next sessions counted =>
          refine Edit.steady_decided sane reads ?_ left _
          rw [planned, Plan.decision]
          simp only [counted]
      · exact .failed _
  | @writing sane left point decision yields changes reads decides =>
      cases calls
      have answered := Edit.steady_answered sane alone reads decides left
      rw [← edit.id_loop] at answered
      exact answered
  | settled | failed => cases calls

end Steady

/-! ## Runs of edits alone -/

/-- What calls keep of the workspace and the phase holds when a loop that runs alone ends. -/
theorem WriteLoop.run_keeps {Result : Type} {loop : WriteLoop Result}
    (property : Workspace → loop.Phase → Prop)
    (kept : ∀ workspace (phase : loop.Phase) request, phase.request? = some request →
      property workspace phase →
      property (workspace.perform request).2 (phase.after workspace))
    (phase : loop.Phase) {workspace : Workspace} (holds : property workspace phase) :
    property (phase.program.run workspace).2 (.ended (phase.program.run workspace).1) := by
  generalize same : phase.program = program
  induction program generalizing phase workspace with
  | done result =>
      obtain rfl := WriteLoop.program_eq_done same
      exact holds
  | call request next ih =>
      have calls : phase.request? = some request := by
        rw [← WriteLoop.request?_program, same]
        rfl
      have steps := WriteLoop.step?_program phase workspace
      rw [calls, same] at steps
      have goesOn : next (workspace.perform request).1 = (phase.after workspace).program :=
        congrArg Prod.fst (Option.some.inj steps)
      exact ih _ _ (kept workspace phase request calls holds) goesOn.symm

section Alone

variable {tracker : Tracker} {edit : Edit} {start workspace finish : Workspace} {report : Report}
  {phase : (edit.loop tracker).Phase} {request : Call}

/-- Where an edit stands that runs alone: it continues the workspace, leaves other records
as they are, and is steady. -/
structure Edit.Leaves (tracker : Tracker) (edit : Edit) (start workspace : Workspace)
    (phase : (edit.loop tracker).Phase) : Prop where
  continues : start.Continues workspace
  kept : ∀ other, other ≠ edit.id → workspace.record? other = start.record? other
  steady : edit.Steady tracker workspace phase

/-- A call of an edit is about its own record. -/
theorem Edit.eq_id_of_request? (calls : phase.request? = some request) :
    ∀ id expected patch, request = .update id expected patch → id = edit.id := by
  rintro id expected patch rfl
  obtain ⟨_, _, _, _, _, _, same⟩ | reads := WriteLoop.writing_or_reads calls
  · cases same
    exact edit.id_loop
  · exact absurd rfl (reads id expected patch)

theorem Edit.Leaves.after (leaves : edit.Leaves tracker start workspace phase)
    (calls : phase.request? = some request) :
    edit.Leaves tracker start (workspace.perform request).2 (phase.after workspace) where
  continues := leaves.continues.trans (Workspace.continues_perform leaves.continues.alone request)
  kept := by
    intro other apart
    refine (Workspace.record?_perform_of_ne leaves.continues.alone ?_).trans
      (leaves.kept other apart)
    intro id expected patch update
    rw [Edit.eq_id_of_request? calls id expected patch update]
    exact apart.symm
  steady := leaves.steady.after leaves.continues.alone calls

/-- **An edit that has returned is settled**, and has touched no record but its own. -/
theorem Edit.settled_of_run (alone : start.rivals = [])
    (runs : (edit.program tracker).run start = (.ok report, finish)) :
    start.Continues finish ∧
      (∀ other, other ≠ edit.id → finish.record? other = start.record? other) ∧
      edit.Settled tracker finish report := by
  have opens : edit.Leaves tracker start start (edit.opening tracker) :=
    ⟨.refl alone, fun _ _ => rfl, edit.steady_opening tracker start⟩
  have ends := WriteLoop.run_keeps (edit.Leaves tracker start)
    (fun _ _ _ calls leaves => leaves.after calls) (edit.opening tracker) opens
  rw [edit.program_opening, runs] at ends
  obtain ⟨continues, kept, steady⟩ := ends
  cases steady with
  | settled settled => exact ⟨continues, kept, settled⟩

/-- **A settled edit comes to the same again and writes nothing**, whatever conflicts are
pending. -/
theorem Edit.Settled.run (settled : edit.Settled tracker workspace report) (conflicts : UInt32) :
    (edit.program tracker).run (workspace.contested conflicts) =
        (.ok report.repeated, workspace.contested conflicts) ∧
      (edit.program tracker).updates (workspace.contested conflicts) = 0 := by
  obtain ⟨point, reads, empty, answers⟩ := settled
  obtain ⟨reachable, found⟩ := BreakingPointStore.get_eq_some.mp reads
  have reachable : (workspace.contested conflicts).store.failure = none := reachable
  have found : (workspace.contested conflicts).record? edit.id = some point := found
  obtain ⟨runs, calls⟩ := Edit.run_of_empty reachable found empty
  refine ⟨runs.trans (congrArg (·, workspace.contested conflicts) answers), ?_⟩
  exact Nat.le_zero.mp calls.countP_le

end Alone

end GolfProgress
