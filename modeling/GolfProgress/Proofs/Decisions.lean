import GolfProgress.Proofs.Solo

/-!
# What an edit decides

A plan about a record decides on one patch once the logged sessions are known
(`Plan.decision`), and the version of the record has no part in it.  An edit that decides
to write nothing ends after its first read, with what it has decided, and leaves the
workspace as it is, whatever conflicts are pending (`Edit.run_of_empty`).

`Program.calls` are the calls that a program makes when it runs alone; they tell how often
an edit has tried to write.
-/

set_option autoImplicit false

namespace GolfProgress

/-! ## Calls of a program that runs alone -/

/-- Whether a call is for a write. -/
def Call.isUpdate : Call → Bool
  | .update .. => true
  | _ => false

namespace Program

variable {Result Other : Type}

/-- The calls that a program makes when it runs alone, in order. -/
def calls (program : Program Result) (workspace : Workspace) : List Call :=
  match program with
  | .done _ => []
  | .call request next =>
    request :: (next (workspace.perform request).1).calls (workspace.perform request).2

theorem calls_andThen (program : Program Result) (rest : Result → Program Other)
    (workspace : Workspace) :
    (program.andThen rest).calls workspace =
      program.calls workspace ++
        (rest (program.run workspace).1).calls (program.run workspace).2 := by
  induction program generalizing workspace with
  | done result => rfl
  | call request next ih => exact congrArg (request :: ·) (ih _ _)

theorem calls_map (program : Program Result) (change : Result → Other) (workspace : Workspace) :
    (program.map change).calls workspace = program.calls workspace := by
  rw [map, calls_andThen]
  exact List.append_nil _

/-- How many writes a program calls for when it runs alone. -/
def updates (program : Program Result) (workspace : Workspace) : Nat :=
  (program.calls workspace).countP Call.isUpdate

theorem updates_map (program : Program Result) (change : Result → Other) (workspace : Workspace) :
    (program.map change).updates workspace = program.updates workspace :=
  congrArg (List.countP Call.isUpdate) (program.calls_map change workspace)

theorem updates_andThen (program : Program Result) (rest : Result → Program Other)
    (workspace : Workspace) :
    (program.andThen rest).updates workspace =
      program.updates workspace +
        (rest (program.run workspace).1).updates (program.run workspace).2 := by
  rw [updates, calls_andThen, List.countP_append]
  rfl

end Program

/-! ## Decisions of plans -/

/-- What a plan decides about a record, given the logged sessions. -/
def Plan.decision {Outcome : Type} (log : SessionLog) (point : BreakingPoint) :
    Plan Outcome → Except Failure (Decision Outcome)
  | .refuse failure => .error failure
  | .decided decision => .ok decision
  | .counted decide =>
    match log.count (.point point.id) point.createdAt with
    | .ok sessions => .ok (decide sessions)
    | .error failure => .error (.store failure)

/-- The count that a plan calls for, if any. -/
def Plan.counts {Outcome : Type} (point : BreakingPoint) : Plan Outcome → List Call
  | .counted _ => [Tracker.countCall point]
  | _ => []

section Plans

variable {Outcome : Type} {log : SessionLog} {point : BreakingPoint} {plan : Plan Outcome}
  {decision : Decision Outcome} {failure : Failure}

/-- The patch of a plan is that of its decision. -/
theorem Plan.patch_eq_decision (log : SessionLog) (point : BreakingPoint) (plan : Plan Outcome) :
    plan.patch log point = match plan.decision log point with
      | .ok decision => decision.patch
      | .error _ => {} := by
  cases plan with
  | refuse failure => rfl
  | decided decision => rfl
  | counted decide =>
      unfold patch Plan.decision
      cases log.count (.point point.id) point.createdAt <;> rfl

theorem Plan.patch_of_ok (decides : plan.decision log point = .ok decision) :
    plan.patch log point = decision.patch := by
  rw [patch_eq_decision, decides]

/-- A plan with something to write has decided. -/
theorem Plan.exists_decision (changes : (plan.patch log point).isEmpty = false) :
    ∃ decision, plan.decision log point = .ok decision ∧ decision.patch.isEmpty = false := by
  rw [patch_eq_decision] at changes
  cases decides : plan.decision log point with
  | ok decision =>
      rw [decides] at changes
      exact ⟨decision, rfl, changes⟩
  | error failure =>
      rw [decides] at changes
      cases changes

theorem Plan.counts_sublist (point : BreakingPoint) (plan : Plan Outcome) :
    (plan.counts point).Sublist [Tracker.countCall point] := by
  cases plan with
  | refuse | decided => exact List.nil_sublist _
  | counted => exact List.Sublist.refl _

theorem Plan.updates_counts (point : BreakingPoint) (plan : Plan Outcome) :
    (plan.counts point).countP Call.isUpdate = 0 := by
  cases plan <;> rfl

end Plans

/-! ## Decisions about transitions -/

section Transitions

variable {log : SessionLog} {point : BreakingPoint} {transition : Transition}

/-- A record that stands elsewhere is left alone. -/
theorem Tracker.decision_transitionPlan_of_ne (tracker : Tracker) (log : SessionLog)
    (apart : point.status ≠ transition.start) (today : Date) :
    (tracker.transitionPlan transition today point).decision log point = .ok ⟨{}, ()⟩ := by
  rw [transitionPlan, if_pos apart]
  rfl

/-- A record that stands where the transition starts is moved on when the guard holds. -/
theorem Tracker.decision_transitionPlan_of_count (tracker : Tracker)
    (here : point.status = transition.start) {sessions : UInt32}
    (counted : log.count (.point point.id) point.createdAt = .ok sessions) (today : Date) :
    (tracker.transitionPlan transition today point).decision log point =
      .ok ⟨if tracker.settings.transitions.decide point sessions = some transition
        then transitionPatch transition today point else {}, ()⟩ := by
  simp only [transitionPlan, here, ne_eq, not_true_eq_false, if_false, Plan.decision, counted]
  split <;> rfl

end Transitions

/-! ## Attempts alone -/

namespace Tracker

variable {Outcome : Type} {workspace : Workspace} {id : Uuid} {point : BreakingPoint}
  {plan : Plan Outcome} {decision : Decision Outcome} {failure : Failure}

theorem perform_countCall (workspace : Workspace) (point : BreakingPoint) :
    workspace.perform (countCall point) =
      (workspace.sessions.count (.point point.id) point.createdAt, workspace) := rfl

/-- A plan that has decided goes on to what it has decided. -/
theorem follow_of_decision (id : Uuid)
    (decides : plan.decision workspace.sessions point = .ok decision)
    (again : Program (Except Failure (Written Outcome))) :
    (follow id point plan again).run workspace = (commit id point decision again).run workspace ∧
      (follow id point plan again).calls workspace =
        plan.counts point ++ (commit id point decision again).calls workspace := by
  cases plan with
  | refuse failure => cases decides
  | decided other =>
      cases decides
      exact ⟨rfl, rfl⟩
  | counted decide =>
      simp only [follow, Program.run, Program.calls, perform_countCall, Plan.counts,
        List.singleton_append, Plan.decision] at decides ⊢
      cases counted : workspace.sessions.count (.point point.id) point.createdAt with
      | ok sessions =>
          rw [counted] at decides
          cases decides
          exact ⟨rfl, rfl⟩
      | error failure =>
          rw [counted] at decides
          cases decides

/-- A plan that fails ends the attempt. -/
theorem follow_of_failure (id : Uuid)
    (fails : plan.decision workspace.sessions point = .error failure)
    (again : Program (Except Failure (Written Outcome))) :
    (follow id point plan again).run workspace = (.error failure, workspace) ∧
      (follow id point plan again).calls workspace = plan.counts point := by
  cases plan with
  | refuse other =>
      cases fails
      exact ⟨rfl, rfl⟩
  | decided other => cases fails
  | counted decide =>
      simp only [follow, Program.run, Program.calls, perform_countCall, Plan.counts,
        Plan.decision] at fails ⊢
      cases counted : workspace.sessions.count (.point point.id) point.createdAt with
      | ok sessions =>
          rw [counted] at fails
          cases fails
      | error other =>
          rw [counted] at fails
          cases fails
          exact ⟨rfl, rfl⟩

/-- An attempt follows the plan about the stored record. -/
theorem attempt_of_found (reachable : workspace.store.failure = none)
    (found : workspace.record? id = some point) (attempts : UInt32)
    (plan : BreakingPoint → Plan Outcome) (left : Nat) :
    (attempt attempts id plan (left + 1)).run workspace =
        (follow id point (plan point) (attempt attempts id plan left)).run workspace ∧
      (attempt attempts id plan (left + 1)).calls workspace =
        .get id :: (follow id point (plan point) (attempt attempts id plan left)).calls
          workspace := by
  simp only [attempt, Program.run, Program.calls, Workspace.perform_get_of_reachable reachable,
    found, and_self]

/-- An attempt about the stored record goes on to what the plan has decided. -/
theorem attempt_of_decision (reachable : workspace.store.failure = none)
    (found : workspace.record? id = some point) {plan : BreakingPoint → Plan Outcome}
    (decides : (plan point).decision workspace.sessions point = .ok decision)
    (attempts : UInt32) (left : Nat) :
    (attempt attempts id plan (left + 1)).run workspace =
        (commit id point decision (attempt attempts id plan left)).run workspace ∧
      (attempt attempts id plan (left + 1)).updates workspace =
        (commit id point decision (attempt attempts id plan left)).updates workspace := by
  obtain ⟨runs, calls⟩ := attempt_of_found reachable found attempts plan left
  obtain ⟨goesOn, callsOn⟩ := follow_of_decision id decides (attempt attempts id plan left)
  refine ⟨runs.trans goesOn, ?_⟩
  simp only [Program.updates, calls, callsOn, List.countP_cons, List.countP_append,
    Plan.updates_counts, Call.isUpdate, Nat.zero_add, Bool.false_eq_true, if_false, Nat.add_zero]

/-- An attempt that decides to write nothing ends with what the plan has decided. -/
theorem attempt_of_empty (reachable : workspace.store.failure = none)
    (found : workspace.record? id = some point) {plan : BreakingPoint → Plan Outcome}
    (decides : (plan point).decision workspace.sessions point = .ok decision)
    (empty : decision.patch.isEmpty = true) (attempts : UInt32) (left : Nat) :
    (attempt attempts id plan (left + 1)).run workspace =
        (.ok ⟨decision.outcome, none⟩, workspace) ∧
      (attempt attempts id plan (left + 1)).calls workspace =
        .get id :: (plan point).counts point := by
  obtain ⟨runs, calls⟩ := attempt_of_found reachable found attempts plan left
  obtain ⟨goesOn, callsOn⟩ := follow_of_decision id decides (attempt attempts id plan left)
  rw [runs, calls, goesOn, callsOn, commit, if_pos empty, Program.calls, List.append_nil]
  exact ⟨rfl, rfl⟩

section Commits

variable {again : Program (Except Failure (Written Outcome))}
  (changes : decision.patch.isEmpty = false) {later : Workspace}

include changes

/-- A write that lands ends the attempt. -/
theorem commit_of_landed {record : BreakingPoint}
    (lands : workspace.perform (.update id point.version decision.patch) = (.ok record, later)) :
    (commit id point decision again).run workspace =
        (.ok ⟨decision.outcome, some record⟩, later) ∧
      (commit id point decision again).updates workspace = 1 := by
  have fills : ¬ decision.patch.isEmpty = true := by simp [changes]
  unfold commit
  rw [if_neg fills]
  simp only [Program.run, Program.updates, Program.calls, lands]
  exact ⟨trivial, rfl⟩

/-- A write that is outrun leads to the next attempt. -/
theorem commit_of_outrun {text : String} {expected stored : UInt64}
    (outrun : workspace.perform (.update id point.version decision.patch) =
      (.error (.versionConflict text expected stored), later)) :
    (commit id point decision again).run workspace = again.run later ∧
      (commit id point decision again).updates workspace = again.updates later + 1 := by
  have fills : ¬ decision.patch.isEmpty = true := by simp [changes]
  unfold commit
  rw [if_neg fills]
  simp only [Program.run, Program.updates, Program.calls, outrun]
  exact ⟨trivial, List.countP_cons_of_pos rfl⟩

end Commits

end Tracker

/-! ## Decisions of edits -/

namespace Edit

/-- What an edit that writes nothing ends with, given the logged sessions. -/
def answer (tracker : Tracker) (log : SessionLog) (edit : Edit) (point : BreakingPoint) :
    Except Failure Report :=
  match edit.fault? with
  | some failure => .error failure
  | none =>
    (((edit.loop tracker).plan point).decision log point).map fun decision =>
      (edit.loop tracker).report ⟨decision.outcome, none⟩

variable {tracker : Tracker} {edit : Edit} {point : BreakingPoint} {workspace : Workspace}
  {log : SessionLog}

/-- The version of a record has no part in plans about it. -/
theorem plan_bumped (tracker : Tracker) (edit : Edit) (point : BreakingPoint) :
    (edit.loop tracker).plan point.bumped = (edit.loop tracker).plan point := by
  cases edit <;> rfl

theorem program_of_fault {failure : Failure} (fault : edit.fault? = some failure) :
    edit.program tracker = .done (.error failure) := by
  rw [← program_opening, opening, fault]
  rfl

/-- An edit without fault is its write loop with all attempts left. -/
theorem program_of_no_fault (fault : edit.fault? = none) :
    edit.program tracker = (Tracker.attempt tracker.maxAttempts edit.id (edit.loop tracker).plan
      tracker.maxAttempts.toNat).map (Except.map (edit.loop tracker).report) := by
  rw [← program_opening, opening, fault]
  change ((edit.loop tracker).resumed tracker.maxAttempts.toNat).program = _
  rw [WriteLoop.program_resumed, WriteLoop.remaining, id_loop, attempts_loop]

/-- An edit without fault runs as the attempts of its loop do, and reports. -/
theorem run_of_no_fault (tracker : Tracker) (fault : edit.fault? = none) (workspace : Workspace) :
    (edit.program tracker).run workspace =
        (((Tracker.attempt tracker.maxAttempts edit.id (edit.loop tracker).plan
            tracker.maxAttempts.toNat).run workspace).1.map (edit.loop tracker).report,
          ((Tracker.attempt tracker.maxAttempts edit.id (edit.loop tracker).plan
            tracker.maxAttempts.toNat).run workspace).2) ∧
      (edit.program tracker).updates workspace =
        (Tracker.attempt tracker.maxAttempts edit.id (edit.loop tracker).plan
          tracker.maxAttempts.toNat).updates workspace := by
  rw [program_of_no_fault fault]
  exact ⟨Program.run_map _ _ workspace, Program.updates_map _ _ workspace⟩

theorem patch_of_no_fault (fault : edit.fault? = none) :
    edit.patch tracker log point = ((edit.loop tracker).plan point).patch log point := by
  rw [patch, fault]

/-- An edit with something to write has no fault and has decided. -/
theorem exists_decision (changes : (edit.patch tracker log point).isEmpty = false) :
    edit.fault? = none ∧ ∃ decision,
      ((edit.loop tracker).plan point).decision log point = .ok decision ∧
        edit.patch tracker log point = decision.patch := by
  cases fault : edit.fault? with
  | some failure =>
      rw [patch, fault] at changes
      cases changes
  | none =>
      rw [patch_of_no_fault fault] at changes ⊢
      obtain ⟨decision, decides, -⟩ := Plan.exists_decision changes
      exact ⟨rfl, decision, decides, Plan.patch_of_ok decides⟩

/-- **An edit that decides to write nothing ends with what it has decided**, after its read
and at most a count, and leaves the workspace as it is. -/
theorem run_of_empty (reachable : workspace.store.failure = none)
    (found : workspace.record? edit.id = some point)
    (empty : (edit.patch tracker workspace.sessions point).isEmpty = true) :
    (edit.program tracker).run workspace =
        (edit.answer tracker workspace.sessions point, workspace) ∧
      ((edit.program tracker).calls workspace).Sublist
        [.get edit.id, Tracker.countCall point] := by
  unfold answer
  cases fault : edit.fault? with
  | some failure =>
      rw [program_of_fault fault]
      exact ⟨rfl, List.nil_sublist _⟩
  | none =>
      rw [program_of_no_fault fault, Program.run_map, Program.calls_map]
      rw [patch_of_no_fault fault] at empty
      obtain ⟨left, attempts⟩ := Nat.exists_eq_add_one.mpr tracker.maxAttempts_pos
      rw [attempts]
      have counts := (edit.loop tracker |>.plan point).counts_sublist point
      cases decides : ((edit.loop tracker).plan point).decision workspace.sessions point with
      | error failure =>
          obtain ⟨runs, calls⟩ := Tracker.attempt_of_found reachable found tracker.maxAttempts
            (edit.loop tracker).plan left
          obtain ⟨fails, counted⟩ := Tracker.follow_of_failure edit.id decides
            (Tracker.attempt tracker.maxAttempts edit.id (edit.loop tracker).plan left)
          rw [runs, calls, fails, counted]
          exact ⟨rfl, counts.cons_cons _⟩
      | ok decision =>
          rw [Plan.patch_of_ok decides] at empty
          obtain ⟨runs, calls⟩ := Tracker.attempt_of_empty reachable found decides empty
            tracker.maxAttempts left
          rw [runs, calls]
          exact ⟨rfl, counts.cons_cons _⟩

end Edit

end GolfProgress
