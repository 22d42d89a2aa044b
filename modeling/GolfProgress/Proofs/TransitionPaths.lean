import GolfProgress.Proofs.Retries

/-!
# The ways to a transition

The transition that is due for a record is worked out in three places: asking for it answers
with it, looking at the record recommends it, and applying a transition checks that it still
is the one.  `Tracker.due` is what all three come to when their calls are answered
(`run_dueTransition`, `run_evaluate`, `run_applyTransition`); each takes its own shortcut for
a resolved record or for one that stands elsewhere, and none of them makes a difference.

A transition that is due is the one step forward, so each that is applied raises the rank of
the status, and a record that is advanced again and again comes to rest
(`exists_advancesTo`).
-/

set_option autoImplicit false

namespace GolfProgress

/-! ## The transition that is due -/

/-- The transition that is due for a record, given the logged sessions. -/
def Tracker.due (tracker : Tracker) (log : SessionLog) (point : BreakingPoint) :
    Option Transition :=
  match log.count (.point point.id) point.createdAt with
  | .ok sessions => tracker.settings.transitions.decide point sessions
  | .error _ => none

/-- A record after a transition on a day. -/
def BreakingPoint.moved (point : BreakingPoint) (transition : Transition) (today : Date) :
    BreakingPoint :=
  { point with
    status := transition.goal
    resolvedOn := if transition.goal = .resolved then some today else point.resolvedOn
    version := point.version + 1 }

section Due

variable {tracker : Tracker} {log : SessionLog} {point : BreakingPoint} {transition : Transition}
  {sessions : UInt32}

theorem TransitionSettings.decide_of_resolved (settings : TransitionSettings)
    (resolved : point.isResolved = true) (sessions : UInt32) :
    settings.decide point sessions = none := by
  have terminal : point.status = .resolved := by
    simpa [BreakingPoint.isResolved, Status.isTerminal] using resolved
  simp [decide, guard, terminal]

theorem TransitionSettings.start_of_decide {settings : TransitionSettings}
    (decided : settings.decide point sessions = some transition) :
    transition.start = point.status := by
  unfold decide at decided
  split at decided
  · obtain ⟨goal, -, rfl⟩ := Option.map_eq_some_iff.mp decided
    rfl
  · cases decided

theorem SessionLog.exists_count (logged : log.failure = none) (scope : SessionScope)
    (since : Instant) : ∃ sessions, log.count scope since = .ok sessions := by
  unfold count
  rw [logged]
  exact ⟨_, rfl⟩

theorem Tracker.due_of_count
    (counted : log.count (.point point.id) point.createdAt = .ok sessions) :
    tracker.due log point = tracker.settings.transitions.decide point sessions := by
  rw [due, counted]

/-- **A transition that is due is the one step forward out of the record's status**, and
resolves only full progress. -/
theorem Tracker.forward_of_due (due : tracker.due log point = some transition) :
    transition.start = point.status ∧ point.status.next = some transition.goal ∧
      (transition.goal = .resolved → point.progress = BreakingPoint.fullProgress) := by
  unfold Tracker.due at due
  split at due
  · exact ⟨TransitionSettings.start_of_decide due, TransitionSettings.forward_of_decide due⟩
  · cases due

/-- The plan of a transition writes exactly when the transition is due. -/
theorem Tracker.decision_transitionPlan (logged : log.failure = none) (tracker : Tracker)
    (transition : Transition) (today : Date) (point : BreakingPoint) :
    (tracker.transitionPlan transition today point).decision log point =
      .ok ⟨if tracker.due log point = some transition
        then transitionPatch transition today point else {}, ()⟩ := by
  obtain ⟨sessions, counted⟩ := log.exists_count logged (.point point.id) point.createdAt
  by_cases here : point.status = transition.start
  · rw [decision_transitionPlan_of_count tracker here counted, due_of_count counted]
  · have other : tracker.due log point ≠ some transition := fun due =>
      here (forward_of_due due).1.symm
    rw [decision_transitionPlan_of_ne tracker log here, if_neg other]

/-- What is written for a transition that is due. -/
theorem Tracker.landing_transitionPatch (due : tracker.due log point = some transition)
    (valid : point.Valid) (today : Date) :
    (transitionPatch transition today point).landing point = point.moved transition today ∧
      (point.moved transition today).Valid := by
  obtain ⟨-, forward, proved⟩ := forward_of_due due
  have writes : Edit.Writes tracker point (.applyTransition point.id transition today)
      (transitionPatch transition today point) fun record => .transition (some record) :=
    .transition point.id transition today forward proved
  have undated := valid.undated writes.unresolved
  have lands : (transitionPatch transition today point).landing point =
      point.moved transition today := by
    by_cases resolves : transition.goal = .resolved <;>
      simp [Patch.landing, Patch.apply, transitionPatch, BreakingPoint.moved, resolves, undated]
  exact ⟨lands, lands ▸ writes.valid_landing valid⟩

end Due

/-! ## Runs -/

/-- A workspace in which every call is answered and nothing gets in before an update. -/
structure Workspace.Serves (workspace : Workspace) : Prop where
  available : workspace.Available
  logged : workspace.sessions.failure = none
  measured : workspace.results.failure = none

section Runs

variable {tracker : Tracker} {workspace : Workspace} {id : Uuid} {point : BreakingPoint}

theorem Workspace.Serves.put (serves : workspace.Serves) (point : BreakingPoint) :
    (workspace.put point).Serves :=
  ⟨serves.available.put point, serves.logged, serves.measured⟩

/-- Looking at a record tells what the three logs answer about it. -/
theorem Tracker.run_evaluate_eq {sessions : UInt32} {latest : Option TestResult} {asOf : Date}
    (reachable : workspace.store.failure = none) (found : workspace.record? id = some point)
    (counted : workspace.sessions.count (.point point.id) point.createdAt = .ok sessions)
    (finds : workspace.results.findLatest point.player point.test
      (point.createdAt.date.earlier asOf) asOf = .ok latest) (tracker : Tracker) :
    (tracker.evaluate id asOf).run workspace =
      (.ok (.ofRecord tracker.settings id point sessions (latest.map (·.date)) asOf),
        workspace) := by
  have counts : workspace.perform (countCall point) = (.ok sessions, workspace) :=
    (perform_countCall workspace point).trans (congrArg (·, workspace) counted)
  have measures : workspace.perform (latestCall point asOf) = (.ok latest, workspace) :=
    congrArg (·, workspace) finds
  simp only [evaluate, Program.run, Workspace.perform_get_of_reachable reachable, found, counts,
    measures]

/-- Looking at a record writes nothing, whatever is answered. -/
theorem Tracker.evaluate_silent (tracker : Tracker) (id : Uuid) (asOf : Date)
    (workspace : Workspace) :
    ((tracker.evaluate id asOf).run workspace).2 = workspace ∧
      (tracker.evaluate id asOf).updates workspace = 0 := by
  have reads : (workspace.perform (.get id)).2 = workspace := rfl
  simp only [evaluate, Program.run, Program.updates, Program.calls, reads]
  split
  · next point _ =>
      have counts : (workspace.perform (countCall point)).2 = workspace := rfl
      simp only [Program.run, Program.calls, counts]
      split
      · have measures : (workspace.perform (latestCall point asOf)).2 = workspace := rfl
        simp only [Program.run, Program.calls, measures]
        split <;> exact ⟨rfl, rfl⟩
      · exact ⟨rfl, rfl⟩
  · exact ⟨rfl, rfl⟩
  · exact ⟨rfl, rfl⟩

/-- Looking at a record recommends the transition that is due. -/
theorem Tracker.run_evaluate (serves : workspace.Serves) (found : workspace.record? id = some point)
    (tracker : Tracker) (asOf : Date) :
    ∃ snapshot, (tracker.evaluate id asOf).run workspace = (.ok snapshot, workspace) ∧
      snapshot.recommended = tracker.due workspace.sessions point ∧
      (tracker.evaluate id asOf).updates workspace = 0 := by
  obtain ⟨sessions, counted⟩ :=
    workspace.sessions.exists_count serves.logged (.point point.id) point.createdAt
  obtain ⟨latest, finds⟩ : ∃ latest, workspace.results.findLatest point.player point.test
      (point.createdAt.date.earlier asOf) asOf = .ok latest := by
    unfold ResultLog.findLatest
    rw [serves.measured]
    exact ⟨_, rfl⟩
  refine ⟨_, run_evaluate_eq serves.available.reachable found counted finds tracker, ?_,
    (tracker.evaluate_silent id asOf workspace).2⟩
  rw [due_of_count counted]
  simp only [Snapshot.ofRecord]
  split
  · next resolved => exact (TransitionSettings.decide_of_resolved _ resolved sessions).symm
  · rfl

/-- Asking for the transition that is due answers with it. -/
theorem Tracker.run_dueTransition (serves : workspace.Serves)
    (found : workspace.record? id = some point) (tracker : Tracker) :
    (tracker.dueTransition id).run workspace =
      (.ok (tracker.due workspace.sessions point), workspace) := by
  obtain ⟨sessions, counted⟩ :=
    workspace.sessions.exists_count serves.logged (.point point.id) point.createdAt
  have counts : workspace.perform (countCall point) = (.ok sessions, workspace) :=
    (perform_countCall workspace point).trans (congrArg (·, workspace) counted)
  simp only [dueTransition, Program.run, serves.available.perform_get, found]
  split
  · next resolved =>
      rw [due_of_count counted, TransitionSettings.decide_of_resolved _ resolved]
      rfl
  · simp only [Program.run, counts, due_of_count counted]

/-- **A transition is applied exactly when it is due.** -/
theorem Tracker.run_applyTransition (serves : workspace.Serves)
    (found : workspace.record? id = some point) (valid : point.Valid) (tracker : Tracker)
    (transition : Transition) (today : Date) :
    (tracker.applyTransition id transition today).run workspace =
        (if tracker.due workspace.sessions point = some transition then
          (.ok (some (point.moved transition today)), workspace.put (point.moved transition today))
        else (.ok none, workspace)) ∧
      (tracker.applyTransition id transition today).updates workspace =
        if tracker.due workspace.sessions point = some transition then 1 else 0 := by
  have decides := decision_transitionPlan serves.logged tracker transition today point
  obtain ⟨left, attempts⟩ := Nat.exists_eq_add_one.mpr tracker.maxAttempts_pos
  simp only [applyTransition, Program.run_map, Program.updates_map, write, attempts]
  by_cases due : tracker.due workspace.sessions point = some transition
  · obtain ⟨lands, stays⟩ := landing_transitionPatch due valid today
    rw [if_pos due] at decides
    have changes : (transitionPatch transition today point).isEmpty = false := rfl
    obtain ⟨updates, runs⟩ := attempt_calm tracker.maxAttempts left serves.available found decides
      changes (lands ▸ stays)
    rw [runs, updates, if_pos due, if_pos due, lands]
    exact ⟨rfl, rfl⟩
  · rw [if_neg due] at decides
    obtain ⟨runs, calls⟩ := attempt_of_empty serves.available.reachable found decides rfl
      tracker.maxAttempts left
    rw [runs, Program.updates, calls, if_neg due, if_neg due]
    exact ⟨rfl, (List.countP_cons_of_neg (by simp [Call.isUpdate])).trans
      (Plan.updates_counts point _)⟩

end Runs

/-! ## One transition after the other -/

/-- Look at a record on a date and apply the transition that is recommended; none when none
is. -/
def Tracker.advance (tracker : Tracker) (id : Uuid) (asOf today : Date) :
    Program (Except Failure (Option BreakingPoint)) :=
  (tracker.evaluate id asOf).andThen fun
    | .ok snapshot =>
      match snapshot.recommended with
      | some transition => tracker.applyTransition id transition today
      | none => .done (.ok none)
    | .error failure => .done (.error failure)

/-- Advance a record on one day after the other; of each pair the first is the date as of
which the record is looked at. -/
def Tracker.advances (tracker : Tracker) (id : Uuid) (days : List (Date × Date)) :
    Program (List (Except Failure (Option BreakingPoint))) :=
  .inTurn (days.map fun day => tracker.advance id day.1 day.2)

/-- What advancing a record on some days comes to: first come the records that were written,
one on each day, and once a day has found nothing due there is nothing due any more. -/
structure Tracker.AdvancesTo (tracker : Tracker) (id : Uuid) (days : List (Date × Date))
    (start : Workspace) (written : List BreakingPoint) (finish : Workspace) : Prop where
  runs : (tracker.advances id days).run start =
    (written.map (fun record => .ok (some record)) ++
      List.replicate (days.length - written.length) (.ok none), finish)
  updates : (tracker.advances id days).updates start = written.length
  stops : written.length < days.length →
    (tracker.dueTransition id).run finish = (.ok none, finish)

section Advances

variable {tracker : Tracker} {workspace : Workspace} {id : Uuid} {point : BreakingPoint}

/-- Advancing applies the transition that is due. -/
theorem Tracker.run_advance_of_due {transition : Transition} (serves : workspace.Serves)
    (found : workspace.record? id = some point) (valid : point.Valid)
    (due : tracker.due workspace.sessions point = some transition) (asOf today : Date) :
    (tracker.advance id asOf today).run workspace =
        (.ok (some (point.moved transition today)),
          workspace.put (point.moved transition today)) ∧
      (tracker.advance id asOf today).updates workspace = 1 := by
  obtain ⟨snapshot, looks, recommends, silent⟩ := run_evaluate serves found tracker asOf
  obtain ⟨runs, updates⟩ := run_applyTransition serves found valid tracker transition today
  rw [if_pos due] at runs updates
  rw [advance, Program.run_andThen, Program.updates_andThen, looks, silent, Nat.zero_add]
  simp only [recommends, due]
  exact ⟨runs, updates⟩

/-- Without a transition that is due, advancing any number of times changes nothing. -/
theorem Tracker.run_advances_of_none (serves : workspace.Serves)
    (found : workspace.record? id = some point)
    (due : tracker.due workspace.sessions point = none) (days : List (Date × Date)) :
    (tracker.advances id days).run workspace =
        (List.replicate days.length (.ok none), workspace) ∧
      (tracker.advances id days).updates workspace = 0 := by
  have stays (asOf today : Date) : (tracker.advance id asOf today).run workspace =
      (.ok none, workspace) ∧ (tracker.advance id asOf today).updates workspace = 0 := by
    obtain ⟨snapshot, looks, recommends, silent⟩ := run_evaluate serves found tracker asOf
    rw [advance, Program.run_andThen, Program.updates_andThen, looks, silent]
    simp only [recommends, due]
    exact ⟨rfl, rfl⟩
  unfold advances
  induction days with
  | nil => exact ⟨rfl, rfl⟩
  | cons day rest ih =>
      obtain ⟨runs, silent⟩ := ih
      simp only [List.map_cons, Program.inTurn, Program.run_andThen, Program.updates_andThen,
        stays, runs, silent]
      exact ⟨rfl, rfl⟩

/-- **Advancing stops when the record is resolved at the latest**: no more records are
written than there are steps left. -/
theorem Tracker.exists_advancesTo (serves : workspace.Serves)
    (found : workspace.record? id = some point) (valid : point.Valid) (tracker : Tracker)
    (days : List (Date × Date)) :
    ∃ written finish, tracker.AdvancesTo id days workspace written finish ∧
      written.length + point.status.rank ≤ 3 := by
  have few (status : Status) : ([] : List BreakingPoint).length + status.rank ≤ 3 := by
    rw [List.length_nil, Nat.zero_add]
    exact status.rank_le
  induction days generalizing workspace point with
  | nil => exact ⟨[], workspace, ⟨rfl, rfl, by simp⟩, few _⟩
  | cons day rest ih =>
      cases due : tracker.due workspace.sessions point with
      | none =>
          obtain ⟨runs, silent⟩ := run_advances_of_none serves found due (day :: rest)
          refine ⟨[], workspace, ⟨runs, silent, fun _ => ?_⟩, few _⟩
          rw [run_dueTransition serves found, due]
      | some transition =>
          obtain ⟨-, forward, -⟩ := forward_of_due due
          have rank : (point.moved transition day.2).status.rank = point.status.rank + 1 :=
            Status.rank_next forward
          obtain ⟨runs, once⟩ := run_advance_of_due serves found valid due day.1 day.2
          have named : point.id = id := BreakingPointStore.id_of_find? found
          have known : (workspace.put (point.moved transition day.2)).record? id =
              some (point.moved transition day.2) :=
            (workspace.record?_put _ id).trans (if_pos named.symm)
          obtain ⟨written, finish, ⟨goesOn, updates, stops⟩, fewer⟩ :=
            ih (serves.put _) known (landing_transitionPatch due valid day.2).2
          unfold advances at goesOn updates
          refine ⟨point.moved transition day.2 :: written, finish, ⟨?_, ?_, fun later => ?_⟩, ?_⟩
          · simp only [advances, List.map_cons, Program.inTurn, Program.run_andThen, Program.run,
              runs, goesOn, List.length_cons, Nat.add_sub_add_right, List.cons_append]
          · simp only [advances, List.map_cons, Program.inTurn, Program.updates_andThen, runs, once,
              updates, List.length_cons]
            exact Nat.add_comm 1 _
          · exact stops (Nat.lt_of_succ_lt_succ later)
          · rw [List.length_cons]
            omega

end Advances

/-- **Recommending, deciding and applying a transition agree.**  Whatever calls there are to
be answered are, for a valid record.  Looking at the record on any date recommends what
asking for the transition answers; a transition is applied exactly when it is that one, and
then writes no more than the status, the version and, with the resolution, its date, while any
other leaves the store as it is.  It is one step forward from where the record stands, so that
advancing on any days writes three times at most and then finds nothing due. -/
theorem transition_paths_agree {tracker : Tracker} {workspace : Workspace} {id : Uuid}
    {point : BreakingPoint} (serves : workspace.Serves)
    (found : workspace.record? id = some point) (valid : point.Valid) :
    ∃ due : Option Transition,
      (tracker.dueTransition id).run workspace = (.ok due, workspace) ∧
      (∀ asOf, ∃ snapshot, (tracker.evaluate id asOf).run workspace = (.ok snapshot, workspace) ∧
        snapshot.recommended = due) ∧
      (∀ transition today,
        (tracker.applyTransition id transition today).run workspace =
            (if due = some transition then
              (.ok (some (point.moved transition today)),
                workspace.put (point.moved transition today))
            else (.ok none, workspace)) ∧
          (tracker.applyTransition id transition today).updates workspace =
            if due = some transition then 1 else 0) ∧
      (∀ transition, due = some transition →
        transition.start = point.status ∧ transition.isForward = true) ∧
      ∀ days, ∃ written finish, tracker.AdvancesTo id days workspace written finish ∧
        written.length ≤ 3 := by
  refine ⟨tracker.due workspace.sessions point, Tracker.run_dueTransition serves found tracker,
    fun asOf => ?_, Tracker.run_applyTransition serves found valid tracker,
    fun transition due => ?_, fun days => ?_⟩
  · obtain ⟨snapshot, looks, recommends, -⟩ := Tracker.run_evaluate serves found tracker asOf
    exact ⟨snapshot, looks, recommends⟩
  · obtain ⟨start, forward, -⟩ := Tracker.forward_of_due due
    refine ⟨start, ?_⟩
    rw [Transition.isForward, start, forward]
    exact decide_eq_true rfl
  · obtain ⟨written, finish, advances, few⟩ :=
      Tracker.exists_advancesTo serves found valid tracker days
    exact ⟨written, finish, advances, by omega⟩

namespace Race

/-- The record before work has begun on it, though it has been trained and proved. -/
def ahead : BreakingPoint := { record with status := .notStarted, effort := 100, progress := 100 }

/-- A workspace with this record, and twenty sessions for it. -/
def aheadWorkspace : Workspace where
  store := { records := [ahead] }
  sessions := { entries := [⟨⟨2⟩, some carry, ⟨today, 0, 0⟩, 20⟩] }

end Race

/-- A record that is ahead of its status is moved on day after day until it is resolved; the
second step is not taken before the first. -/
theorem three_transitions :
    let days := List.replicate 5 (Race.today, Race.today)
    (∀ asOf, ∃ snapshot,
      ((Race.tracker 3).evaluate Race.carry asOf).run Race.aheadWorkspace =
          (.ok snapshot, Race.aheadWorkspace) ∧
        snapshot.recommended = some ⟨.notStarted, .inProgress⟩) ∧
      ((Race.tracker 3).applyTransition Race.carry ⟨.inProgress, .awaitingProof⟩ Race.today).run
        Race.aheadWorkspace = (.ok none, Race.aheadWorkspace) ∧
      ∃ written finish,
        (Race.tracker 3).AdvancesTo Race.carry days Race.aheadWorkspace written finish ∧
        written.length = 3 ∧
        (finish.record? Race.carry).map (·.status) = some .resolved := by
  intro days
  have serves : Race.aheadWorkspace.Serves := ⟨⟨rfl, rfl, rfl, rfl⟩, rfl, rfl⟩
  have found : Race.aheadWorkspace.record? Race.carry = some Race.ahead := by decide +kernel
  have valid : Race.ahead.Valid := by decide +kernel
  obtain ⟨due, answers, recommends, applies, -, advances⟩ :=
    @transition_paths_agree (Race.tracker 3) _ _ _ serves found valid
  have first : (((Race.tracker 3).dueTransition Race.carry).run Race.aheadWorkspace).1 =
      .ok (some ⟨.notStarted, .inProgress⟩) := by decide +kernel
  rw [answers] at first
  cases first
  obtain ⟨written, finish, comes, -⟩ := advances days
  have often : ((Race.tracker 3).advances Race.carry days).updates Race.aheadWorkspace = 3 := by
    decide +kernel
  have ends : (((((Race.tracker 3).advances Race.carry days).run Race.aheadWorkspace).2.record?
      Race.carry).map (·.status)) = some .resolved := by decide +kernel
  rw [comes.updates] at often
  rw [comes.runs] at ends
  exact ⟨recommends, (applies _ _).1, written, finish, comes, often, ends⟩

end GolfProgress
