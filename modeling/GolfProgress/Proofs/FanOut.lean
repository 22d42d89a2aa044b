import GolfProgress.Proofs.Locality

/-!
# Recording a benchmark for a player

A benchmark of a player is evaluated for each unresolved record that its test measures,
by the record's own rule.  The evaluations are operations about different records, so
each comes to what it comes to on its record alone, and the workspace at the end is the
same whether they are made one after the other, in whatever order, or at once with their
calls interleaved in whatever way (`record_benchmark_fans_out`).

The interleaved evaluations are the threads that the operation hands out.
`UnderWay` says where they stand, each with a property that their calls keep
(`Evaluating`, `UnderWay.step`).  Here the property is `Program.Remains`: whatever calls
were made, what is left of a thread comes to what the whole evaluation comes to at the
start.
-/

set_option autoImplicit false

namespace GolfProgress

/-! ## The evaluations -/

namespace Tracker

/-- A benchmark as it is evaluated for one of a player's records. -/
def ownBenchmark (metric : String) (value : Binary64) (date : Date) (point : BreakingPoint) :
    Benchmark :=
  ⟨metric, value, date, point.rule⟩

/-- What evaluating a benchmark for a record comes to in a workspace with this record and no
other. -/
def evaluateAlone (tracker : Tracker) (metric : String) (value : Binary64) (date : Date)
    (start : Workspace) (point : BreakingPoint) : Except Failure BenchmarkOutcome × Workspace :=
  (tracker.evaluateBenchmark point.id (ownBenchmark metric value date point)).run
    (start.only point)

/-- The evaluation of a benchmark for a record as an edit. -/
def ownEdit (metric : String) (value : Binary64) (date : Date) (point : BreakingPoint) : Edit :=
  .evaluateBenchmark point.id (ownBenchmark metric value date point)

end Tracker

section Evaluations

variable {tracker : Tracker} {metric : String} {value : Binary64} {date : Date}
  {start : Workspace} {point : BreakingPoint}

theorem Tracker.about_evaluateOwn (point : BreakingPoint) :
    (tracker.evaluateOwn metric value date point).About point.id :=
  (tracker.about_evaluateBenchmark _ _).map _

theorem Tracker.about_ownEdit (point : BreakingPoint) :
    ((ownEdit metric value date point).program tracker).About point.id :=
  (tracker.about_evaluateBenchmark _ _).map _

/-- Evaluating a benchmark for one of several records comes to what it comes to on this
record alone. -/
theorem Tracker.run_evaluateOwn (available : start.Available)
    (found : start.record? point.id = some point) :
    ((tracker.evaluateOwn metric value date point).run start).1 =
        (point.id, (tracker.evaluateAlone metric value date start point).1) ∧
      ((tracker.evaluateOwn metric value date point).run start).2.record? point.id =
        (tracker.evaluateAlone metric value date start point).2.record? point.id := by
  obtain ⟨result, record⟩ := (tracker.about_evaluateBenchmark point.id
    (ownBenchmark metric value date point)).run_only available found
  rw [evaluateOwn, Program.run_map]
  exact ⟨congrArg (Prod.mk point.id) result, record⟩

theorem Tracker.run_ownEdit (available : start.Available)
    (found : start.record? point.id = some point) :
    (((ownEdit metric value date point).program tracker).run start).1 =
        (tracker.evaluateAlone metric value date start point).1.map .benchmark ∧
      (((ownEdit metric value date point).program tracker).run start).2.record? point.id =
        (tracker.evaluateAlone metric value date start point).2.record? point.id := by
  obtain ⟨result, record⟩ := (tracker.about_evaluateBenchmark point.id
    (ownBenchmark metric value date point)).run_only available found
  rw [ownEdit, Edit.program, Program.run_map]
  exact ⟨congrArg (Except.map Report.benchmark) result, record⟩

/-- An evaluation that fails leaves its record as it is. -/
theorem Tracker.record?_evaluateAlone_of_error (available : start.Available) {failure : Failure}
    (fails : (tracker.evaluateAlone metric value date start point).1 = .error failure) :
    (tracker.evaluateAlone metric value date start point).2.record? point.id = some point := by
  rw [evaluateAlone, run_evaluateBenchmark_of_error (available.only point) fails]
  exact start.record?_only point

end Evaluations

/-! ## The records -/

/-- The records that a benchmark of a player is evaluated for: each unresolved one that the
test measures, once, in the order of lists. -/
structure Workspace.Selects (start : Workspace) (player : Uuid) (test : String)
    (targets : List BreakingPoint) : Prop where
  selected : ∀ point, point ∈ targets ↔ start.record? point.id = some point ∧
    point.player = player ∧ point.test = test ∧ point.isResolved = false
  ordered : targets.Pairwise BreakingPoint.Precedes
  apart : (targets.map (·.id)).Nodup

theorem BreakingPoint.Precedes.irrefl (point : BreakingPoint) : ¬ point.Precedes point := by
  rintro (⟨-, apart⟩ | ⟨-, lower⟩)
  · exact apart rfl
  · exact absurd lower (BitVec.lt_irrefl _)

section Records

variable {player : Uuid} {test : String} {start : Workspace}

/-- The records of the player are listed, and those that the benchmark is evaluated for are
picked out of the list. -/
theorem Workspace.exists_selects (reachable : start.store.failure = none) (player : Uuid)
    (test : String) :
    ∃ points, start.perform (.list player) = (.ok points, start) ∧
      start.Selects player test (points.filter (Tracker.isBenchmarked test)) := by
  cases listed : start.store.listForPlayer player with
  | error failure =>
      simp [BreakingPointStore.listForPlayer, reachable] at listed
  | ok points =>
      obtain ⟨ordered, members⟩ := BreakingPointStore.of_listForPlayer listed
      have inOrder := ordered.filter (Tracker.isBenchmarked test)
      refine ⟨points, congrArg (·, start) listed, fun point => ?_, inOrder, ?_⟩
      · have benchmarked : Tracker.isBenchmarked test point = true ↔
            point.test = test ∧ point.isResolved = false := by
          simp [Tracker.isBenchmarked, and_comm]
        rw [List.mem_filter, members, benchmarked, and_assoc]
        exact Iff.rfl
      · refine List.pairwise_map.mpr (inOrder.imp_of_mem ?_)
        intro first second one two precedes same
        -- one identifier has one record, which does not precede itself
        have found := ((members first).mp (List.mem_filter.mp one).1).1
        rw [same, ((members second).mp (List.mem_filter.mp two).1).1] at found
        obtain rfl := Option.some.inj found
        exact precedes.irrefl _

end Records

/-! ## Evaluations at once -/

/-- What is left of a thread comes to what its operation comes to at the start. -/
structure Program.Remains {Result : Type} (whole : Program Result) (start : Workspace) (id : Uuid)
    (workspace : Workspace) (program : Program Result) : Prop where
  about : program.About id
  result : (program.run workspace).1 = (whole.run start).1
  record : (program.run workspace).2.record? id = (whole.run start).2.record? id

section Remains

variable {Result : Type} {whole program after : Program Result} {id : Uuid}
  {start workspace later : Workspace}

/-- A call of the thread leaves less of it, which comes to the same. -/
theorem Program.Remains.step (remains : whole.Remains start id workspace program)
    (available : workspace.Available)
    (steps : program.step? workspace = some (after, later)) :
    whole.Remains start id later after where
  about := (remains.about.step available steps).1
  result := by rw [← Program.run_of_step? steps, remains.result]
  record := by rw [← Program.run_of_step? steps, remains.record]

/-- A call about another record changes nothing for the thread. -/
theorem Program.Remains.waits (remains : whole.Remains start id workspace program)
    (available : workspace.Available) (stays : later.Available)
    (same : later.record? id = workspace.record? id)
    (sessions : later.sessions = workspace.sessions) :
    whole.Remains start id later program := by
  obtain ⟨result, record⟩ := remains.about.run_congr stays available same sessions
  exact ⟨remains.about, result.trans remains.result, record.trans remains.record⟩

end Remains

/-- A property of evaluations: how the thread of a record stands in a workspace. -/
abbrev EvaluationProperty : Type :=
  BreakingPoint → Workspace → Program (Except Failure Report) → Prop

/-- Where a system stands in which a benchmark has been handed out: the evaluations are under
way, each with a property, and nothing but their records has changed. -/
structure UnderWay (metric : String) (value : Binary64) (date : Date) (start : Workspace)
    (targets : List BreakingPoint) (holds : Workspace → Prop) (stands : EvaluationProperty)
    (system : System) : Prop where
  holds : holds system.workspace
  kept : ∀ id, (∀ point ∈ targets, point.id ≠ id) → system.record? id = start.record? id
  length : system.threads.length = targets.length + 1
  listed : ∃ operation report, system.threads[0]? = some ⟨operation, .done (.ok report)⟩
  evaluating : ∀ (place : Nat) point, targets[place]? = some point → ∃ program,
    system.threads[place + 1]? = some ⟨.edit (Tracker.ownEdit metric value date point), program⟩ ∧
      stands point system.workspace program

/-- A property of evaluations that their calls keep, together with one of the workspace: a
call touches the record of its own evaluation only, and the others do not mind it. -/
structure Evaluating (holds : Workspace → Prop) (stands : EvaluationProperty) : Prop where
  quiet : ∀ point workspace program, stands point workspace program → program.handedOut = []
  acts : ∀ point workspace program after later, holds workspace →
    stands point workspace program → program.step? workspace = some (after, later) →
    holds later ∧ stands point later after ∧
      ∀ id, id ≠ point.id → later.record? id = workspace.record? id
  waits : ∀ point workspace later program, holds workspace → holds later →
    later.record? point.id = workspace.record? point.id →
    stands point workspace program → stands point later program

section UnderWay

variable {tracker : Tracker} {player : Uuid} {test metric : String} {value : Binary64}
  {date : Date} {start : Workspace} {targets : List BreakingPoint} {system : System}
  {holds : Workspace → Prop} {stands : EvaluationProperty}

/-- The threads after the one that has handed out are the evaluations. -/
theorem UnderWay.exists_evaluating
    (under : UnderWay metric value date start targets holds stands system)
    {place : Nat} {thread : Thread} (found : system.threads[place + 1]? = some thread) :
    ∃ point program, targets[place]? = some point ∧
      thread = ⟨.edit (Tracker.ownEdit metric value date point), program⟩ ∧
      stands point system.workspace program := by
  have inside := (List.getElem?_eq_some_iff.mp found).1
  have within : place < targets.length := by
    rw [under.length] at inside
    omega
  have here : targets[place]? = some targets[place] := List.getElem?_eq_getElem within
  obtain ⟨program, waiting, standing⟩ := under.evaluating place _ here
  exact ⟨_, program, here, Option.some.inj (found.symm.trans waiting), standing⟩

/-- A thread that has calls to make is one of the evaluations. -/
theorem UnderWay.exists_acting
    (under : UnderWay metric value date start targets holds stands system)
    {number : Nat} {thread : Thread} {request : Call}
    (acting : system.threads[number]? = some thread)
    (calls : thread.program.request? = some request) :
    ∃ place point program, number = place + 1 ∧ targets[place]? = some point ∧
      thread = ⟨.edit (Tracker.ownEdit metric value date point), program⟩ ∧
      stands point system.workspace program := by
  cases number with
  | zero =>
      -- the thread that has handed out has ended
      obtain ⟨operation, report, ended⟩ := under.listed
      rw [ended] at acting
      cases acting
      cases calls
  | succ place =>
      obtain ⟨point, program, here, same, standing⟩ := under.exists_evaluating acting
      exact ⟨place, point, program, rfl, here, same, standing⟩

/-- **A call of an evaluation keeps what holds of all of them.** -/
theorem UnderWay.step {allowed : Workspace → Workspace → Prop} {event : Event} {next : System}
    (under : UnderWay metric value date start targets holds stands system)
    (evaluating : Evaluating holds stands) (apart : (targets.map (·.id)).Nodup)
    (step : Step tracker allowed system (some event) next) :
    UnderWay metric value date start targets holds stands next := by
  cases step with
  | @call _ _ _ after later acting calls steps =>
      obtain ⟨place, point, program, rfl, here, rfl, standing⟩ := under.exists_acting acting calls
      have inside := (List.getElem?_eq_some_iff.mp acting).1
      obtain ⟨still, goesOn, others⟩ :=
        evaluating.acts point _ program after later under.holds standing steps
      have resumed : system.resume tracker (place + 1)
          ⟨.edit (Tracker.ownEdit metric value date point), program⟩ after later =
          ⟨later, system.threads.set (place + 1)
            ⟨.edit (Tracker.ownEdit metric value date point), after⟩⟩ := by
        simp [System.resume, evaluating.quiet point later after goesOn]
      rw [resumed]
      refine ⟨still, fun id other => ?_, by simp [under.length], ?_, ?_⟩
      · exact (others id (other point (List.mem_of_getElem? here)).symm).trans (under.kept id other)
      · obtain ⟨operation, report, ended⟩ := under.listed
        exact ⟨operation, report, (List.getElem?_set_ne (by omega)).trans ended⟩
      · intro other point' there
        by_cases same : place = other
        · subst same
          obtain rfl := Option.some.inj (here.symm.trans there)
          exact ⟨after, List.getElem?_set_self inside, goesOn⟩
        · obtain ⟨program', waiting, standing'⟩ := under.evaluating other point' there
          have within := (List.getElem?_eq_some_iff.mp here).1
          have different : point'.id ≠ point.id := fun equal => same <|
            (List.getElem?_inj (by simpa using within) apart).mp (by simp [here, there, equal])
          exact ⟨program', (List.getElem?_set_ne (by omega)).trans waiting,
            evaluating.waits point' _ later program' under.holds still
              (others point'.id different) standing'⟩

/-- The evaluations may make any calls in any order. -/
theorem UnderWay.play (under : UnderWay metric value date start targets holds stands system)
    (evaluating : Evaluating holds stands) (apart : (targets.map (·.id)).Nodup)
    (calls : List Nat) :
    UnderWay metric value date start targets holds stands
      (system.play tracker (calls.map .call)).2 := by
  induction calls generalizing system with
  | nil => exact under
  | cons number rest ih =>
      refine ih ?_
      cases called : system.call? tracker number with
      | none => simpa [System.move, called] using under
      | some reached =>
          have step : Step tracker (fun _ _ => False) system (some reached.1) reached.2 :=
            .of_call? called
          simpa [System.move, called] using under.step evaluating apart step

/-- A system in which recording a benchmark has begun. -/
def System.recording (tracker : Tracker) (start : Workspace) (player : Uuid)
    (test metric : String) (value : Binary64) (date : Date) : System :=
  (System.idle start).begin tracker (.recordBenchmark player test metric value date)

/-- Once the records are listed, the evaluations begin. -/
theorem System.call_recording {points : List BreakingPoint}
    (listed : start.perform (.list player) = (.ok points, start)) :
    ((recording tracker start player test metric value date).move tracker (.call 0)).2 =
      ⟨start, ⟨.recordBenchmark player test metric value date,
          .done (.ok (.handedOut ((points.filter (Tracker.isBenchmarked test)).map fun point =>
            (point.id, Tracker.ownBenchmark metric value date point))))⟩ ::
        (points.filter (Tracker.isBenchmarked test)).map fun point =>
          .begin tracker (.edit (Tracker.ownEdit metric value date point))⟩ := by
  simp [recording, begin, idle, move, call?, Thread.begin, Operation.program, Tracker.handOut,
    Program.map, Program.andThen, Program.request?, Program.step?, listed, resume,
    Program.handedOut, Tracker.ownEdit, Tracker.ownBenchmark, Except.map, Function.comp_def]

/-- Until the records are listed there is nothing else to call for. -/
theorem System.play_recording_listed (tracker : Tracker) (start : Workspace) (player : Uuid)
    (test metric : String) (value : Binary64) (date : Date) (calls : List Nat) :
    let recording := System.recording tracker start player test metric value date
    (recording.play tracker (calls.map .call)).2 = recording ∨
      ∃ rest : List Nat, (recording.play tracker (calls.map .call)).2 =
        ((recording.move tracker (.call 0)).2.play tracker (rest.map .call)).2 := by
  intro recording
  induction calls with
  | nil => exact .inl rfl
  | cons number rest ih =>
      cases number with
      | zero => exact .inr ⟨rest, rfl⟩
      | succ number =>
          -- there is no such thread yet
          have still : recording.move tracker (.call (number + 1)) = (none, recording) := rfl
          simp only [List.map_cons, System.play, still]
          exact ih

/-- Whatever calls are made, the list is not yet made or the evaluations are under way. -/
theorem System.play_recording {points : List BreakingPoint}
    (evaluating : Evaluating holds stands) (begins : holds start)
    (listed : start.perform (.list player) = (.ok points, start))
    (apart : ((points.filter (Tracker.isBenchmarked test)).map (·.id)).Nodup)
    (opens : ∀ point ∈ points.filter (Tracker.isBenchmarked test),
      stands point start ((Tracker.ownEdit metric value date point).program tracker))
    (calls : List Nat) :
    let recording := System.recording tracker start player test metric value date
    (recording.play tracker (calls.map .call)).2 = recording ∨
      UnderWay metric value date start (points.filter (Tracker.isBenchmarked test)) holds stands
        (recording.play tracker (calls.map .call)).2 := by
  intro recording
  have handed : UnderWay metric value date start (points.filter (Tracker.isBenchmarked test))
      holds stands (recording.move tracker (.call 0)).2 := by
    rw [System.call_recording listed]
    refine ⟨begins, fun _ _ => rfl, by simp, ⟨_, _, rfl⟩, fun place point here => ?_⟩
    refine ⟨(Tracker.ownEdit metric value date point).program tracker, ?_,
      opens point (List.mem_of_getElem? here)⟩
    rw [List.getElem?_cons_succ, List.getElem?_map, here]
    rfl
  rcases System.play_recording_listed tracker start player test metric value date calls with
    still | ⟨rest, played⟩
  · exact .inl still
  · rw [played]
    exact .inr (handed.play evaluating apart rest)

/-- A system in which recording a benchmark has begun has one thread, which has its list to
make. -/
theorem System.threads_recording (tracker : Tracker) (start : Workspace) (player : Uuid)
    (test metric : String) (value : Binary64) (date : Date) :
    ∃ thread, (recording tracker start player test metric value date).threads = [thread] ∧
      ∀ result, thread.program ≠ .done result := by
  refine ⟨.begin tracker (.recordBenchmark player test metric value date), rfl, ?_⟩
  intro result done
  cases done

/-- A system in which all threads have ended has at least made its list. -/
theorem System.not_ended_recording :
    ¬ ∀ thread ∈ (recording tracker start player test metric value date).threads,
      ∃ result, thread.program = .done result := by
  intro ended
  obtain ⟨thread, only, waits⟩ := threads_recording tracker start player test metric value date
  obtain ⟨result, done⟩ := ended thread (only ▸ List.mem_singleton_self thread)
  exact waits result done

/-- What is left of the evaluation of a record comes to what the whole comes to. -/
def Tracker.OwnRemains (tracker : Tracker) (metric : String) (value : Binary64) (date : Date)
    (start : Workspace) : EvaluationProperty := fun point workspace program =>
  start.record? point.id = some point ∧
    ((ownEdit metric value date point).program tracker).Remains start point.id workspace program

/-- An evaluation hands out nothing. -/
theorem Tracker.OwnRemains.quiet (available : start.Available) {point : BreakingPoint}
    {workspace : Workspace} {program : Program (Except Failure Report)}
    (remains : tracker.OwnRemains metric value date start point workspace program) :
    program.handedOut = [] := by
  obtain ⟨found, remains⟩ := remains
  unfold Program.handedOut
  split
  · next evaluations =>
      have ends := remains.result.trans (run_ownEdit available found).1
      cases outcome : (tracker.evaluateAlone metric value date start point).1 <;>
        rw [outcome] at ends <;> cases ends
  · rfl

/-- **A call of an evaluation leaves the others to come to what they come to.** -/
theorem Tracker.evaluating_ownRemains (available : start.Available) :
    Evaluating start.Rewrites (tracker.OwnRemains metric value date start) where
  quiet := fun _ _ _ remains => remains.quiet available
  acts := by
    rintro point workspace program after later rewrites ⟨found, remains⟩ steps
    obtain ⟨-, goesOn, others⟩ := remains.about.step rewrites.available steps
    exact ⟨rewrites.trans goesOn, ⟨found, remains.step rewrites.available steps⟩, others⟩
  waits := by
    rintro point workspace later program rewrites rewrites' same ⟨found, remains⟩
    exact ⟨found, remains.waits rewrites.available rewrites'.available same
      (rewrites'.sessions.trans rewrites.sessions.symm)⟩

/-- When all evaluations have ended, their records are settled, and each has ended with
what it comes to alone. -/
theorem UnderWay.ended
    (under : UnderWay metric value date start targets start.Rewrites
      (tracker.OwnRemains metric value date start) system)
    (available : start.Available) (selects : start.Selects player test targets)
    (ended : ∀ thread ∈ system.threads, ∃ result, thread.program = .done result) :
    Workspace.Settles (tracker.evaluateOwn metric value date) targets start system.workspace ∧
      ∀ (place : Nat) point, targets[place]? = some point → system.ended? (place + 1) =
        some (.edit (Tracker.ownEdit metric value date point),
          (tracker.evaluateAlone metric value date start point).1.map .benchmark) := by
  have ends (place : Nat) (point : BreakingPoint) (here : targets[place]? = some point) :
      system.threads[place + 1]? = some ⟨.edit (Tracker.ownEdit metric value date point),
        .done ((tracker.evaluateAlone metric value date start point).1.map .benchmark)⟩ ∧
      system.record? point.id =
        (tracker.evaluateAlone metric value date start point).2.record? point.id := by
    have found := ((selects.selected point).mp (List.mem_of_getElem? here)).1
    obtain ⟨program, thread, -, remains⟩ := under.evaluating place point here
    obtain ⟨result, rfl⟩ : ∃ result, program = .done result :=
      ended _ (List.mem_of_getElem? thread)
    have comes : result =
        (tracker.evaluateAlone metric value date start point).1.map .benchmark :=
      remains.result.trans (Tracker.run_ownEdit available found).1
    have leaves : system.record? point.id =
        (tracker.evaluateAlone metric value date start point).2.record? point.id :=
      remains.record.trans (Tracker.run_ownEdit available found).2
    exact ⟨comes ▸ thread, leaves⟩
  refine ⟨⟨under.holds, fun point inside => ?_, under.kept⟩, fun place point here => ?_⟩
  · obtain ⟨place, here⟩ := List.mem_iff_getElem?.mp inside
    have found := ((selects.selected point).mp inside).1
    exact (ends place point here).2.trans (Tracker.run_evaluateOwn available found).2.symm
  · rw [System.ended?, (ends place point here).1]

end UnderWay

/-! ## Recording a benchmark -/

/-- A benchmark of a player comes to independent evaluations of its targets. -/
structure FanOut (tracker : Tracker) (player : Uuid) (test metric : String) (value : Binary64)
    (date : Date) (start : Workspace) (targets : List BreakingPoint) (finish : Workspace) :
    Prop where
  /-- There is one entry for each target, in the order of lists, with what the evaluation
  comes to on this record alone. -/
  entries : (tracker.recordBenchmark player test metric value date).run start =
    (.ok (targets.map fun point =>
      (point.id, (tracker.evaluateAlone metric value date start point).1)), finish)
  /-- Each target is left as the evaluation leaves it alone. -/
  settled : ∀ point ∈ targets, finish.record? point.id =
    (tracker.evaluateAlone metric value date start point).2.record? point.id
  /-- Every other record is left as it was. -/
  kept : ∀ id, (∀ point ∈ targets, point.id ≠ id) → finish.record? id = start.record? id
  /-- So is a target whose evaluation fails. -/
  failed : ∀ point ∈ targets, ∀ failure,
    (tracker.evaluateAlone metric value date start point).1 = .error failure →
    finish.record? point.id = some point
  /-- The evaluations come to the same one after the other in any order. -/
  anyOrder : ∀ order : List BreakingPoint, order.Perm targets →
    (Program.inTurn (order.map (tracker.evaluateOwn metric value date))).run start =
      (order.map fun point =>
        (point.id, (tracker.evaluateAlone metric value date start point).1), finish)
  /-- They come to the same at once, with their calls interleaved in any way. -/
  interleaved : ∀ calls : List Nat,
    let system := ((System.idle start).play tracker
      (.begin (.recordBenchmark player test metric value date) :: calls.map .call)).2
    (∀ thread ∈ system.threads, ∃ result, thread.program = .done result) →
    system.workspace = finish ∧ ∀ (place : Nat) point, targets[place]? = some point →
      system.ended? (place + 1) = some (.edit (Tracker.ownEdit metric value date point),
        (tracker.evaluateAlone metric value date start point).1.map .benchmark)

/-- **A benchmark of a player is evaluated for each unresolved record that its test
measures, once and in the order of lists, and the evaluations do not depend on each
other**: each comes to what it comes to on its record alone, in whatever order they are
made or interleaved, on a store that answers and has no conflict pending.  The others'
failures make no difference, and no other record is touched. -/
theorem record_benchmark_fans_out (tracker : Tracker) (player : Uuid) (test metric : String)
    (value : Binary64) (date : Date) {start : Workspace} (available : start.Available) :
    ∃ targets finish, start.Selects player test targets ∧
      FanOut tracker player test metric value date start targets finish := by
  obtain ⟨points, listed, selects⟩ := start.exists_selects available.reachable player test
  let targets := points.filter (Tracker.isBenchmarked test)
  let own := tracker.evaluateOwn metric value date
  let finish := ((Program.inTurn (targets.map own)).run start).2
  have found : ∀ point ∈ targets, start.record? point.id = some point :=
    fun point inside => ((selects.selected point).mp inside).1
  have about : ∀ point, (own point).About point.id := fun point => Tracker.about_evaluateOwn point
  have inTurn (order : List BreakingPoint) (perm : order.Perm targets) :=
    Program.run_inTurn_settles about available ((perm.map (·.id)).nodup_iff.mpr selects.apart)
  have settles : Workspace.Settles own targets start finish := (inTurn targets (.refl _)).2
  have turns (order : List BreakingPoint) (perm : order.Perm targets) :
      (Program.inTurn (order.map own)).run start =
        (order.map fun point =>
          (point.id, (tracker.evaluateAlone metric value date start point).1), finish) := by
    obtain ⟨results, settled⟩ := inTurn order perm
    refine Prod.ext (results.trans ?_) ((settled.of_perm perm).unique settles)
    exact List.map_congr_left fun point inside =>
      (Tracker.run_evaluateOwn available (found point (perm.mem_iff.mp inside))).1
  have settled : ∀ point ∈ targets, finish.record? point.id =
      (tracker.evaluateAlone metric value date start point).2.record? point.id :=
    fun point inside => (settles.settled point inside).trans
      (Tracker.run_evaluateOwn available (found point inside)).2
  refine ⟨targets, finish, selects, ?_, settled, settles.kept, ?_, turns, ?_⟩
  · simp only [Tracker.recordBenchmark, Program.run, listed, Program.run_map]
    rw [turns targets (.refl _)]
  · intro point inside failure fails
    rw [settled point inside, Tracker.record?_evaluateAlone_of_error available fails]
  · intro calls system ended
    have reached : system = System.recording tracker start player test metric value date ∨
        UnderWay metric value date start targets start.Rewrites
          (tracker.OwnRemains metric value date start) system :=
      System.play_recording (Tracker.evaluating_ownRemains available) (.refl available) listed
        selects.apart
        (fun point inside => ⟨found point inside, Tracker.about_ownEdit point, rfl, rfl⟩) calls
    rcases reached with begun | under
    · rw [begun] at ended
      exact absurd ended System.not_ended_recording
    · obtain ⟨settled, ends⟩ := under.ended available selects ended
      exact ⟨settled.unique settles, ends⟩

/-! ## Two evaluations at once -/

/-- Every thread has ended when each number has a result. -/
theorem System.done_of_ended? {system : System}
    (ended : ∀ number < system.threads.length, (system.ended? number).isSome = true) :
    ∀ thread ∈ system.threads, ∃ result, thread.program = .done result := by
  intro thread inside
  obtain ⟨number, found⟩ := List.mem_iff_getElem?.mp inside
  obtain ⟨⟨operation, result⟩, known⟩ :=
    Option.isSome_iff_exists.mp (ended number (List.getElem?_eq_some_iff.mp found).1)
  have same := (thread_of_ended? known).symm.trans found
  cases same
  exact ⟨result, rfl⟩

namespace Race

/-- Another record of the player, which 210 metres are enough for. -/
def shorter : BreakingPoint := { record with id := ⟨3⟩, rule := "CARRY:>=:210" }

/-- A workspace with two records that the same test measures. -/
def pair : Workspace := { workspace with store := { records := [record, shorter] } }

theorem listed : pair.perform (.list ⟨2⟩) = (.ok [record, shorter], pair) := by
  have ordered : [record, shorter].Pairwise fun first second =>
      BreakingPointStore.isListedBefore first second = true := by
    simpa using (by decide +kernel : BreakingPointStore.isListedBefore record shorter = true)
  have sorted := List.mergeSort_of_pairwise ordered
  have own : (pair.store.records.filter fun point => point.player = ⟨2⟩) = [record, shorter] := by
    decide +kernel
  change (pair.store.listForPlayer ⟨2⟩, pair) = _
  rw [BreakingPointStore.listForPlayer, own, sorted]
  rfl

/-- A carry of 215 metres is handed out to both records. -/
def handedOut : System :=
  ⟨pair, ⟨.recordBenchmark ⟨2⟩ "CARRY" "CARRY" (.ofNat 215) today,
      .done (.ok (.handedOut ([record, shorter].map fun point =>
        (point.id, Tracker.ownBenchmark "CARRY" (.ofNat 215) today point))))⟩ ::
    [record, shorter].map fun point =>
      .begin (tracker 3) (.edit (Tracker.ownEdit "CARRY" (.ofNat 215) today point))⟩

/-- Both evaluations read before either writes. -/
def atOnce : System := (handedOut.play (tracker 3) ([1, 2, 2, 1].map .call)).2

theorem play_atOnce : ((System.idle pair).play (tracker 3)
    (.begin (.recordBenchmark ⟨2⟩ "CARRY" "CARRY" (.ofNat 215) today) ::
      [0, 1, 2, 2, 1].map .call)).2 = atOnce := by
  have begins : ((System.recording (tracker 3) pair ⟨2⟩ "CARRY" "CARRY" (.ofNat 215)
      today).move (tracker 3) (.call 0)).2 = handedOut :=
    System.call_recording listed
  have first (rest : List Nat) : ((System.idle pair).play (tracker 3)
      (.begin (.recordBenchmark ⟨2⟩ "CARRY" "CARRY" (.ofNat 215) today) ::
        (0 :: rest).map .call)).2 =
      (((System.recording (tracker 3) pair ⟨2⟩ "CARRY" "CARRY" (.ofNat 215) today).move
        (tracker 3) (.call 0)).2.play (tracker 3) (rest.map .call)).2 := rfl
  rw [first, begins, atOnce]

end Race

/-- A carry of 215 metres resolves one of two records, whether they are evaluated one after
the other or at once. -/
theorem fan_out_pair :
    (((Race.tracker 3).recordBenchmark ⟨2⟩ "CARRY" "CARRY" (.ofNat 215) Race.today).run
      Race.pair).2 = Race.atOnce.workspace ∧
    (Race.atOnce.record? Race.carry).map (·.status) = some .inProgress ∧
    (Race.atOnce.record? Race.shorter.id).map (·.status) = some .resolved := by
  have available : Race.pair.Available := ⟨rfl, rfl, rfl, rfl⟩
  obtain ⟨targets, finish, -, fans⟩ := record_benchmark_fans_out (Race.tracker 3) ⟨2⟩ "CARRY"
    "CARRY" (.ofNat 215) Race.today available
  have ended : ∀ thread ∈ Race.atOnce.threads, ∃ result, thread.program = .done result :=
    System.done_of_ended? (by decide +kernel)
  have same := (fans.interleaved [0, 1, 2, 2, 1] (Race.play_atOnce ▸ ended)).1
  rw [Race.play_atOnce] at same
  exact ⟨(congrArg Prod.snd fans.entries).trans same.symm, by decide +kernel, by decide +kernel⟩

end GolfProgress
