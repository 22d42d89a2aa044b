import GolfProgress.Proofs.Repetition

/-!
# Benchmarks of players recorded again

Each evaluation of a benchmark for a player's records that has succeeded is settled, and
those that come after it are about other records, so that at the end all of them are, be they
made one after the other (`Tracker.rested_of_inTurn`) or at once (`UnderWay.rested`).  A
record that the benchmark is still about was evaluated by the same rule before, since no
write changes the rule of a record or adds a record (`Tracker.Rested.atRest`).  So recording
the benchmark again only reads, and `repeating_changes_nothing` says this together with what
`Edit.Settled.run` says of the single edits.
-/

set_option autoImplicit false

namespace GolfProgress

open Tracker (ownEdit)

variable {tracker : Tracker} {player : Uuid} {test metric : String} {value : Binary64}
  {date : Date} {start finish workspace later : Workspace} {targets : List BreakingPoint}
  {point : BreakingPoint}

/-! ## Evaluations that have come to rest -/

/-- Where evaluations of a benchmark for some records have led: nothing but these records
has changed, and each evaluation is settled. -/
structure Tracker.Rested (tracker : Tracker) (metric : String) (value : Binary64) (date : Date)
    (targets : List BreakingPoint) (start finish : Workspace) : Prop where
  continues : start.Continues finish
  kept : ∀ id, (∀ point ∈ targets, point.id ≠ id) → finish.record? id = start.record? id
  settled : ∀ point ∈ targets,
    ∃ report, (ownEdit metric value date point).Settled tracker finish report

/-- All evaluations of a benchmark that are due for a player are settled. -/
def Tracker.AtRest (tracker : Tracker) (player : Uuid) (test metric : String) (value : Binary64)
    (date : Date) (workspace : Workspace) : Prop :=
  ∀ point, workspace.record? point.id = some point → point.player = player →
    point.test = test → point.isResolved = false →
    ∃ report, (ownEdit metric value date point).Settled tracker workspace report

/-- Once the benchmark has been evaluated for its records, there is nothing due that is not
settled. -/
theorem Tracker.Rested.atRest (rested : tracker.Rested metric value date targets start finish)
    (selects : start.Selects player test targets) :
    tracker.AtRest player test metric value date finish := by
  intro point found own measured unresolved
  by_cases known : ∃ target ∈ targets, target.id = point.id
  · obtain ⟨target, inside, same⟩ := known
    obtain ⟨report, settled⟩ := rested.settled target inside
    -- the record is the target as it has become, which is judged by the same rule
    obtain ⟨old, first, identifies⟩ := rested.continues.identifies point.id point found
    obtain rfl : target = old := Option.some.inj <|
      ((selects.selected target).mp inside).1.symm.trans (same ▸ first)
    have judged : ownEdit metric value date point = ownEdit metric value date target := by
      rw [ownEdit, ownEdit, ownBenchmark, ownBenchmark, same, identifies.rule]
    exact ⟨report, judged ▸ settled⟩
  · have other : ∀ target ∈ targets, target.id ≠ point.id :=
      fun target inside same => known ⟨target, inside, same⟩
    have first := (rested.kept point.id other).symm.trans found
    exact absurd rfl (other point ((selects.selected point).mpr ⟨first, own, measured, unresolved⟩))

/-- A settled evaluation reports a benchmark. -/
theorem Tracker.exists_outcome {report : Report}
    (settled : (ownEdit metric value date point).Settled tracker workspace report) :
    ∃ outcome, report = .benchmark outcome := by
  obtain ⟨stored, -, -, answers⟩ := settled
  unfold Edit.answer at answers
  split at answers
  · cases answers
  · cases decides : (((ownEdit metric value date point).loop tracker).plan stored).decision
        workspace.sessions stored with
    | error failure =>
        rw [decides] at answers
        cases answers
    | ok decision =>
        rw [decides] at answers
        cases report with
        | benchmark outcome => exact ⟨outcome, rfl⟩
        | _ => cases answers

/-! ## One after the other -/

section InTurn

/-- The evaluation for a record runs as its edit does. -/
theorem Tracker.run_evaluateOwn_eq (tracker : Tracker) (metric : String) (value : Binary64)
    (date : Date) (point : BreakingPoint) (workspace : Workspace) :
    ∃ result later,
      (tracker.evaluateOwn metric value date point).run workspace = ((point.id, result), later) ∧
      ((ownEdit metric value date point).program tracker).run workspace =
        (result.map .benchmark, later) := by
  let evaluated :=
    (tracker.evaluateBenchmark point.id (ownBenchmark metric value date point)).run workspace
  refine ⟨evaluated.1, evaluated.2, ?_, ?_⟩
  · rw [evaluateOwn, Program.run_map]
    rfl
  · rw [ownEdit, Edit.program, Program.run_map]

/-- Evaluations of other records leave one settled that came before them. -/
theorem Tracker.Rested.cons {middle : Workspace} {report : Report}
    (fresh : point.id ∉ targets.map (·.id)) (early : start.Continues middle)
    (kept : ∀ other, other ≠ point.id → middle.record? other = start.record? other)
    (settled : (ownEdit metric value date point).Settled tracker middle report)
    (late : tracker.Rested metric value date targets middle finish) :
    tracker.Rested metric value date (point :: targets) start finish where
  continues := early.trans late.continues
  kept := by
    intro id others
    have apart : id ≠ point.id := (others point List.mem_cons_self).symm
    exact (late.kept id fun target inside => others target (List.mem_cons_of_mem _ inside)).trans
      (kept id apart)
  settled := by
    intro target inside
    rcases List.mem_cons.mp inside with rfl | inside
    · have stays : finish.record? target.id = middle.record? target.id :=
        late.kept target.id fun other later same =>
          fresh (List.mem_map.mpr ⟨other, later, same⟩)
      exact ⟨report, settled.waits (Workspace.get_congr late.continues.failure stays)
        late.continues.sessions⟩
    · exact late.settled target inside

/-- **Evaluations that have all succeeded are settled.** -/
theorem Tracker.rested_of_inTurn (alone : start.rivals = [])
    (apart : (targets.map (·.id)).Nodup) {entries : List (Uuid × Except Failure BenchmarkOutcome)}
    (runs : (Program.inTurn (targets.map (tracker.evaluateOwn metric value date))).run start =
      (entries, finish))
    (succeed : ∀ entry ∈ entries, ∃ outcome, entry.2 = .ok outcome) :
    tracker.Rested metric value date targets start finish := by
  induction targets generalizing start entries with
  | nil =>
      cases runs
      exact ⟨.refl alone, fun _ _ => rfl, by simp⟩
  | cons first rest ih =>
      obtain ⟨fresh, apart⟩ := List.nodup_cons.mp apart
      obtain ⟨result, middle, evaluated, edited⟩ :=
        tracker.run_evaluateOwn_eq metric value date first start
      cases onward : (Program.inTurn (rest.map (tracker.evaluateOwn metric value date))).run
        middle with
      | mk others left =>
          simp only [List.map_cons, Program.inTurn, Program.run_andThen, Program.run, evaluated,
            onward, Prod.mk.injEq] at runs
          obtain ⟨rfl, rfl⟩ := runs
          obtain ⟨outcome, same⟩ := succeed (first.id, result) List.mem_cons_self
          obtain rfl : result = .ok outcome := same
          obtain ⟨early, kept, settled⟩ := Edit.settled_of_run alone edited
          have late := ih early.alone apart onward fun entry inside =>
            succeed entry (List.mem_cons_of_mem _ inside)
          exact late.cons fresh early kept settled

/-- **Settled evaluations succeed again and write nothing.** -/
theorem Tracker.inTurn_of_settled
    (settled : ∀ point ∈ targets,
      ∃ report, (ownEdit metric value date point).Settled tracker workspace report)
    (conflicts : UInt32) :
    ∃ entries, (Program.inTurn (targets.map (tracker.evaluateOwn metric value date))).run
        (workspace.contested conflicts) = (entries, workspace.contested conflicts) ∧
      ∀ entry ∈ entries, ∃ outcome, entry.2 = .ok outcome := by
  induction targets with
  | nil => exact ⟨[], rfl, by simp⟩
  | cons first rest ih =>
      obtain ⟨entries, onward, succeed⟩ := ih fun point inside =>
        settled point (List.mem_cons_of_mem _ inside)
      obtain ⟨report, still⟩ := settled first List.mem_cons_self
      obtain ⟨outcome, rfl⟩ := Tracker.exists_outcome still
      obtain ⟨result, later, evaluated, edited⟩ :=
        tracker.run_evaluateOwn_eq metric value date first (workspace.contested conflicts)
      obtain ⟨ends, rfl⟩ := Prod.ext_iff.mp (edited.symm.trans (still.run conflicts).1)
      cases result with
      | error failure => cases ends
      | ok again =>
          refine ⟨(first.id, .ok again) :: entries, ?_, ?_⟩
          · simp only [List.map_cons, Program.inTurn, Program.run_andThen, Program.run, evaluated,
              onward]
          · rintro entry inside
            rcases List.mem_cons.mp inside with rfl | inside
            · exact ⟨again, rfl⟩
            · exact succeed entry inside

end InTurn

/-! ## At once -/

section AtOnce

variable {system : System}

/-- An evaluation is under way and steady. -/
def Tracker.OwnSteady (tracker : Tracker) (metric : String) (value : Binary64) (date : Date) :
    EvaluationProperty := fun point workspace program =>
  ∃ phase : ((ownEdit metric value date point).loop tracker).Phase, program = phase.program ∧
    (ownEdit metric value date point).Steady tracker workspace phase

/-- **A call of an evaluation keeps all of them steady.** -/
theorem Tracker.evaluating_ownSteady (tracker : Tracker) (metric : String) (value : Binary64)
    (date : Date) (start : Workspace) :
    Evaluating start.Continues (tracker.OwnSteady metric value date) where
  quiet := by
    rintro point workspace program ⟨phase, rfl, steady⟩
    unfold Program.handedOut
    split
    · next evaluations done =>
        obtain rfl := WriteLoop.program_eq_done done
        cases steady with
        | settled settled =>
            obtain ⟨outcome, same⟩ := Tracker.exists_outcome settled
            cases same
    · rfl
  acts := by
    rintro point workspace program after later continues ⟨phase, rfl, steady⟩ steps
    rw [WriteLoop.step?_program] at steps
    cases calls : phase.request? with
    | none =>
        rw [calls] at steps
        cases steps
    | some request =>
        rw [calls] at steps
        cases steps
        refine ⟨continues.trans (Workspace.continues_perform continues.alone request),
          ⟨_, rfl, steady.after continues.alone calls⟩, fun id apart => ?_⟩
        refine Workspace.record?_perform_of_ne continues.alone ?_
        intro called expected patch update
        rw [Edit.eq_id_of_request? calls called expected patch update]
        exact apart.symm
  waits := by
    rintro point workspace later program continues continues' same ⟨phase, rfl, steady⟩
    refine ⟨phase, rfl, steady.waits (Workspace.get_congr ?_ same) ?_⟩
    · exact continues'.failure.trans continues.failure.symm
    · exact continues'.sessions.trans continues.sessions.symm

/-- Evaluations that have all succeeded are settled. -/
theorem UnderWay.rested
    (under : UnderWay metric value date start targets start.Continues
      (tracker.OwnSteady metric value date) system)
    (ended : ∀ thread ∈ system.threads, ∃ report, thread.program = .done (.ok report)) :
    tracker.Rested metric value date targets start system.workspace where
  continues := under.holds
  kept := under.kept
  settled := by
    intro point inside
    obtain ⟨place, here⟩ := List.mem_iff_getElem?.mp inside
    obtain ⟨program, thread, phase, rfl, steady⟩ := under.evaluating place point here
    obtain ⟨report, done⟩ := ended _ (List.mem_of_getElem? thread)
    obtain rfl := WriteLoop.program_eq_done done
    cases steady with
    | settled settled => exact ⟨report, settled⟩

/-- An evaluation makes no more writes and will succeed. -/
def Program.Idles (workspace : Workspace) (program : Program (Except Failure Report)) : Prop :=
  ∃ outcome, program.run workspace = (.ok (.benchmark outcome), workspace) ∧
    program.updates workspace = 0

/-- A call of an evaluation that makes no more writes leaves the workspace as it is. -/
theorem evaluating_idles (workspace : Workspace) :
    Evaluating (· = workspace) fun _ workspace program => program.Idles workspace where
  quiet := by
    rintro - workspace program ⟨outcome, runs, -⟩
    unfold Program.handedOut
    split
    · cases runs
    · rfl
  acts := by
    rintro - current program after later same ⟨outcome, runs, silent⟩ steps
    subst same
    cases program with
    | done result => cases steps
    | call request next =>
        simp only [Program.updates, Program.calls, List.countP_cons, Nat.add_eq_zero_iff] at silent
        obtain ⟨silent, reads⟩ := silent
        have same : (current.perform request).2 = current := by
          refine Workspace.perform_of_not_update fun id expected patch update => ?_
          rw [update] at reads
          cases reads
        cases steps
        rw [Program.run, same] at runs
        rw [same] at silent ⊢
        exact ⟨rfl, ⟨outcome, runs, silent⟩, fun _ _ => rfl⟩
  waits := by
    rintro - _ _ program rfl rfl - idles
    exact idles

/-- Evaluations that make no more writes leave the workspace as it is, and each that has ended
has succeeded. -/
theorem UnderWay.succeeds
    (under : UnderWay metric value date start targets (· = workspace)
      (fun _ workspace program => program.Idles workspace) system) :
    system.workspace = workspace ∧ ∀ thread ∈ system.threads, ∀ result,
      thread.program = .done result → ∃ report, result = .ok report := by
  refine ⟨under.holds, fun thread inside result done => ?_⟩
  obtain ⟨number, found⟩ := List.mem_iff_getElem?.mp inside
  cases number with
  | zero =>
      obtain ⟨operation, report, ended⟩ := under.listed
      rw [ended] at found
      cases found
      cases done
      exact ⟨report, rfl⟩
  | succ place =>
      obtain ⟨point, program, -, rfl, outcome, runs, -⟩ := under.exists_evaluating found
      obtain rfl : program = .done result := done
      exact ⟨_, congrArg Prod.fst runs⟩

/-- Whether a thread has ended with a report. -/
def Thread.hasSucceeded (thread : Thread) : Bool :=
  match thread.program with
  | .done (.ok _) => true
  | _ => false

theorem Thread.exists_report {thread : Thread} (succeeded : thread.hasSucceeded = true) :
    ∃ report, thread.program = .done (.ok report) := by
  unfold hasSucceeded at succeeded
  split at succeeded
  · next report done => exact ⟨report, done⟩
  · cases succeeded

/-- Threads that have ended make no calls. -/
theorem System.play_of_done
    (done : ∀ thread ∈ system.threads, ∃ result, thread.program = .done result)
    (calls : List Nat) : (system.play tracker (calls.map .call)).2 = system := by
  induction calls with
  | nil => rfl
  | cons number rest ih =>
      have silent : system.call? tracker number = none := by
        cases acting : system.threads[number]? with
        | none => simp [call?, acting]
        | some thread =>
            obtain ⟨result, ended⟩ := done thread (List.mem_of_getElem? acting)
            simp [call?, acting, ended, Program.request?]
      simpa [System.play, System.move, silent] using ih

/-- While the list is to be made, nothing has succeeded. -/
theorem System.not_succeeded_recording :
    ¬ ∀ thread ∈ (recording tracker start player test metric value date).threads,
      ∃ report, thread.program = .done (.ok report) := by
  intro succeeded
  have ended : ∀ thread ∈ (recording tracker start player test metric value date).threads,
      ∃ result, thread.program = .done result := by
    intro thread inside
    obtain ⟨report, done⟩ := succeeded thread inside
    exact ⟨_, done⟩
  exact not_ended_recording ended

/-- A benchmark that was recorded was recorded on a store that answers. -/
theorem System.reachable_of_ended {calls : List Nat}
    (ended : ∀ thread ∈ ((recording tracker start player test metric value date).play tracker
      (calls.map .call)).2.threads, ∃ report, thread.program = .done (.ok report)) :
    start.store.failure = none := by
  cases down : start.store.failure with
  | none => rfl
  | some failure =>
      exfalso
      have listed : start.perform (.list player) = (.error failure, start) := by
        change (start.store.listForPlayer player, start) = _
        rw [BreakingPointStore.listForPlayer, down]
        rfl
      have fails : ((recording tracker start player test metric value date).move tracker
          (.call 0)).2 = ⟨start, [⟨.recordBenchmark player test metric value date,
            .done (.error (.store failure))⟩]⟩ := by
        simp [recording, begin, idle, move, call?, Thread.begin, Operation.program,
          Tracker.handOut, Program.map, Program.andThen, Program.request?, Program.step?, listed,
          resume, Program.handedOut, Except.map]
      rcases System.play_recording_listed tracker start player test metric value date calls with
        still | ⟨rest, played⟩
      · rw [still] at ended
        exact System.not_succeeded_recording ended
      · rw [played, fails, System.play_of_done (by simp)] at ended
        obtain ⟨report, done⟩ := ended _ List.mem_cons_self
        cases done

end AtOnce

/-! ## Recording a benchmark again -/

/-- Recording a benchmark for a player has led from one workspace to another and every
evaluation has succeeded, whether they were made one after the other or at once with their
calls interleaved. -/
inductive Tracker.Recorded (tracker : Tracker) (player : Uuid) (test metric : String)
    (value : Binary64) (date : Date) (start finish : Workspace) : Prop where
  | inTurn {entries : List (Uuid × Except Failure BenchmarkOutcome)}
      (runs : (tracker.recordBenchmark player test metric value date).run start =
        (.ok entries, finish))
      (succeed : ∀ entry ∈ entries, ∃ outcome, entry.2 = .ok outcome) :
      Recorded tracker player test metric value date start finish
  | atOnce {system : System} (calls : List Nat)
      (played : ((System.recording tracker start player test metric value date).play tracker
        (calls.map .call)).2 = system)
      (leaves : system.workspace = finish)
      (succeed : ∀ thread ∈ system.threads, ∃ report, thread.program = .done (.ok report)) :
      Recorded tracker player test metric value date start finish

/-- Recording a benchmark for a player succeeds for every record and changes nothing. -/
structure Tracker.Changeless (tracker : Tracker) (player : Uuid) (test metric : String)
    (value : Binary64) (date : Date) (workspace : Workspace) : Prop where
  inTurn : ∃ entries, (tracker.recordBenchmark player test metric value date).run workspace =
      (.ok entries, workspace) ∧
    ∀ entry ∈ entries, ∃ outcome, entry.2 = .ok outcome
  atOnce : ∀ calls : List Nat,
    let system := ((System.recording tracker workspace player test metric value date).play tracker
      (calls.map .call)).2
    system.workspace = workspace ∧
      ∀ thread ∈ system.threads, ∀ result, thread.program = .done result →
        ∃ report, result = .ok report

/-- A benchmark that was recorded has been evaluated for the records that it is about. -/
theorem Tracker.Recorded.rested
    (recorded : tracker.Recorded player test metric value date start finish)
    (alone : start.rivals = []) :
    start.store.failure = none ∧ ∃ targets, start.Selects player test targets ∧
      tracker.Rested metric value date targets start finish := by
  have reachable : start.store.failure = none := by
    cases recorded with
    | inTurn runs =>
        by_contra down
        obtain ⟨failure, down⟩ := Option.ne_none_iff_exists'.mp down
        simp [recordBenchmark, Program.run, Workspace.perform,
          BreakingPointStore.listForPlayer, down] at runs
    | atOnce calls played _ succeed =>
        subst played
        exact System.reachable_of_ended succeed
  obtain ⟨points, listed, selects⟩ := start.exists_selects reachable player test
  refine ⟨reachable, _, selects, ?_⟩
  cases recorded with
  | @inTurn entries runs succeed =>
      simp only [recordBenchmark, Program.run, listed, Program.run_map, Prod.mk.injEq,
        Except.ok.injEq] at runs
      exact rested_of_inTurn alone selects.apart (Prod.ext runs.1 runs.2) succeed
  | atOnce calls played leaves succeed =>
      subst played leaves
      have opens (point : BreakingPoint) : tracker.OwnSteady metric value date point start
          ((ownEdit metric value date point).program tracker) :=
        ⟨_, (Edit.program_opening tracker _).symm, Edit.steady_opening tracker _ start⟩
      rcases System.play_recording (tracker.evaluating_ownSteady metric value date start)
        (.refl alone) listed selects.apart (fun point _ => opens point) calls with begun | under
      · rw [begun] at succeed
        exact absurd succeed System.not_succeeded_recording
      · exact under.rested succeed

/-- **Once all due evaluations are settled, recording the benchmark changes nothing**,
whatever conflicts are pending. -/
theorem Tracker.AtRest.changeless (rests : tracker.AtRest player test metric value date workspace)
    (reachable : workspace.store.failure = none) (conflicts : UInt32) :
    tracker.Changeless player test metric value date (workspace.contested conflicts) := by
  obtain ⟨points, listed, selects⟩ :=
    (workspace.contested conflicts).exists_selects reachable player test
  have settled : ∀ point ∈ points.filter (isBenchmarked test),
      ∃ report, (ownEdit metric value date point).Settled tracker workspace report := by
    intro point inside
    obtain ⟨found, own, measured, unresolved⟩ := (selects.selected point).mp inside
    exact rests point found own measured unresolved
  refine ⟨?_, fun calls => ?_⟩
  · obtain ⟨entries, runs, succeed⟩ := Tracker.inTurn_of_settled settled conflicts
    refine ⟨entries, ?_, succeed⟩
    simp only [recordBenchmark, Program.run, listed, Program.run_map, runs]
  · have opens : ∀ point ∈ points.filter (isBenchmarked test),
        ((ownEdit metric value date point).program tracker).Idles
          (workspace.contested conflicts) := by
      intro point inside
      obtain ⟨report, still⟩ := settled point inside
      obtain ⟨outcome, rfl⟩ := Tracker.exists_outcome still
      obtain ⟨runs, silent⟩ := still.run conflicts
      exact ⟨_, runs, silent⟩
    rcases System.play_recording (evaluating_idles (workspace.contested conflicts)) rfl listed
      selects.apart opens calls with begun | under
    · obtain ⟨thread, only, waits⟩ := System.threads_recording tracker
        (workspace.contested conflicts) player test metric value date
      rw [begun]
      refine ⟨rfl, fun other inside result done => absurd done ?_⟩
      rw [only, List.mem_singleton] at inside
      exact inside ▸ waits result
    · exact under.succeeds

/-! ## Operations made again -/

/-- **An operation that has returned successfully changes nothing when it is made again**,
whatever conflicts are pending by then.  An edit reports what it has reported, with what it
has left in place of what it had found; the evaluations of a benchmark for a player's
records, one after the other or at once, succeed as they have before. -/
theorem repeating_changes_nothing (tracker : Tracker) {start finish : Workspace}
    (alone : start.rivals = []) (conflicts : UInt32) :
    (∀ (edit : Edit) (report : Report), (edit.program tracker).run start = (.ok report, finish) →
      (edit.program tracker).run (finish.contested conflicts) =
        (.ok report.repeated, finish.contested conflicts)) ∧
    ∀ player test metric value date,
      tracker.Recorded player test metric value date start finish →
      tracker.Changeless player test metric value date (finish.contested conflicts) := by
  constructor
  · intro edit report runs
    obtain ⟨-, -, settled⟩ := Edit.settled_of_run alone runs
    exact (settled.run conflicts).1
  · intro player test metric value date recorded
    obtain ⟨reachable, targets, selects, rested⟩ := recorded.rested alone
    exact (rested.atRest selects).changeless (rested.continues.failure.trans reachable) conflicts

/-- A carry of 215 metres is written once, and evaluating it again writes nothing, though two
conflicts are pending: neither the one evaluation, nor both at once for a player. -/
theorem carry_evaluated_again :
    let ran := ((Race.reading 215).program (Race.tracker 3)).run Race.workspace
    ((Race.workspace.record? Race.carry).map (·.version) = some 0 ∧
      (ran.2.record? Race.carry).map (·.version) = some 1 ∧
      ((Race.reading 215).program (Race.tracker 3)).run (ran.2.contested 2) =
        (ran.1.map Report.repeated, ran.2.contested 2)) ∧
    (Race.tracker 3).Changeless ⟨2⟩ "CARRY" "CARRY" (.ofNat 215) Race.today
      (Race.atOnce.workspace.contested 2) := by
  refine ⟨⟨by decide +kernel, by decide +kernel, ?_⟩, ?_⟩
  · cases ran : ((Race.reading 215).program (Race.tracker 3)).run Race.workspace with
    | mk result finish =>
        have succeeds : (((Race.reading 215).program (Race.tracker 3)).run
            Race.workspace).1.isOk = true := by decide +kernel
        cases result with
        | error failure =>
            rw [ran] at succeeds
            cases succeeds
        | ok report =>
            exact (repeating_changes_nothing (Race.tracker 3) rfl 2).1 _ report ran
  · have succeeded : ∀ thread ∈ Race.atOnce.threads, thread.hasSucceeded = true := by
      decide +kernel
    have begins (rest : List Move) : ((System.idle Race.pair).play (Race.tracker 3)
        (.begin (.recordBenchmark ⟨2⟩ "CARRY" "CARRY" (.ofNat 215) Race.today) :: rest)).2 =
        ((System.recording (Race.tracker 3) Race.pair ⟨2⟩ "CARRY" "CARRY" (.ofNat 215)
          Race.today).play (Race.tracker 3) rest).2 := rfl
    have played : ((System.recording (Race.tracker 3) Race.pair ⟨2⟩ "CARRY" "CARRY" (.ofNat 215)
        Race.today).play (Race.tracker 3) ([0, 1, 2, 2, 1].map .call)).2 = Race.atOnce :=
      (begins ([0, 1, 2, 2, 1].map .call)).symm.trans Race.play_atOnce
    exact (repeating_changes_nothing (Race.tracker 3) rfl 2).2 _ _ _ _ _
      (.atOnce [0, 1, 2, 2, 1] played rfl fun thread inside =>
        Thread.exists_report (succeeded thread inside))

end GolfProgress
