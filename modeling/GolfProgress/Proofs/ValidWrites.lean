import GolfProgress.Proofs.Evolution
import GolfProgress.Proofs.Refusals
import GolfProgress.Proofs.Solo

/-!
# Writes that stay valid

No operation of the tracker ever meets the refusal of a record, whatever its settings
and arguments.  An edit writes about a valid record only what keeps it valid
(`Edit.Writes.valid_landing`), and a write that meets the version that it expects meets
the very record that the edit has read, so the store has nothing to refuse
(`System.Current.accepts`).

`writes_are_accepted` says so for operations that interleave, and for a benchmark that
is recorded alone.
-/

set_option autoImplicit false

namespace GolfProgress

/-! ## Operations that interleave -/

/-- A call that is not answered that a record is invalid. -/
def Event.Accepted (event : Event) : Prop :=
  ¬ MeetsInvalid (event.before.perform event.request).1

/-- A system whose threads are honest in what is left of them. -/
def System.Honest (system : System) : Prop :=
  ∀ thread ∈ system.threads, thread.program.Honest fun result => ¬ TellsInvalid result

section Interleaved

variable {tracker : Tracker} {system next finish : System} {event? : Option Event}
  {events : List Event}

/-- **A write that is about to be made about a record that was read is not refused as
invalid**, as long as no version goes back. -/
theorem System.Current.accepts {event : Event} (current : system.Current tracker)
    (sound : system.workspace.Sound)
    (step : Step tracker Workspace.Outage system (some event) next)
    (kept : event.KeepsVersions) : event.Accepted := by
  obtain ⟨before, -⟩ := step.event
  have quiet (reads : ∀ id expected patch, event.request ≠ .update id expected patch) :
      event.Accepted := by
    unfold Event.Accepted
    rw [before]
    exact sound.unrigged.reads reads
  rcases step.acts current.stand with ⟨edit, phase, acts⟩ | reads
  · rcases WriteLoop.writing_or_reads acts.calls with
      ⟨left, point, decision, yields, changes, rfl, request⟩ | reads
    · rcases event with ⟨number, operation, called, workspace⟩
      obtain rfl : workspace = system.workspace := before
      obtain rfl : called = .update (edit.loop tracker).id point.version decision.patch := request
      rw [edit.id_loop] at kept ⊢
      intro refused
      obtain ⟨old, new, found, change, after, version, invalid⟩ :=
        sound.unrigged.update_of_invalid sound.alone refused
      -- the record on the expected version is no older than the one that was read
      obtain ⟨stored, has⟩ := acts.holds point rfl
      obtain rfl := Option.some.inj (has.found.symm.trans found)
      have ordered := kept _ _ _ found after
      have same : point.version = stored.version := by
        have read := has.ordered
        rw [version] at ordered
        exact UInt64.toNat.inj (Nat.le_antisymm read ordered)
      obtain rfl := has.same same
      rcases change with rfl | rfl
      · exact invalid ((edit.writes_of_yields yields changes).valid_landing
          (sound.valid _ _ found))
      · exact stored.version_bumped_ne version
    · exact quiet reads
  · exact quiet reads

/-- A step leaves the workspace sound. -/
theorem Step.sound (step : Step tracker Workspace.Outage system event? next)
    (sound : system.workspace.Sound) : next.workspace.Sound := by
  cases event? with
  | some event =>
      obtain ⟨before, after⟩ := step.event
      rw [← after]
      exact (before ▸ sound).perform event.request
  | none =>
      cases step with
      | begin operation => exact sound
      | disturb outage =>
          refine ⟨outage.disturbed.alone sound.alone, fun id point found => ?_, outage.unrigged⟩
          exact sound.valid id point (outage.disturbed.record? ▸ found)

/-- A step whose call is accepted leaves every thread honest. -/
theorem Step.honest (step : Step tracker Workspace.Outage system event? next)
    (honest : system.Honest) (accepted : ∀ event, event? = some event → event.Accepted) :
    next.Honest := by
  intro thread inside
  cases step with
  | disturb outage => exact honest thread inside
  | begin operation =>
      rcases List.mem_append.mp inside with old | new
      · exact honest thread old
      · obtain rfl := List.mem_singleton.mp new
        exact operation.honest tracker
  | @call number acting request program workspace here calls steps =>
      rcases List.mem_append.mp inside with old | new
      · rcases List.mem_or_eq_of_mem_set old with other | same
        · exact honest thread other
        · subst same
          exact (honest acting (List.mem_of_getElem? here)).step calls steps (accepted _ rfl)
      · obtain ⟨evaluation, -, rfl⟩ := List.mem_map.mp new
        exact (Operation.edit (.evaluateBenchmark evaluation.1 evaluation.2)).honest tracker

/-- Where a run stands in which no write was refused as invalid. -/
structure System.Unrefused (tracker : Tracker) (events : List Event) (system : System) :
    Prop where
  current : system.Current tracker
  sound : system.workspace.Sound
  honest : system.Honest
  accepted : ∀ event ∈ events, event.Accepted

/-- In a run from a sound workspace in which no version goes back no write is refused as
invalid. -/
theorem Run.unrefused {workspace : Workspace} (sound : workspace.Sound)
    (run : Run tracker Workspace.Outage (.idle workspace) events finish)
    (unwrapped : ∀ event ∈ events, event.KeepsVersions) : finish.Unrefused tracker events := by
  induction run with
  | refl => exact ⟨.idle sound.alone, sound, by simp [System.Honest, System.idle], by simp⟩
  | @step events middle finish event? _ last ih =>
      obtain ⟨early, late⟩ := Event.forall_append unwrapped
      obtain ⟨current, sound, honest, accepted⟩ := ih early
      have accepts : ∀ event, event? = some event → event.Accepted := by
        rintro event rfl
        exact current.accepts sound last (late event rfl)
      refine ⟨current.step last (fun _ _ outage => outage.disturbed) late, last.sound sound,
        last.honest honest accepts, fun event occurs => ?_⟩
      rcases List.mem_append.mp occurs with before | now
      · exact accepted event before
      · exact accepts event (Option.mem_toList.mp now)

end Interleaved

/-! ## Operations alone -/

/-- A program that, run alone on a sound workspace, leaves it sound and comes to a result
as it should be. -/
def Program.EndsWell {Result : Type} (ends : Result → Prop) (program : Program Result) : Prop :=
  ∀ workspace : Workspace, workspace.Sound →
    ends (program.run workspace).1 ∧ (program.run workspace).2.Sound

namespace Program

variable {First Second : Type} {ends : First → Prop} {whole : Second → Prop}

theorem EndsWell.done {result : First} (fair : ends result) : (done result).EndsWell ends :=
  fun _ sound => ⟨fair, sound⟩

theorem EndsWell.andThen {program : Program First} {rest : First → Program Second}
    (first : program.EndsWell ends)
    (second : ∀ result, ends result → (rest result).EndsWell whole) :
    (program.andThen rest).EndsWell whole := by
  intro workspace sound
  rw [run_andThen]
  obtain ⟨fair, still⟩ := first workspace sound
  exact second _ fair _ still

theorem EndsWell.map {program : Program First} {change : First → Second}
    (first : program.EndsWell ends) (kept : ∀ result, ends result → whole (change result)) :
    (program.map change).EndsWell whole :=
  first.andThen fun result fair => .done (kept result fair)

/-- A call that only reads is followed by what an accepted reply leads to. -/
theorem EndsWell.read {request : Call} {next : request.Reply → Program First}
    (reads : ∀ id expected patch, request ≠ .update id expected patch)
    (rest : ∀ reply, ¬ MeetsInvalid reply → (next reply).EndsWell ends) :
    (call request next).EndsWell ends := by
  intro workspace sound
  rw [run]
  exact rest _ (sound.unrigged.reads reads) _ (sound.perform request)

/-- Programs that end well one by one end well in turn. -/
theorem EndsWell.inTurn {programs : List (Program First)}
    (each : ∀ program ∈ programs, program.EndsWell ends) :
    (inTurn programs).EndsWell fun results => ∀ result ∈ results, ends result := by
  induction programs with
  | nil => exact .done (by simp)
  | cons program rest ih =>
      refine .andThen (each program (List.mem_cons_self ..)) fun result fair => ?_
      refine .andThen (ih fun other inside => each other (List.mem_cons_of_mem _ inside))
        fun results all => .done ?_
      exact List.forall_mem_cons.mpr ⟨fair, all⟩

end Program

namespace Tracker

variable {Outcome : Type} {id : Uuid} {point : BreakingPoint} {plan : BreakingPoint → Plan Outcome}
  {workspace : Workspace} {again : Program (Except Failure (Written Outcome))}

/-- What was decided about the stored record is written, or tried again. -/
theorem endsWell_commit (sound : workspace.Sound) (found : workspace.record? id = some point)
    {decision : Decision Outcome}
    (valid : decision.patch.isEmpty = false → (decision.patch.landing point).Valid)
    (rest : again.EndsWell fun written => ¬ TellsInvalid written) :
    ¬ TellsInvalid ((commit id point decision again).run workspace).1 ∧
      ((commit id point decision again).run workspace).2.Sound := by
  unfold commit
  split
  · exact ⟨not_tellsInvalid_ok _, sound⟩
  · next changes =>
      have accepted := sound.update found (valid (by simpa using changes))
      have after := sound.perform (.update id point.version decision.patch)
      simp only [Program.run]
      revert accepted after
      rcases workspace.perform (.update id point.version decision.patch) with ⟨reply, later⟩
      intro accepted after
      rcases reply with failure | record
      · cases failure with
        | versionConflict => exact rest later after
        | notFound => exact ⟨by rintro ⟨_, ⟨⟩⟩, after⟩
        | unavailable => exact ⟨not_tellsInvalid_store accepted, after⟩
        | invalidRecord => exact ⟨not_tellsInvalid_store accepted, after⟩
      · exact ⟨not_tellsInvalid_ok _, after⟩

/-- A write loop alone ends well when its plan is honest and keeps valid records valid. -/
theorem endsWell_attempt (honest : ∀ point, (plan point).Honest)
    (keeps : ∀ point decision, (plan point).Yields decision → decision.patch.isEmpty = false →
      point.Valid → (decision.patch.landing point).Valid) (attempts : UInt32) (left : Nat) :
    (attempt attempts id plan left).EndsWell fun written => ¬ TellsInvalid written := by
  induction left with
  | zero => exact .done (by rintro ⟨_, ⟨⟩⟩)
  | succ left ih =>
      intro workspace sound
      have accepted : ¬ MeetsInvalid (workspace.perform (.get id)).1 :=
        sound.unrigged.reads (by simp)
      have performed : workspace.perform (.get id) = (workspace.store.get id, workspace) := rfl
      rw [performed] at accepted
      simp only [attempt, Program.run, performed]
      rcases read : workspace.store.get id with failure | _ | point
      · exact ⟨not_tellsInvalid_store (read ▸ accepted), sound⟩
      · exact ⟨by rintro ⟨_, ⟨⟩⟩, sound⟩
      · have found := Workspace.record?_of_get read
        have valid := sound.valid id point found
        dsimp only
        unfold follow
        cases planned : plan point with
        | refuse failure =>
            refine ⟨?_, sound⟩
            rintro ⟨reason, same⟩
            exact honest point failure planned ⟨reason, congrArg _ (Except.error.inj same)⟩
        | decided decision =>
            exact endsWell_commit sound found
              (fun changes => keeps point decision (planned ▸ .decided decision) changes valid) ih
        | counted decide =>
            have counts : workspace.perform (countCall point) =
                (workspace.sessions.count (.point point.id) point.createdAt, workspace) := rfl
            have accepted : ¬ MeetsInvalid (workspace.perform (countCall point)).1 :=
              sound.unrigged.reads (by simp [countCall])
            rw [counts] at accepted
            simp only [Program.run, counts]
            cases counted : workspace.sessions.count (.point point.id) point.createdAt with
            | ok sessions =>
                exact endsWell_commit sound found (fun changes => keeps point (decide sessions)
                  (planned ▸ .counted decide sessions) changes valid) ih
            | error failure => exact ⟨not_tellsInvalid_store (counted ▸ accepted), sound⟩

/-- Evaluating a benchmark alone ends well. -/
theorem endsWell_evaluateBenchmark (tracker : Tracker) (id : Uuid) (benchmark : Benchmark) :
    (tracker.evaluateBenchmark id benchmark).EndsWell fun outcome => ¬ TellsInvalid outcome := by
  let edit : Edit := .evaluateBenchmark id benchmark
  unfold evaluateBenchmark
  split
  · refine .map (endsWell_attempt (edit.honest_plan tracker) ?_ _ _) fun _ => not_tellsInvalid_map
    exact fun point decision yields changes valid =>
      (edit.writes_of_yields yields changes).valid_landing valid
  · exact .done (by rintro ⟨_, ⟨⟩⟩)

/-- Recording a benchmark alone tells of no invalid record, neither itself nor in what the
evaluations come to. -/
theorem endsWell_recordBenchmark (tracker : Tracker) (player : Uuid) (test metric : String)
    (value : Binary64) (date : Date) :
    (tracker.recordBenchmark player test metric value date).EndsWell fun result =>
      ¬ TellsInvalid result ∧
        ∀ outcomes, result = .ok outcomes → ∀ outcome ∈ outcomes, ¬ TellsInvalid outcome.2 := by
  refine .read (by simp) fun reply accepted => ?_
  cases reply with
  | error failure => exact .done ⟨not_tellsInvalid_store accepted, by simp⟩
  | ok points =>
      have evaluations : (Program.inTurn ((points.filter (isBenchmarked test)).map
          (tracker.evaluateOwn metric value date))).EndsWell
          fun outcomes => ∀ outcome ∈ outcomes, ¬ TellsInvalid outcome.2 := by
        refine .inTurn fun program inside => ?_
        obtain ⟨point, -, rfl⟩ := List.mem_map.mp inside
        exact (endsWell_evaluateBenchmark tracker _ _).map fun _ silent => silent
      refine evaluations.map fun results all => ⟨not_tellsInvalid_ok _, ?_⟩
      rintro _ ⟨⟩
      exact all

end Tracker

/-! ## No write is refused as invalid -/

/-- **No operation is ever told that its write is not valid**, whatever its settings and
arguments: neither where operations interleave and no version goes back, nor where a
benchmark is recorded alone.  The records are valid at the start, and no switch stands for
the refusal. -/
theorem writes_are_accepted (tracker : Tracker) {workspace : Workspace} (sound : workspace.Sound) :
    (∀ events finish, Run tracker Workspace.Outage (.idle workspace) events finish →
      (∀ event ∈ events, event.KeepsVersions) →
      (∀ event ∈ events, ∀ reason,
        (event.before.perform event.request).1 ≠ .error (.invalidRecord reason)) ∧
      ∀ number operation reason,
        finish.ended? number ≠ some (operation, .error (.store (.invalidRecord reason)))) ∧
    ∀ player test metric value date reason,
      let result := ((tracker.recordBenchmark player test metric value date).run workspace).1
      result ≠ .error (.store (.invalidRecord reason)) ∧
        ∀ outcomes, result = .ok outcomes → ∀ outcome ∈ outcomes,
          outcome.2 ≠ .error (.store (.invalidRecord reason)) := by
  refine ⟨fun events finish run unwrapped => ?_, fun player test metric value date reason => ?_⟩
  · have reached := run.unrefused sound unwrapped
    refine ⟨fun event occurs reason refused => reached.accepted event occurs ⟨reason, refused⟩,
      fun number operation reason ended => ?_⟩
    have inside := List.mem_of_getElem? (System.thread_of_ended? ended)
    cases reached.honest _ inside with
    | done silent => exact silent ⟨reason, rfl⟩
  · obtain ⟨⟨silent, all⟩, -⟩ :=
      tracker.endsWell_recordBenchmark player test metric value date workspace sound
    exact ⟨fun told => silent ⟨reason, told⟩,
      fun outcomes ok outcome inside told => all outcomes ok outcome inside ⟨reason, told⟩⟩

namespace Race

/-- The tracker of the race with settings that are out of range. -/
def unchecked : Tracker :=
  { tracker 0 with
    settings :=
      { effort := { perSession := 255, ceiling := 255 }, progress := { unresolvedCap := 255 },
        transitions := { highEffort := 0 }, store := { maxAttempts := 0 } } }

theorem sound : workspace.Sound where
  alone := rfl
  valid := fun _ _ found => eq_record found ▸ (by decide +kernel : record.Valid)
  unrigged := ⟨nofun, nofun, nofun, nofun⟩

/-- The effort and then the benchmark are recorded. -/
def inTurn : List Move :=
  [.begin (.edit (.recordEffort carry)), .begin (.edit (reading 215)), .call 0, .call 0, .call 0,
    .call 1, .call 1]

end Race

/-- With settings out of range both writes of the race land, and so does the benchmark alone. -/
theorem writes_are_accepted_unchecked :
    let played := System.play Race.unchecked (.idle Race.workspace) Race.inTurn
    (played.2.record? Race.carry).map (fun point => (point.effort, point.progress)) =
        some (150, 75) ∧
      (∀ event ∈ played.1, ∀ reason,
        (event.before.perform event.request).1 ≠ .error (.invalidRecord reason)) ∧
      ∀ reason outcomes, ((Race.unchecked.recordBenchmark ⟨2⟩ "CARRY" "CARRY" (.ofNat 215)
        Race.today).run Race.workspace).1 = .ok outcomes → ∀ outcome ∈ outcomes,
          outcome.2 ≠ .error (.store (.invalidRecord reason)) := by
  intro played
  obtain ⟨interleaved, alone⟩ := writes_are_accepted Race.unchecked Race.sound
  refine ⟨by decide +kernel, (interleaved _ _ (.of_play _ _ _ Race.inTurn) ?_).1, ?_⟩
  · decide +kernel
  · exact fun reason => (alone ⟨2⟩ "CARRY" "CARRY" (.ofNat 215) Race.today reason).2

end GolfProgress
