import GolfProgress.Proofs.Interleaving

/-!
# Where threads stand

In every reachable system the thread of an edit is in a phase of the edit's write loop,
and every other thread makes no more writes.  `Stand` says so and adds a property of
the phases; `Step.stand` reduces the preservation of such a property by a step of the
system to the thread that acts, the threads that wait and the threads that begin.
-/

set_option autoImplicit false

namespace GolfProgress

/-! ## Programs that only read -/

/-- A program that makes no writes. -/
inductive Program.Reads {Result : Type} : Program Result → Prop where
  | done (result : Result) : Reads (.done result)
  | call {request : Call} {next : request.Reply → Program Result}
      (reads : ∀ id expected patch, request ≠ .update id expected patch)
      (rest : ∀ reply, (next reply).Reads) : Reads (.call request next)

namespace Program

variable {Result Other : Type}

theorem Reads.map {program : Program Result} (reads : program.Reads) (change : Result → Other) :
    (program.map change).Reads := by
  induction reads with
  | done result => exact .done _
  | call reads _ ih => exact .call reads ih

theorem Reads.request {program : Program Result} (reads : program.Reads) {request : Call}
    (calls : program.request? = some request) :
    ∀ id expected patch, request ≠ .update id expected patch := by
  cases reads with
  | done result => cases calls
  | call reads _ =>
      cases calls
      exact reads

theorem Reads.step {program after : Program Result} (reads : program.Reads)
    {workspace later : Workspace} (steps : program.step? workspace = some (after, later)) :
    after.Reads ∧ later = workspace := by
  cases reads with
  | done result => cases steps
  | call reads rest =>
      cases steps
      exact ⟨rest _, Workspace.perform_of_not_update reads⟩

end Program

/-- An operation that is not an edit only reads. -/
theorem Operation.reads (tracker : Tracker) {operation : Operation}
    (other : ∀ edit, operation ≠ .edit edit) : (operation.program tracker).Reads := by
  cases operation with
  | edit change => exact absurd rfl (other change)
  | recordBenchmark player test metric value date =>
      refine .map (.call (by simp) fun reply => ?_) _
      cases reply <;> exact .done _
  | viewStatus id =>
      refine .map (.call (by simp) fun reply => ?_) _
      rcases reply with failure | _ | point <;> exact .done _
  | dueTransition id =>
      refine .map (.call (by simp) fun reply => ?_) _
      rcases reply with failure | _ | point
      · exact .done _
      · exact .done _
      · dsimp only
        split
        · exact .done _
        · refine .call (by simp [Tracker.countCall]) fun reply => ?_
          cases reply <;> exact .done _
  | evaluate id asOf =>
      refine .map (.call (by simp) fun reply => ?_) _
      rcases reply with failure | _ | point
      · exact .done _
      · exact .done _
      · refine .call (by simp [Tracker.countCall]) fun reply => ?_
        cases reply with
        | error failure => exact .done _
        | ok sessions =>
            refine .call (by simp [Tracker.latestCall]) fun reply => ?_
            cases reply <;> exact .done _

/-! ## The write loops of edits -/

namespace Edit

/-- The failure with which an edit is refused before it reads its record. -/
def fault? : Edit → Option Failure
  | .evaluateBenchmark _ benchmark =>
    if benchmark.value.isFinite then none else some (.invalidReading benchmark.value)
  | _ => none

/-- The write loop of an edit. -/
def loop (tracker : Tracker) : Edit → WriteLoop Report
  | .recordEffort id =>
    { Outcome := EffortUpdate, id, attempts := tracker.maxAttempts
      plan := fun point => .counted (tracker.effortDecision id point)
      report := fun written => .effort written.outcome }
  | .evaluateBenchmark id benchmark =>
    { Outcome := BenchmarkOutcome, id, attempts := tracker.maxAttempts
      plan := tracker.benchmarkPlan id benchmark
      report := fun written => .benchmark written.outcome }
  | .applyTransition id transition today =>
    { Outcome := Unit, id, attempts := tracker.maxAttempts
      plan := tracker.transitionPlan transition today
      report := fun written => .transition written.record }

/-- The phase in which an edit begins. -/
def opening (tracker : Tracker) (edit : Edit) : (edit.loop tracker).Phase :=
  match edit.fault? with
  | some failure => .ended (.error failure)
  | none => (edit.loop tracker).resumed tracker.maxAttempts.toNat

variable {tracker : Tracker}

theorem id_loop (edit : Edit) : (edit.loop tracker).id = edit.id := by cases edit <;> rfl

theorem attempts_loop (edit : Edit) : (edit.loop tracker).attempts = tracker.maxAttempts := by
  cases edit <;> rfl

theorem program_opening (tracker : Tracker) (edit : Edit) :
    (edit.opening tracker).program = edit.program tracker := by
  cases edit with
  | recordEffort id =>
      change WriteLoop.Phase.program (WriteLoop.resumed _ _) = _
      rw [WriteLoop.program_resumed]
      simp only [program, Tracker.recordEffort, Program.map_map]
      refine congrArg (Program.map · _) (funext fun written => ?_)
      cases written <;> rfl
  | evaluateBenchmark id benchmark =>
      by_cases finite : benchmark.value.isFinite
      · simp only [opening, fault?, finite, if_true, WriteLoop.program_resumed]
        simp only [program, Tracker.evaluateBenchmark, finite, if_true, Program.map_map]
        refine congrArg (Program.map · _) (funext fun written => ?_)
        cases written <;> rfl
      · simp only [opening, fault?, finite, program, Tracker.evaluateBenchmark]
        rfl
  | applyTransition id transition today =>
      change WriteLoop.Phase.program (WriteLoop.resumed _ _) = _
      rw [WriteLoop.program_resumed]
      simp only [program, Tracker.applyTransition, Program.map_map]
      refine congrArg (Program.map · _) (funext fun written => ?_)
      cases written <;> rfl

theorem point?_opening (tracker : Tracker) (edit : Edit) :
    (edit.opening tracker).point? = none := by
  unfold opening
  split
  · rfl
  · exact WriteLoop.point?_resumed _

end Edit

/-! ## Threads in phases -/

/-- A property of the phases of edits, of which each thread may have its own. -/
abbrev PhaseProperty (tracker : Tracker) : Type :=
  Nat → (edit : Edit) → (edit.loop tracker).Phase → Prop

/-- A thread is in a phase of its edit with a property, or it makes no more writes. -/
inductive Thread.Stands (tracker : Tracker)
    (property : (edit : Edit) → (edit.loop tracker).Phase → Prop) : Thread → Prop where
  | edit (edit : Edit) (phase : (edit.loop tracker).Phase) (holds : property edit phase) :
      Stands tracker property ⟨.edit edit, phase.program⟩
  | reads {operation : Operation} {program : Program (Except Failure Report)}
      (other : ∀ edit, operation ≠ .edit edit) (reads : program.Reads) :
      Stands tracker property ⟨operation, program⟩

/-- Every thread of a system is in a phase with a property, or makes no more writes. -/
def System.Stand (tracker : Tracker) (property : PhaseProperty tracker) (system : System) : Prop :=
  ∀ (number : Nat) (thread : Thread), system.threads[number]? = some thread →
    thread.Stands tracker (property number)

variable {tracker : Tracker} {allowed : Workspace → Workspace → Prop}
  {property later : PhaseProperty tracker} {system next start finish : System}
  {event? : Option Event} {events : List Event}

/-- The thread of an edit is in a phase with the property. -/
theorem Thread.Stands.phase {property : (edit : Edit) → (edit.loop tracker).Phase → Prop}
    {edit : Edit} {program : Program (Except Failure Report)}
    (stands : Thread.Stands tracker property ⟨.edit edit, program⟩) :
    ∃ phase : (edit.loop tracker).Phase, program = phase.program ∧ property edit phase := by
  cases stands with
  | edit _ phase holds => exact ⟨phase, rfl, holds⟩
  | reads other _ => exact absurd rfl (other edit)

/-- An operation that begins stands where its edit begins. -/
theorem Thread.Stands.begin {property : (edit : Edit) → (edit.loop tracker).Phase → Prop}
    (operation : Operation) (opened : ∀ edit, property edit (edit.opening tracker)) :
    (Thread.begin tracker operation).Stands tracker property := by
  by_cases other : ∀ edit, operation ≠ .edit edit
  · exact .reads other (operation.reads tracker other)
  · obtain ⟨edit, same⟩ := Classical.not_forall.mp other
    obtain rfl := Classical.not_not.mp same
    rw [Thread.begin, Operation.program, ← edit.program_opening]
    exact .edit edit _ (opened edit)

theorem System.Stand.idle (workspace : Workspace) :
    (System.idle workspace).Stand tracker property := by
  intro number thread found
  cases found

/-- **A property of phases is kept by a step** when the thread that acts, the threads
that wait and the threads that begin keep it. -/
theorem Step.stand (step : Step tracker allowed system event? next)
    (stand : system.Stand tracker property)
    (opened : ∀ number edit, system.threads.length ≤ number →
      later number edit (edit.opening tracker))
    (acted : ∀ number edit (phase : (edit.loop tracker).Phase) request,
      event? = some ⟨number, .edit edit, request, system.workspace⟩ →
      phase.request? = some request → property number edit phase →
      later number edit (phase.after system.workspace))
    (waited : ∀ number edit (phase : (edit.loop tracker).Phase),
      (∀ event, event? = some event → event.thread ≠ number) →
      property number edit phase → later number edit phase) :
    next.Stand tracker later := by
  -- a thread that neither acts nor begins
  have waits : ∀ {number : Nat} {thread : Thread},
      (∀ event, event? = some event → event.thread ≠ number) →
      thread.Stands tracker (property number) → thread.Stands tracker (later number) := by
    intro number thread other stands
    cases stands with
    | edit edit phase holds => exact .edit edit phase (waited number edit phase other holds)
    | reads notEdit reads => exact .reads notEdit reads
  intro number thread found
  cases step with
  | begin operation =>
      rcases Nat.lt_or_ge number system.threads.length with old | new
      · rw [System.begin, List.getElem?_append_left old] at found
        exact waits (by simp) (stand number thread found)
      · rw [System.begin, List.getElem?_append_right new] at found
        obtain rfl := List.mem_singleton.mp (List.mem_of_getElem? found)
        exact Thread.Stands.begin operation fun edit => opened number edit new
  | disturb _ => exact waits (by simp) (stand number thread found)
  | @call actor acting request program workspace here calls steps =>
      -- the threads are those of before, one of which has gone on, and then those that
      -- it hands out
      rcases Nat.lt_or_ge number system.threads.length with old | new
      · rw [System.resume, List.getElem?_append_left (by simpa using old)] at found
        by_cases same : actor = number
        · subst same
          rw [List.getElem?_set_self old] at found
          cases found
          cases stand actor acting here with
          | edit edit phase holds =>
              rw [WriteLoop.step?_program] at steps
              rw [WriteLoop.request?_program] at calls
              simp only [calls, Option.map_some, Option.some.injEq, Prod.mk.injEq] at steps
              obtain ⟨rfl, -⟩ := steps
              exact .edit edit _ (acted actor edit phase request rfl calls holds)
          | reads other reads => exact .reads other (reads.step steps).1
        · rw [List.getElem?_set_ne same] at found
          refine waits (fun event occurs => ?_) (stand number thread found)
          cases occurs
          exact same
      · rw [System.resume, List.getElem?_append_right (by simpa using new)] at found
        obtain ⟨evaluation, -, rfl⟩ := List.mem_map.mp (List.mem_of_getElem? found)
        exact .begin _ fun edit => opened number edit new

/-- Every thread of a system that is reached from an idle one is in a phase of its edit,
or makes no writes. -/
theorem Run.stand {workspace : Workspace}
    (run : Run tracker allowed (.idle workspace) events finish) :
    finish.Stand tracker fun _ _ _ => True := by
  induction run with
  | refl => exact .idle workspace
  | step _ last ih =>
      exact last.stand ih (fun _ _ _ => trivial) (fun _ _ _ _ _ _ _ => trivial)
        fun _ _ _ _ _ => trivial

/-! ## The calls of steps -/

/-- A step without a call changes no record where a disturbance does not. -/
theorem Step.record?_of_none (step : Step tracker allowed system none next)
    (disturbs : ∀ old new, allowed old new → old.Disturbed new) :
    next.record? = system.record? := by
  cases step with
  | begin operation => rfl
  | disturb disturbed => exact (disturbs _ _ disturbed).record?

/-- The event of a step finds the workspace before the step and leaves that after it. -/
theorem Step.event {event : Event} (step : Step tracker allowed system (some event) next) :
    event.before = system.workspace ∧ event.after = next.workspace := by
  cases step with
  | @call number thread request program workspace here calls steps =>
      refine ⟨rfl, ?_⟩
      cases remaining : thread.program with
      | done result => simp [remaining, Program.request?] at calls
      | call request next =>
          simp only [remaining, Program.request?, Program.step?, Option.some.injEq,
            Prod.mk.injEq] at calls steps
          obtain ⟨rfl, -, rfl⟩ := And.intro calls steps
          rfl

/-- The thread of an edit makes the next call of its phase. -/
structure Acts (tracker : Tracker) (property : PhaseProperty tracker) (system : System)
    (event : Event) (next : System) (edit : Edit) (phase : (edit.loop tracker).Phase) : Prop where
  operation : event.operation = .edit edit
  calls : phase.request? = some event.request
  holds : property event.thread edit phase
  resumed : next.threads[event.thread]? =
    some ⟨.edit edit, (phase.after system.workspace).program⟩

/-- A call of the thread of an edit is the next call of its phase. -/
theorem Step.acts_of_edit {event : Event} {edit : Edit}
    (step : Step tracker allowed system (some event) next)
    (stand : system.Stand tracker property) (operation : event.operation = .edit edit) :
    ∃ phase, Acts tracker property system event next edit phase := by
  cases step with
  | @call number thread request program workspace here calls steps =>
      rcases thread with ⟨_, rest⟩
      obtain rfl : _ = Operation.edit edit := operation
      obtain ⟨phase, rfl, holds⟩ := (stand number _ here).phase
      rw [WriteLoop.step?_program] at steps
      rw [WriteLoop.request?_program] at calls
      simp only [calls, Option.map_some, Option.some.injEq, Prod.mk.injEq] at steps
      obtain ⟨rfl, rfl⟩ := steps
      have inside : number < system.threads.length := (List.getElem?_eq_some_iff.mp here).1
      refine ⟨phase, rfl, calls, holds, ?_⟩
      rw [System.resume, List.getElem?_append_left (by simpa using inside),
        List.getElem?_set_self inside]

/-- **A call is made by the thread of an edit in its phase, or writes nothing.** -/
theorem Step.acts {event : Event} (step : Step tracker allowed system (some event) next)
    (stand : system.Stand tracker property) :
    (∃ edit phase, Acts tracker property system event next edit phase) ∨
      ∀ id expected patch, event.request ≠ .update id expected patch := by
  by_cases edits : ∃ edit, event.operation = .edit edit
  · obtain ⟨edit, operation⟩ := edits
    exact .inl ⟨edit, step.acts_of_edit stand operation⟩
  · cases step with
    | @call number thread request program workspace here calls steps =>
        cases stand number thread here with
        | edit edit phase holds => exact absurd ⟨edit, rfl⟩ edits
        | reads other reads => exact .inr (reads.request calls)

theorem Step.thread_lt {event : Event} (step : Step tracker allowed system (some event) next) :
    event.thread < system.threads.length := by
  cases step with
  | call acting calls steps => exact (List.getElem?_eq_some_iff.mp acting).1

theorem Step.running {event : Event} (step : Step tracker allowed system (some event) next)
    {operation : Operation} {result : Except Failure Report} :
    system.threads[event.thread]? ≠ some ⟨operation, .done result⟩ := by
  intro ended
  cases step with
  | call acting calls steps =>
      rw [acting] at ended
      cases ended
      cases calls

theorem Step.workspace_of_reads {event : Event}
    (step : Step tracker allowed system (some event) next)
    (reads : ∀ id expected patch, event.request ≠ .update id expected patch) :
    next.workspace = system.workspace := by
  obtain ⟨before, after⟩ := step.event
  rw [← after, Event.after, Workspace.perform_of_not_update reads, before]

theorem Step.ended_stays (step : Step tracker allowed system event? next) {number : Nat}
    {operation : Operation} {result : Except Failure Report}
    (ended : system.threads[number]? = some ⟨operation, .done result⟩) :
    next.threads[number]? = some ⟨operation, .done result⟩ := by
  have inside : number < system.threads.length := (List.getElem?_eq_some_iff.mp ended).1
  cases step with
  | begin operation => rw [System.begin, List.getElem?_append_left inside, ended]
  | disturb _ => exact ended
  | @call actor thread request program workspace here calls steps =>
      have other : actor ≠ number := by
        rintro rfl
        rw [here] at ended
        cases ended
        cases calls
      rw [System.resume, List.getElem?_append_left (by simpa using inside),
        List.getElem?_set_ne other, ended]

theorem Step.alone (step : Step tracker allowed system event? next)
    (disturbs : ∀ old new, allowed old new → old.Disturbed new)
    (alone : system.workspace.rivals = []) : next.workspace.rivals = [] := by
  cases event? with
  | none =>
      cases step with
      | begin operation => exact alone
      | disturb disturbed => exact (disturbs _ _ disturbed).alone alone
  | some event =>
      obtain ⟨found, left⟩ := step.event
      rw [← left, Event.after]
      exact Workspace.rivals_perform (found ▸ alone) event.request

theorem Run.alone (run : Run tracker allowed start events finish)
    (disturbs : ∀ old new, allowed old new → old.Disturbed new)
    (alone : start.workspace.rivals = []) : finish.workspace.rivals = [] := by
  induction run with
  | refl => exact alone
  | step _ last ih => exact last.alone disturbs ih

/-- A workspace stays available with a step when disturbances keep it so. -/
theorem Step.available (step : Step tracker allowed system event? next)
    (disturbs : ∀ old new : Workspace, allowed old new → old.Available → new.Available)
    (available : system.workspace.Available) : next.workspace.Available := by
  cases event? with
  | none =>
      cases step with
      | begin operation => exact available
      | disturb disturbed => exact disturbs _ _ disturbed available
  | some event =>
      obtain ⟨found, left⟩ := step.event
      rw [← left]
      exact (found ▸ available).perform event.request

/-- No version goes back in a step whose call keeps versions. -/
theorem Step.version_le (step : Step tracker allowed system event? next)
    (disturbs : ∀ old new, allowed old new → old.Disturbed new)
    (unwrapped : ∀ event, event? = some event → event.KeepsVersions) {id : Uuid}
    {old new : BreakingPoint} (before : system.record? id = some old)
    (after : next.record? id = some new) : old.version.toNat ≤ new.version.toNat := by
  cases event? with
  | none =>
      rw [step.record?_of_none disturbs, before] at after
      cases after
      exact Nat.le_refl _
  | some event =>
      obtain ⟨found, left⟩ := step.event
      refine unwrapped event rfl id old new ?_ ?_
      · rw [found]; exact before
      · rw [left]; exact after

end GolfProgress
