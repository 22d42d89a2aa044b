import GolfProgress.Proofs.RecordUpdate
import GolfProgress.Proofs.WriteLoop
import GolfProgress.Tracker.Snapshot

/-!
# Operations that interleave

Any number of operations run at once, each in a thread of its own, and their calls
interleave.  A step of the system begins an operation, lets something befall the
workspace from outside, or lets one thread make its next call; `Run` chains steps
and collects the calls as events.

Recording a benchmark hands out one evaluation for each record that the benchmark
is about, and these run at once as well: they begin threads of their own.
`recordBenchmark_eq_handOut` says that the operation is the handing out followed by
the evaluations.

`play` carries out a schedule of moves, and `run_iff_play` says that it reaches
exactly the runs that nothing disturbs.
-/

set_option autoImplicit false

namespace GolfProgress

/-! ## Operations -/

deriving instance DecidableEq for Benchmark

/-- Results are compared by the failures and values that they hold. -/
instance exceptDecidableEq {Fault Value : Type} [DecidableEq Fault] [DecidableEq Value] :
    DecidableEq (Except Fault Value)
  | .error first, .error second =>
    decidable_of_iff (first = second) ⟨congrArg Except.error, Except.error.inj⟩
  | .ok first, .ok second => decidable_of_iff (first = second) ⟨congrArg Except.ok, Except.ok.inj⟩
  | .error _, .ok _ | .ok _, .error _ => isFalse nofun

/-- An operation that may write a record. -/
inductive Edit where
  | recordEffort (id : Uuid)
  | evaluateBenchmark (id : Uuid) (benchmark : Benchmark)
  | applyTransition (id : Uuid) (transition : Transition) (today : Date)
deriving DecidableEq

/-- The record that an edit is about. -/
def Edit.id : Edit → Uuid
  | .recordEffort id | .evaluateBenchmark id _ | .applyTransition id _ _ => id

/-- An operation of the tracker. -/
inductive Operation where
  | edit (edit : Edit)
  | recordBenchmark (player : Uuid) (test metric : String) (value : Binary64) (date : Date)
  | viewStatus (id : Uuid)
  | dueTransition (id : Uuid)
  | evaluate (id : Uuid) (asOf : Date)
deriving DecidableEq

/-- What an operation reports. -/
inductive Report where
  | effort (update : EffortUpdate)
  | benchmark (outcome : BenchmarkOutcome)
  | transition (record : Option BreakingPoint)
  | handedOut (evaluations : List (Uuid × Benchmark))
  | status (view : StatusView)
  | due (transition : Option Transition)
  | snapshot (snapshot : Snapshot)
deriving DecidableEq

/-- The program of an edit. -/
def Edit.program (tracker : Tracker) : Edit → Program (Except Failure Report)
  | .recordEffort id => (tracker.recordEffort id).map (Except.map .effort)
  | .evaluateBenchmark id benchmark =>
    (tracker.evaluateBenchmark id benchmark).map (Except.map .benchmark)
  | .applyTransition id transition today =>
    (tracker.applyTransition id transition today).map (Except.map .transition)

/-- The part of recording a benchmark that comes before the evaluations: it lists the
records and says which evaluations there are to be. -/
def Tracker.handOut (player : Uuid) (test metric : String) (value : Binary64) (date : Date) :
    Program (Except Failure (List (Uuid × Benchmark))) :=
  .call (.list player) fun
    | .ok points =>
      .done (.ok ((points.filter (isBenchmarked test)).map fun point =>
        (point.id, ⟨metric, value, date, point.rule⟩)))
    | .error failure => .done (.error (.store failure))

/-- Recording a benchmark is handing out the evaluations and then making them. -/
theorem Tracker.recordBenchmark_eq_handOut (tracker : Tracker) (player : Uuid)
    (test metric : String) (value : Binary64) (date : Date) :
    tracker.recordBenchmark player test metric value date =
      (handOut player test metric value date).andThen fun
        | .ok evaluations =>
          (Program.inTurn (evaluations.map fun evaluation =>
            (tracker.evaluateBenchmark evaluation.1 evaluation.2).map fun outcome =>
              (evaluation.1, outcome))).map .ok
        | .error failure => .done (.error failure) := by
  unfold recordBenchmark handOut
  refine congrArg (Program.call (.list player)) (funext fun reply => ?_)
  cases reply with
  | ok points => simp only [Program.andThen, List.map_map]; rfl
  | error failure => rfl

/-- The program of an operation. -/
def Operation.program (tracker : Tracker) : Operation → Program (Except Failure Report)
  | .edit change => change.program tracker
  | .recordBenchmark player test metric value date =>
    (Tracker.handOut player test metric value date).map (Except.map .handedOut)
  | .viewStatus id => (Tracker.viewStatus id).map (Except.map .status)
  | .dueTransition id => (tracker.dueTransition id).map (Except.map .due)
  | .evaluate id asOf => (tracker.evaluate id asOf).map (Except.map .snapshot)

/-! ## Systems and events -/

/-- An operation under way, with the program that is left of it. -/
structure Thread where
  operation : Operation
  program : Program (Except Failure Report)

/-- The thread of an operation that begins. -/
def Thread.begin (tracker : Tracker) (operation : Operation) : Thread :=
  ⟨operation, operation.program tracker⟩

/-- The evaluations that a program hands out when it ends. -/
def Program.handedOut : Program (Except Failure Report) → List (Uuid × Benchmark)
  | .done (.ok (.handedOut evaluations)) => evaluations
  | _ => []

/-- Operations under way on one workspace, numbered in the order of their beginning. -/
structure System where
  workspace : Workspace
  threads : List Thread := []

/-- A call that a thread makes, and the workspace as it finds it. -/
structure Event where
  thread : Nat
  operation : Operation
  request : Call
  before : Workspace

namespace Event

/-- The workspace after the call. -/
def after (event : Event) : Workspace := (event.before.perform event.request).2

/-- The record that the call writes, if it is a write that lands. -/
def written? (event : Event) : Option BreakingPoint :=
  match event with
  | ⟨_, _, .update id expected patch, before⟩ =>
    (before.perform (.update id expected patch)).1.toOption
  | _ => none

theorem written?_of_ok {number : Nat} {operation : Operation} {id : Uuid} {expected : UInt64}
    {patch : Patch} {before : Workspace} {record : BreakingPoint}
    (replied : (before.perform (.update id expected patch)).1 = .ok record) :
    written? ⟨number, operation, .update id expected patch, before⟩ = some record :=
  congrArg Except.toOption replied

theorem ok_of_written? {number : Nat} {operation : Operation} {id : Uuid} {expected : UInt64}
    {patch : Patch} {before : Workspace} {record : BreakingPoint}
    (written : written? ⟨number, operation, .update id expected patch, before⟩ = some record) :
    (before.perform (.update id expected patch)).1 = .ok record := by
  change Except.toOption (before.perform (.update id expected patch)).1 = some record at written
  cases replied : (before.perform (.update id expected patch)).1 with
  | ok reply =>
      rw [replied] at written
      cases written
      rfl
  | error failure =>
      rw [replied] at written
      cases written

theorem written?_of_error {number : Nat} {operation : Operation} {id : Uuid} {expected : UInt64}
    {patch : Patch} {before : Workspace} {failure : StoreFailure}
    (replied : (before.perform (.update id expected patch)).1 = .error failure) :
    written? ⟨number, operation, .update id expected patch, before⟩ = none :=
  congrArg Except.toOption replied

theorem written?_of_reads {event : Event}
    (reads : ∀ id expected patch, event.request ≠ .update id expected patch) :
    event.written? = none := by
  rcases event with ⟨number, operation, request, before⟩
  cases request with
  | update id expected patch => exact absurd rfl (reads id expected patch)
  | get | list | count | latest => rfl

/-- No version is counted back to zero by the call. -/
def KeepsVersions (event : Event) : Prop :=
  ∀ id old new, event.before.record? id = some old → event.after.record? id = some new →
    old.version.toNat ≤ new.version.toNat

instance (event : Event) : Decidable event.KeepsVersions :=
  decidable_of_iff
    (∀ old ∈ event.before.store.records, event.before.record? old.id = some old →
      ∀ new ∈ event.after.record? old.id, old.version.toNat ≤ new.version.toNat) <| by
    constructor
    · intro kept id old new before after
      obtain rfl := BreakingPointStore.id_of_find? before
      exact kept old (List.mem_of_find?_eq_some before) before new after
    · exact fun kept old _ before new after => kept old.id old new before after

end Event

namespace System

/-- The system in which nothing has begun. -/
def idle (workspace : Workspace) : System := { workspace }

/-- The record of an identifier, whatever the state of the store. -/
def record? (system : System) (id : Uuid) : Option BreakingPoint := system.workspace.record? id

/-- The operation of a thread that has ended, with its result. -/
def ended? (system : System) (number : Nat) : Option (Operation × Except Failure Report) :=
  match system.threads[number]? with
  | some ⟨operation, .done result⟩ => some (operation, result)
  | _ => none

theorem thread_of_ended? {system : System} {number : Nat} {operation : Operation}
    {result : Except Failure Report} (ended : system.ended? number = some (operation, result)) :
    system.threads[number]? = some ⟨operation, .done result⟩ := by
  unfold ended? at ended
  split at ended
  · next found =>
      cases ended
      exact found
  · cases ended

/-- The system in which an operation begins. -/
def begin (tracker : Tracker) (system : System) (operation : Operation) : System :=
  { system with threads := system.threads ++ [.begin tracker operation] }

/-- The system in which a thread has gone on with a program and a workspace; the
evaluations that the program hands out begin. -/
def resume (tracker : Tracker) (system : System) (number : Nat) (thread : Thread)
    (program : Program (Except Failure Report)) (workspace : Workspace) : System where
  workspace
  threads := system.threads.set number { thread with program } ++
    program.handedOut.map fun evaluation =>
      .begin tracker (.edit (.evaluateBenchmark evaluation.1 evaluation.2))

end System

/-- What may befall a workspace between calls: outages begin and end, conflicts become
pending, sessions and results are logged, but the records stay and no rivals appear. -/
structure Workspace.Disturbed (old new : Workspace) : Prop where
  records : new.store.records = old.store.records
  alone : old.rivals = [] → new.rivals = []

theorem Workspace.Disturbed.record? {old new : Workspace} (disturbed : old.Disturbed new) :
    new.record? = old.record? := by
  funext id
  simp only [Workspace.record?, BreakingPointStore.find?, disturbed.records]

/-- What may befall a workspace whose store is left alone: sessions and results are
logged. -/
structure Workspace.Relogged (old new : Workspace) : Prop where
  store : new.store = old.store
  rivals : new.rivals = old.rivals
  updateFailure : new.updateFailure = old.updateFailure

theorem Workspace.Relogged.available {old new : Workspace} (relogged : old.Relogged new)
    (available : old.Available) : new.Available :=
  ⟨relogged.store ▸ available.reachable, relogged.store ▸ available.noConflicts,
    relogged.rivals ▸ available.noRivals, relogged.updateFailure ▸ available.writable⟩

theorem Workspace.Relogged.disturbed {old new : Workspace} (relogged : old.Relogged new) :
    old.Disturbed new :=
  ⟨congrArg BreakingPointStore.records relogged.store, fun alone => relogged.rivals ▸ alone⟩

/-- A step of a system: an operation begins, the workspace is disturbed in a way that
is allowed, or a thread makes its next call. -/
inductive Step (tracker : Tracker) (allowed : Workspace → Workspace → Prop) (system : System) :
    Option Event → System → Prop where
  | begin (operation : Operation) :
      Step tracker allowed system none (system.begin tracker operation)
  | disturb {workspace : Workspace} (disturbed : allowed system.workspace workspace) :
      Step tracker allowed system none { system with workspace }
  | call {number : Nat} {thread : Thread} {request : Call}
      {program : Program (Except Failure Report)} {workspace : Workspace}
      (acting : system.threads[number]? = some thread)
      (calls : thread.program.request? = some request)
      (steps : thread.program.step? system.workspace = some (program, workspace)) :
      Step tracker allowed system (some ⟨number, thread.operation, request, system.workspace⟩)
        (system.resume tracker number thread program workspace)

/-- Steps one after another, with the calls that were made. -/
inductive Run (tracker : Tracker) (allowed : Workspace → Workspace → Prop) (start : System) :
    List Event → System → Prop where
  | refl : Run tracker allowed start [] start
  | step {events : List Event} {middle finish : System} {event? : Option Event}
      (run : Run tracker allowed start events middle)
      (last : Step tracker allowed middle event? finish) :
      Run tracker allowed start (events ++ event?.toList) finish

/-- What holds of all calls of a run with a last step holds of those before and of the
call of that step. -/
theorem Event.forall_append {property : Event → Prop} {events : List Event}
    {event? : Option Event} (all : ∀ event ∈ events ++ event?.toList, property event) :
    (∀ event ∈ events, property event) ∧ ∀ event, event? = some event → property event := by
  refine ⟨fun event occurs => all event (List.mem_append_left _ occurs), ?_⟩
  rintro event rfl
  exact all event (by simp)

theorem Run.append {tracker : Tracker} {allowed : Workspace → Workspace → Prop}
    {start middle finish : System} {events later : List Event}
    (run : Run tracker allowed start events middle)
    (rest : Run tracker allowed middle later finish) :
    Run tracker allowed start (events ++ later) finish := by
  induction rest with
  | refl => simpa using run
  | step _ last ih =>
      rw [← List.append_assoc]
      exact .step ih last

/-! ## Schedules -/

/-- A choice of what happens next. -/
inductive Move where
  | begin (operation : Operation)
  | call (number : Nat)

namespace System

/-- The next call of the thread of a number, and the system after it. -/
def call? (tracker : Tracker) (system : System) (number : Nat) : Option (Event × System) := do
  let thread ← system.threads[number]?
  let request ← thread.program.request?
  let (program, workspace) ← thread.program.step? system.workspace
  return (⟨number, thread.operation, request, system.workspace⟩,
    system.resume tracker number thread program workspace)

/-- A system after a move, and the call that was made; threads that have ended stay. -/
def move (tracker : Tracker) (system : System) : Move → Option Event × System
  | .begin operation => (none, system.begin tracker operation)
  | .call number =>
    match system.call? tracker number with
    | some (event, next) => (some event, next)
    | none => (none, system)

/-- A system after a schedule of moves, and the calls that were made. -/
def play (tracker : Tracker) (system : System) : List Move → List Event × System
  | [] => ([], system)
  | move :: rest =>
    let (event?, next) := system.move tracker move
    let (later, finish) := next.play tracker rest
    (event?.toList ++ later, finish)

end System

section Schedules

variable {tracker : Tracker} {allowed : Workspace → Workspace → Prop} {system : System}

theorem Step.of_call? {number : Nat} {event : Event} {next : System}
    (called : system.call? tracker number = some (event, next)) :
    Step tracker allowed system (some event) next := by
  simp only [System.call?, bind, Option.bind_eq_some_iff, pure, Option.some.injEq,
    Prod.mk.injEq] at called
  obtain ⟨thread, acting, request, calls, ⟨program, workspace⟩, steps, rfl, rfl⟩ := called
  exact .call acting calls steps

/-- A schedule is a run. -/
theorem Run.of_play (tracker : Tracker) (allowed : Workspace → Workspace → Prop) (system : System)
    (moves : List Move) :
    Run tracker allowed system (system.play tracker moves).1 (system.play tracker moves).2 := by
  induction moves generalizing system with
  | nil => exact .refl
  | cons move rest ih =>
      refine Run.append ?_ (ih _)
      cases move with
      | begin operation => exact Run.step .refl (.begin operation)
      | call number =>
          cases called : system.call? tracker number with
          | none =>
              simp only [called]
              exact .refl
          | some result =>
              simp only [called]
              exact Run.step .refl (.of_call? called)

theorem System.play_append (system : System) (moves later : List Move) :
    system.play tracker (moves ++ later) =
      ((system.play tracker moves).1 ++ ((system.play tracker moves).2.play tracker later).1,
        ((system.play tracker moves).2.play tracker later).2) := by
  induction moves generalizing system with
  | nil => rfl
  | cons move rest ih => simp [System.play, ih]

/-- **The runs that nothing disturbs are the schedules.** -/
theorem run_iff_play {start finish : System} {events : List Event} :
    Run tracker (fun _ _ => False) start events finish ↔
      ∃ moves, start.play tracker moves = (events, finish) := by
  constructor
  · intro run
    induction run with
    | refl => exact ⟨[], rfl⟩
    | @step events middle finish event? _ last ih =>
        obtain ⟨moves, played⟩ := ih
        -- the last step is a move, since nothing disturbs
        have next : ∃ move, middle.move tracker move = (event?, finish) := by
          cases last with
          | begin operation => exact ⟨.begin operation, rfl⟩
          | disturb disturbed => exact disturbed.elim
          | @call number thread request program workspace acting calls steps =>
              refine ⟨.call number, ?_⟩
              simp [System.move, System.call?, acting, calls, steps]
        obtain ⟨move, moved⟩ := next
        refine ⟨moves ++ [move], ?_⟩
        simp [System.play_append, played, System.play, moved]
  · rintro ⟨moves, played⟩
    simpa [played] using Run.of_play tracker (fun _ _ => False) start moves

end Schedules

/-! ## A race -/

namespace Race

/-- The record that is raced for. -/
def carry : Uuid := ⟨1⟩

def today : Date := ⟨2026, 6, 1, by decide⟩

/-- A carry that is to grow from 200 to 220 metres. -/
def record : BreakingPoint :=
  { BreakingPoint.identified carry ⟨2⟩ .teeShots "CARRY" 30 "CARRY:>=:220" ⟨today, 0, 0⟩ with
    status := .inProgress, baseline := some (.ofNat 200), target := some (.ofNat 220) }

/-- A tracker that knows the metric, with a number of attempts. -/
def tracker (maxAttempts : UInt32) : Tracker where
  registry := .ofCatalog
    ⟨[⟨1, "CARRY", "Carry", "m", .higherBetter, .teeShots, false, ⟨[], []⟩⟩]⟩
  settings := { store := { maxAttempts } }

/-- A store with the record, and eight sessions for it. -/
def workspace : Workspace where
  store := { records := [record] }
  sessions := { entries := [⟨⟨2⟩, some carry, ⟨today, 0, 0⟩, 8⟩] }

theorem eq_record {id : Uuid} {point : BreakingPoint}
    (found : workspace.record? id = some point) : point = record := by
  have found : [record].find? (fun stored => stored.id = id) = some point := found
  exact List.mem_singleton.mp (List.mem_of_find?_eq_some found)

theorem available : workspace.Available := ⟨rfl, rfl, rfl, rfl⟩

/-- The evaluation of a carry of a number of metres. -/
def reading (metres : Nat) : Edit :=
  .evaluateBenchmark carry ⟨"CARRY", .ofNat metres, today, "CARRY:>=:220"⟩

/-- An effort and a benchmark are recorded at once, and the effort is outrun. -/
def outrun : List Move :=
  [.begin (.edit (.recordEffort carry)), .begin (.edit (reading 215)), .call 0, .call 1,
    .call 0, .call 1, .call 0]

/-- The effort is tried once more and lands. -/
def moves : List Move := outrun ++ [.call 0, .call 0, .call 0]

/-- The calls of a schedule, and the system after it. -/
def play (maxAttempts : UInt32) (moves : List Move) : List Event × System :=
  System.play (tracker maxAttempts) (.idle workspace) moves

theorem run (allowed : Workspace → Workspace → Prop) (maxAttempts : UInt32) (moves : List Move) :
    Run (tracker maxAttempts) allowed (.idle workspace) (play maxAttempts moves).1
      (play maxAttempts moves).2 :=
  .of_play _ _ _ moves

/-- Both writes land. -/
example : ((play 3 moves).2.record? carry).map
    (fun point => (point.effort, point.progress, point.version)) = some (40, 75, 2) := by
  decide +kernel

end Race

end GolfProgress
