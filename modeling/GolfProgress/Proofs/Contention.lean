import GolfProgress.Proofs.Commits

/-!
# Conflicts are paid for by other writes

An edit reports a conflict only after each of its attempts has met a newer version than
it read.  On a store that answers and that nobody else touches, each of these versions
is due to a write of another edit that landed between the read and the write of the
attempt, so an edit that gives up after some number of attempts has met as many writes
of others (`Contends`).  As every edit writes at most once, edits that are no more than
the attempts they have never give up (`conflict_paid`).
-/

set_option autoImplicit false

namespace GolfProgress

/-! ## Lifetimes -/

/-- The calls since the first call of a thread. -/
def since (number : Nat) (events : List Event) : List Event :=
  events.dropWhile fun event => event.thread != number

/-- The calls from the first to the last call of a thread. -/
def lifetime (number : Nat) (events : List Event) : List Event :=
  ((since number events).reverse.dropWhile fun event => event.thread != number).reverse

/-- Whether a call is a write of another thread to a record. -/
def Event.outwrites (number : Nat) (id : Uuid) (event : Event) : Bool :=
  event.thread != number && event.written?.any fun record => record.id = id

/-- How many of some calls are writes of other threads to a record. -/
def outwritten (number : Nat) (id : Uuid) (events : List Event) : Nat :=
  events.countP (Event.outwrites number id)

section Lifetimes

variable {number : Nat} {id : Uuid} {events later : List Event} {event : Event}

theorem since_append (begun : ∃ event ∈ events, event.thread = number) :
    since number (events ++ later) = since number events ++ later := by
  induction events with
  | nil =>
      obtain ⟨event, occurs, -⟩ := begun
      cases occurs
  | cons first rest ih =>
      by_cases same : first.thread = number
      · simp [since, same]
      · obtain ⟨event, occurs, acts⟩ := begun
        have occurs : event ∈ rest := by
          rcases List.mem_cons.mp occurs with rfl | occurs
          · exact absurd acts same
          · exact occurs
        simpa [since, same] using ih ⟨event, occurs, acts⟩

theorem since_append_of_same (same : event.thread = number) :
    since number (events ++ [event]) = since number events ++ [event] := by
  unfold since
  rw [List.dropWhile_append]
  split
  · next empty => simp [List.isEmpty_iff.mp empty, same]
  · rfl

theorem outwritten_le_append (number : Nat) (id : Uuid) (events later : List Event) :
    outwritten number id (since number events) ≤
      outwritten number id (since number (events ++ later)) := by
  unfold since
  rw [List.dropWhile_append]
  split
  · next empty => simp [List.isEmpty_iff.mp empty, outwritten]
  · simp [outwritten]

theorem lifetime_of_last (same : event.thread = number) :
    lifetime number (events ++ [event]) = since number (events ++ [event]) := by
  unfold lifetime
  rw [since_append_of_same same]
  simp [same]

/-- The calls of other threads do not prolong a lifetime. -/
theorem lifetime_append {event? : Option Event}
    (other : ∀ event, event? = some event → event.thread ≠ number) :
    lifetime number (events ++ event?.toList) = lifetime number events := by
  cases event? with
  | none => simp
  | some event =>
      have other := other event rfl
      unfold lifetime since
      rw [Option.toList_some, List.dropWhile_append]
      split
      · next empty => simp [List.isEmpty_iff.mp empty, other]
      · simp [other]

theorem lifetime_sublist (number : Nat) (events : List Event) :
    (lifetime number events).Sublist events := by
  refine List.Sublist.trans ?_ (List.dropWhile_sublist fun event => event.thread != number)
  simpa [lifetime, since] using
    (List.dropWhile_sublist (l := (since number events).reverse)
      fun event => event.thread != number).reverse

end Lifetimes

/-! ## Attempts of a write loop -/

namespace WriteLoop

variable {Result : Type} {loop : WriteLoop Result}

/-- How many attempts there are after the one under way; none when the loop has ended. -/
def Phase.left? : loop.Phase → Option Nat
  | .reading left | .counting left _ _ _ | .writing left _ _ _ _ => some left
  | .ended _ => none

/-- A loop that fails by itself, without its calls, reports no conflict. -/
def Refuses (loop : WriteLoop Result) : Prop :=
  ∀ point text attempts, loop.plan point ≠ .refuse (.conflict text attempts)

theorem left?_resumed {left more : Nat} (goesOn : (loop.resumed left).left? = some more) :
    left = more + 1 := by
  cases left with
  | zero => cases goesOn
  | succ left =>
      cases goesOn
      rfl

theorem resumed_conflict {left : Nat} {text : String} {attempts : UInt32}
    (gaveUp : loop.resumed left = .ended (.error (.conflict text attempts))) :
    left = 0 ∧ attempts = loop.attempts := by
  cases left with
  | zero =>
      simp only [resumed, Phase.ended.injEq, Except.error.injEq, Failure.conflict.injEq] at gaveUp
      exact ⟨rfl, gaveUp.2.symm⟩
  | succ left => cases gaveUp

theorem left?_decided {left more : Nat} {point : BreakingPoint} {decision : Decision loop.Outcome}
    {yields : (loop.plan point).Yields decision}
    (goesOn : (decided left point decision yields).left? = some more) : more = left := by
  unfold decided at goesOn
  split at goesOn <;> cases goesOn
  rfl

theorem left?_planned {left more : Nat} {point : BreakingPoint}
    (goesOn : (loop.planned left point).left? = some more) : more = left := by
  unfold planned at goesOn
  split at goesOn
  · cases goesOn
  · exact left?_decided goesOn
  · cases goesOn
    rfl

theorem decided_ne_error {left : Nat} {point : BreakingPoint} {decision : Decision loop.Outcome}
    {yields : (loop.plan point).Yields decision} {failure : Failure} :
    decided left point decision yields ≠ .ended (.error failure) := by
  intro same
  unfold decided at same
  split at same <;> cases same

theorem planned_ne_conflict (refuses : loop.Refuses) {left : Nat} {point : BreakingPoint}
    {text : String} {attempts : UInt32} :
    loop.planned left point ≠ .ended (.error (.conflict text attempts)) := by
  unfold planned
  split
  · next failure plan =>
      rintro ⟨⟩
      exact refuses point text attempts plan
  · exact decided_ne_error
  · simp

/-- A read or a count uses up no attempt, and ends in no conflict. -/
theorem after_of_reads (refuses : loop.Refuses) (workspace : Workspace) {phase : loop.Phase}
    {request : Call} (calls : phase.request? = some request)
    (reads : ∀ id expected patch, request ≠ .update id expected patch) :
    (∀ left, (phase.after workspace).left? = some left → phase.left? = some left) ∧
      ∀ text attempts, phase.after workspace ≠ .ended (.error (.conflict text attempts)) := by
  cases phase with
  | reading left =>
      simp only [Phase.after]
      split
      · exact ⟨fun more goesOn => congrArg some (left?_planned goesOn).symm,
          fun text attempts => planned_ne_conflict refuses⟩
      · exact ⟨fun _ goesOn => (by cases goesOn), by simp [Tracker.missing]⟩
      · exact ⟨fun _ goesOn => (by cases goesOn), by simp⟩
  | counting left point decide planned =>
      simp only [Phase.after]
      split
      · exact ⟨fun more goesOn => congrArg some (left?_decided goesOn).symm,
          fun text attempts => decided_ne_error⟩
      · exact ⟨fun _ goesOn => (by cases goesOn), by simp⟩
  | writing left point decision yields changes =>
      cases calls
      exact absurd rfl (reads _ _ _)
  | ended result => cases calls

/-- A write that is outrun uses up an attempt; no other write goes on or ends in a
conflict. -/
theorem after_of_write (loop : WriteLoop Result) (left : Nat) (decision : Decision loop.Outcome)
    (reply : Except StoreFailure BreakingPoint) :
    (∃ id expected found, reply = .error (.versionConflict id expected found) ∧
      answered left decision reply = loop.resumed left) ∨
    ((answered left decision reply).left? = none ∧ ∀ text attempts,
      answered left decision reply ≠ .ended (.error (.conflict text attempts))) := by
  cases reply with
  | ok record => exact .inr ⟨rfl, by simp [answered]⟩
  | error failure =>
      cases failure with
      | versionConflict id expected found => exact .inl ⟨id, expected, found, rfl, rfl⟩
      | _ => exact .inr ⟨rfl, by simp [answered, Tracker.missing]⟩

end WriteLoop

/-- A plan that refuses a record misses something. -/
theorem Edit.notFound_of_refuse {tracker : Tracker} {edit : Edit} {point : BreakingPoint}
    {failure : Failure} (refused : (edit.loop tracker).plan point = .refuse failure) :
    ∃ subject id, failure = .notFound subject id := by
  cases edit with
  | recordEffort id => cases refused
  | evaluateBenchmark id benchmark =>
      change tracker.benchmarkPlan id benchmark point = _ at refused
      unfold Tracker.benchmarkPlan at refused
      split at refused
      · cases refused
      · next failure unknown =>
          unfold Tracker.direction at unknown
          split at unknown
          · cases unknown
          · cases unknown
            cases refused
            exact ⟨_, _, rfl⟩
  | applyTransition id transition today =>
      change tracker.transitionPlan transition today point = _ at refused
      unfold Tracker.transitionPlan at refused
      split at refused <;> cases refused

/-- The plans of edits report no conflict by themselves. -/
theorem Edit.refuses (tracker : Tracker) (edit : Edit) : (edit.loop tracker).Refuses := by
  intro point text attempts refused
  obtain ⟨subject, id, missed⟩ := Edit.notFound_of_refuse refused
  cases missed

/-! ## Attempts and writes of others -/

/-- The attempts that an edit has used up are paid for by writes of others since its
first call, and so is the one under way when the record that it has read is outdated. -/
structure Contends (tracker : Tracker) (events : List Event) (system : System) (number : Nat)
    (edit : Edit) (phase : (edit.loop tracker).Phase) : Prop where
  used : ∀ left, phase.left? = some left → tracker.maxAttempts.toNat ≤
    outwritten number edit.id (since number events) + left + 1
  begun : ∀ point, phase.point? = some point → ∃ event ∈ events, event.thread = number
  outdated : ∀ left point stored, phase.left? = some left → phase.point? = some point →
    system.record? edit.id = some stored → stored.version ≠ point.version →
    tracker.maxAttempts.toNat ≤ outwritten number edit.id (since number events) + left
  conflict : ∀ text attempts, phase = .ended (.error (.conflict text attempts)) →
    attempts = tracker.maxAttempts ∧
      tracker.maxAttempts.toNat ≤ outwritten number edit.id (lifetime number events)

section Steps

variable {tracker : Tracker} {system next finish : System} {events : List Event}
  {event? : Option Event} {number : Nat} {edit : Edit} {phase : (edit.loop tracker).Phase}

/-- An edit that begins has all its attempts, or there are none. -/
theorem Edit.opening_cases (tracker : Tracker) (edit : Edit) :
    (∀ left, (edit.opening tracker).left? = some left →
      tracker.maxAttempts.toNat = left + 1) ∧
    ∀ text attempts, edit.opening tracker = .ended (.error (.conflict text attempts)) →
      attempts = tracker.maxAttempts ∧ tracker.maxAttempts.toNat = 0 := by
  unfold opening
  split
  · next failure refused =>
      refine ⟨fun _ goesOn => (by cases goesOn), ?_⟩
      rintro text attempts ⟨⟩
      cases edit with
      | evaluateBenchmark id benchmark => simp [fault?] at refused
      | recordEffort | applyTransition => cases refused
  · refine ⟨fun left goesOn => WriteLoop.left?_resumed goesOn, fun text attempts gaveUp => ?_⟩
    obtain ⟨none, all⟩ := WriteLoop.resumed_conflict gaveUp
    exact ⟨all.trans edit.attempts_loop, none⟩

theorem Contends.opening : Contends tracker events system number edit (edit.opening tracker) where
  used := by
    intro left goesOn
    have all := (edit.opening_cases tracker).1 left goesOn
    omega
  begun := by
    intro point carries
    rw [edit.point?_opening] at carries
    cases carries
  outdated := by
    intro left point stored _ carries
    rw [edit.point?_opening] at carries
    cases carries
  conflict := by
    intro text attempts ended
    obtain ⟨all, none⟩ := (edit.opening_cases tracker).2 text attempts ended
    exact ⟨all, by omega⟩

/-- A step writes a record or leaves it as it is. -/
theorem Step.record?_or_written (step : Step tracker Workspace.Relogged system event? next)
    (available : system.workspace.Available) (id : Uuid) :
    next.record? id = system.record? id ∨
      ∃ event record, event? = some event ∧ event.written? = some record ∧ record.id = id := by
  cases event? with
  | none =>
      exact .inl (congrFun (step.record?_of_none fun _ _ relogged => relogged.disturbed) id)
  | some event =>
      obtain ⟨before, after⟩ := step.event
      cases written : event.written? with
      | none =>
          left
          rw [System.record?, ← after, Event.after_of_unwritten (before ▸ available) written,
            before]
          rfl
      | some record =>
          by_cases same : record.id = id
          · exact .inr ⟨event, record, rfl, written, same⟩
          · left
            rcases event with ⟨number, operation, request, workspace⟩
            obtain rfl : workspace = system.workspace := before
            cases request with
            | get | list | count | latest => cases written
            | update other expected patch =>
                have replied := Event.ok_of_written? written
                rw [System.record?, ← after, Event.after,
                  available.record?_of_ok replied, if_neg (Ne.symm same)]
                rfl

/-- The calls of other threads leave the balance of an edit: what outdates its record is
a write of theirs. -/
theorem Contends.waits (contends : Contends tracker events system number edit phase)
    (step : Step tracker Workspace.Relogged system event? next)
    (available : system.workspace.Available)
    (other : ∀ event, event? = some event → event.thread ≠ number) :
    Contends tracker (events ++ event?.toList) next number edit phase where
  used := by
    intro left goesOn
    have more := outwritten_le_append number edit.id events event?.toList
    have used := contends.used left goesOn
    omega
  begun := by
    intro point carries
    obtain ⟨event, occurs, same⟩ := contends.begun point carries
    exact ⟨event, List.mem_append_left _ occurs, same⟩
  outdated := by
    intro left point stored goesOn carries found outdated
    rcases step.record?_or_written available edit.id with
      same | ⟨event, record, rfl, written, named⟩
    · have more := outwritten_le_append number edit.id events event?.toList
      have outdated := contends.outdated left point stored goesOn carries (same ▸ found) outdated
      omega
    · -- the record was read before this write, so the write falls in the lifetime
      have used := contends.used left goesOn
      rw [since_append (contends.begun point carries)]
      have paid : outwritten number edit.id (since number events ++ (some event).toList) =
          outwritten number edit.id (since number events) + 1 := by
        simp [outwritten, Event.outwrites, other event rfl, written, named]
      omega
  conflict := by
    intro text attempts ended
    rw [lifetime_append other]
    exact contends.conflict text attempts ended

/-- A read or a count of an edit leaves its balance. -/
theorem Contends.reads {event : Event}
    (contends : Contends tracker events system event.thread edit phase)
    (step : Step tracker Workspace.Relogged system (some event) next)
    (calls : phase.request? = some event.request)
    (reads : ∀ id expected patch, event.request ≠ .update id expected patch) :
    Contends tracker (events ++ [event]) next event.thread edit
      (phase.after system.workspace) := by
  obtain ⟨kept, noConflict⟩ :=
    WriteLoop.after_of_reads (edit.refuses tracker) system.workspace calls reads
  have more := outwritten_le_append event.thread edit.id events [event]
  refine ⟨fun left goesOn => ?_, fun _ _ => ⟨event, by simp, rfl⟩, ?_,
    fun text attempts ended => absurd ended (noConflict text attempts)⟩
  · have used := contends.used left (kept left goesOn)
    omega
  · intro left point stored goesOn carries found outdated
    rw [System.record?, step.workspace_of_reads reads] at found
    rcases WriteLoop.point?_after carries with before | ⟨-, read⟩
    · have outdated := contends.outdated left point stored (kept left goesOn) before found outdated
      omega
    · rw [edit.id_loop] at read
      have same := (Workspace.record?_of_get read).symm.trans found
      cases same
      exact absurd rfl outdated

/-- A write of an edit that is outrun uses up an attempt that was paid for. -/
theorem Contends.writes {event : Event} {left : Nat} {point : BreakingPoint}
    {decision : Decision (edit.loop tracker).Outcome}
    {yields : ((edit.loop tracker).plan point).Yields decision}
    {changes : decision.patch.isEmpty = false}
    (contends : Contends tracker events system event.thread edit
      (.writing left point decision yields changes))
    (available : system.workspace.Available) :
    Contends tracker (events ++ [event]) next event.thread edit
      ((WriteLoop.Phase.writing left point decision yields changes).after system.workspace) := by
  have more := outwritten_le_append event.thread edit.id events [event]
  change Contends _ _ _ _ _ (WriteLoop.answered left decision
    (system.workspace.perform (.update (edit.loop tracker).id point.version decision.patch)).1)
  rcases WriteLoop.after_of_write (edit.loop tracker) left decision
    (system.workspace.perform (.update (edit.loop tracker).id point.version decision.patch)).1 with
    ⟨id, expected, found, outrun, resumed⟩ | ⟨stopped, noConflict⟩
  · have paid : tracker.maxAttempts.toNat ≤
        outwritten event.thread edit.id (since event.thread events) + left := by
      cases stored : system.workspace.record? (edit.loop tracker).id with
      | none =>
          rw [available.perform_update_unknown stored] at outrun
          cases outrun
      | some record =>
          rw [available.perform_update stored] at outrun
          split at outrun
          · next outdated =>
              rw [edit.id_loop] at stored
              exact contends.outdated left point record rfl rfl stored outdated
          · split at outrun <;> cases outrun
    rw [resumed]
    refine ⟨fun fewer goesOn => ?_, fun _ _ => ⟨event, by simp, rfl⟩,
      fun fewer point stored _ carries => ?_, fun text attempts gaveUp => ?_⟩
    · have fewer := WriteLoop.left?_resumed goesOn
      omega
    · rw [WriteLoop.point?_resumed] at carries
      cases carries
    · obtain ⟨none, all⟩ := WriteLoop.resumed_conflict gaveUp
      refine ⟨all.trans edit.attempts_loop, ?_⟩
      rw [lifetime_of_last rfl]
      omega
  · refine ⟨fun left goesOn => ?_, fun _ _ => ⟨event, by simp, rfl⟩,
      fun left point stored goesOn => ?_,
      fun text attempts ended => absurd ended (noConflict text attempts)⟩
    · rw [stopped] at goesOn
      cases goesOn
    · rw [stopped] at goesOn
      cases goesOn

/-- What holds of all edits after some calls. -/
structure System.Contended (tracker : Tracker) (events : List Event) (system : System) : Prop where
  available : system.workspace.Available
  stand : system.Stand tracker fun number edit phase =>
    Contends tracker events system number edit phase

/-- **A step leaves the attempts of all edits paid for.** -/
theorem System.Contended.step (contended : system.Contended tracker events)
    (step : Step tracker Workspace.Relogged system event? next) :
    next.Contended tracker (events ++ event?.toList) where
  available := step.available (fun _ _ relogged => relogged.available) contended.available
  stand := by
    refine step.stand contended.stand ?_ ?_ ?_
    · exact fun _ _ _ => .opening
    · rintro number edit phase request rfl calls contends
      rcases WriteLoop.writing_or_reads calls with
        ⟨left, point, decision, yields, changes, rfl, -⟩ | reads
      · exact contends.writes contended.available
      · exact contends.reads step calls reads
    · exact fun number edit phase other contends =>
        contends.waits step contended.available other

/-- In every run the attempts of all edits are paid for. -/
theorem Run.contended {workspace : Workspace} (available : workspace.Available)
    (run : Run tracker Workspace.Relogged (.idle workspace) events finish) :
    finish.Contended tracker events := by
  induction run with
  | refl => exact ⟨available, .idle workspace⟩
  | step _ last ih => exact ih.step last

end Steps

/-! ## How many conflicts there can be -/

section Writers

variable {tracker : Tracker} {allowed : Workspace → Workspace → Prop} {workspace : Workspace}
  {finish : System} {events : List Event}

/-- Every write is the commit of an edit. -/
theorem Run.commit_of_written (run : Run tracker allowed (.idle workspace) events finish) :
    ∀ event ∈ events, event.written?.isSome = true → ∃ edit,
      event.commit? = some (event.thread, edit) := by
  induction run with
  | refl => simp
  | @step events middle finish event? run last ih =>
      intro event occurs written
      rcases List.mem_append.mp occurs with early | late
      · exact ih event early written
      · obtain rfl : event? = some event := by simpa using late
        rcases last.acts run.stand with ⟨edit, phase, acts⟩ | reads
        · exact ⟨edit, Event.commit?_eq_some.mpr
            ⟨rfl, acts.operation, Option.isSome_iff_exists.mp written⟩⟩
        · rw [Event.written?_of_reads reads] at written
          cases written

/-- The writes of others are commits of other threads. -/
theorem outwritten_le_committers (number : Nat) (id : Uuid)
    (edits : ∀ event ∈ events, event.written?.isSome = true → ∃ edit,
      event.commit? = some (event.thread, edit)) :
    outwritten number id events ≤ ((committers events).filter (· != number)).length := by
  induction events with
  | nil => exact Nat.zero_le _
  | cons event rest ih =>
      have tail := ih fun event occurs => edits event (List.mem_cons_of_mem _ occurs)
      have head : committers (event :: rest) = committers [event] ++ committers rest := by
        change committers ([event] ++ rest) = _
        simp only [committers, commits_append, List.map_append]
      rw [head, List.filter_append, List.length_append, outwritten, List.countP_cons]
      split
      · next outwrites =>
          simp only [Event.outwrites, Bool.and_eq_true] at outwrites
          obtain ⟨edit, committed⟩ := edits event (by simp)
            (Option.isSome_of_any outwrites.2)
          have counted : (committers [event]).filter (· != number) = [event.thread] := by
            simpa [committers, commits, committed] using outwrites.1
          rw [outwritten] at tail
          rw [counted, List.length_singleton]
          omega
      · rw [outwritten] at tail
        omega

/-- There are fewer writes of others than threads: each thread writes at most once, and
one of them is not counted. -/
theorem Run.outwritten_lt (run : Run tracker allowed (.idle workspace) events finish)
    {number : Nat} (here : number < finish.threads.length) (id : Uuid) :
    outwritten number id events < finish.threads.length := by
  -- the thread and the others that have committed are distinct and have all begun
  have committed := run.committed
  have distinct : (number :: (committers events).filter (· != number)).Nodup :=
    List.nodup_cons.mpr ⟨by simp, committed.distinct.filter _⟩
  have inside : number :: (committers events).filter (· != number) ⊆
      List.range finish.threads.length := by
    intro other member
    rw [List.mem_range]
    rcases List.mem_cons.mp member with rfl | member
    · exact here
    · obtain ⟨_, _, ended⟩ := committed.ended other (List.mem_filter.mp member).1
      exact (List.getElem?_eq_some_iff.mp ended).1
  have bound := distinct.length_le_of_subset inside
  have counted := outwritten_le_committers number id run.commit_of_written
  rw [List.length_cons, List.length_range] at bound
  omega

theorem Tracker.le_maxAttempts (tracker : Tracker) :
    tracker.settings.store.maxAttempts.toNat ≤ tracker.maxAttempts.toNat := by
  change _ ≤ (if tracker.settings.store.maxAttempts ≤ 1 then 1
    else tracker.settings.store.maxAttempts).toNat
  split
  · next few => exact UInt32.le_iff_toNat_le.mp few
  · exact Nat.le_refl _

end Writers

/-- **Every conflict is paid for by the writes of others to the same record during the
lifetime of the edit that reports it, one for each of its attempts**, on a store that
answers and that nobody else touches.  So edits of one record that are no more than the
attempts of each report no conflict. -/
theorem conflict_paid {tracker : Tracker} {workspace : Workspace} {events : List Event}
    {finish : System} (available : workspace.Available)
    (run : Run tracker Workspace.Relogged (.idle workspace) events finish) :
    (∀ number edit text attempts,
      finish.threads[number]? = some ⟨.edit edit, .done (.error (.conflict text attempts))⟩ →
      attempts.toNat ≤ outwritten number edit.id (lifetime number events)) ∧
    ∀ id, (∀ thread ∈ finish.threads, ∃ edit, thread.operation = .edit edit ∧ edit.id = id) →
      finish.threads.length ≤ tracker.settings.store.maxAttempts.toNat →
      ∀ thread ∈ finish.threads, ∀ text attempts,
        thread.program ≠ .done (.error (.conflict text attempts)) := by
  have paid : ∀ number edit text attempts,
      finish.threads[number]? = some ⟨.edit edit, .done (.error (.conflict text attempts))⟩ →
      attempts = tracker.maxAttempts ∧
        tracker.maxAttempts.toNat ≤ outwritten number edit.id (lifetime number events) := by
    intro number edit text attempts found
    obtain ⟨phase, program, contends⟩ := ((run.contended available).stand number _ found).phase
    exact contends.conflict text attempts (WriteLoop.program_eq_done program.symm)
  refine ⟨fun number edit text attempts found => ?_, fun id same enough thread member => ?_⟩
  · obtain ⟨rfl, enough⟩ := paid number edit text attempts found
    exact enough
  · rintro text attempts gaveUp
    obtain ⟨number, found⟩ := List.mem_iff_getElem?.mp member
    obtain ⟨edit, operation, -⟩ := same thread member
    obtain ⟨rfl, outwrites⟩ := paid number edit text attempts (by rw [found, ← operation, ← gaveUp])
    have fewer := run.outwritten_lt (List.getElem?_eq_some_iff.mp found).1 edit.id
    have part : outwritten number edit.id (lifetime number events) ≤
        outwritten number edit.id events := (lifetime_sublist number events).countP_le
    have attempts := tracker.le_maxAttempts
    omega

/-- In the race the effort conflicts when it has one attempt, which the write of the
benchmark pays for; with three attempts for two edits neither conflicts. -/
theorem conflict_paid_in_race :
    (∃ text, (Race.play 1 Race.outrun).2.threads[0]? =
        some ⟨.edit (.recordEffort Race.carry), .done (.error (.conflict text 1))⟩ ∧
      1 ≤ outwritten 0 Race.carry (lifetime 0 (Race.play 1 Race.outrun).1)) ∧
    ∀ thread ∈ (Race.play 3 Race.moves).2.threads, ∀ text attempts,
      thread.program ≠ .done (.error (.conflict text attempts)) := by
  constructor
  · have ended : (Race.play 1 Race.outrun).2.ended? 0 = some
        (.edit (.recordEffort Race.carry), .error (.conflict Race.carry.toText 1)) := by
      decide +kernel
    have conflicts := System.thread_of_ended? ended
    exact ⟨Race.carry.toText, conflicts, (conflict_paid Race.available (Race.run _ 1 Race.outrun)).1
      0 (.recordEffort Race.carry) Race.carry.toText 1 conflicts⟩
  · refine (conflict_paid Race.available (Race.run _ 3 Race.moves)).2 Race.carry ?_
      (by decide +kernel)
    have edits : (Race.play 3 Race.moves).2.threads.map Thread.operation =
        [.edit (.recordEffort Race.carry), .edit (Race.reading 215)] := by
      decide +kernel
    intro thread member
    have operation : thread.operation ∈ (Race.play 3 Race.moves).2.threads.map Thread.operation :=
      List.mem_map_of_mem member
    rw [edits] at operation
    rcases List.mem_cons.mp operation with same | operation
    · exact ⟨_, same, rfl⟩
    · exact ⟨_, List.mem_singleton.mp operation, rfl⟩

end GolfProgress
