import GolfProgress.Proofs.Contention
import GolfProgress.Proofs.Evolution

/-!
# Edits that fail

An edit can fail at any of its calls and on any of its attempts, and its write is the
last of its calls that can fail.  So an edit that ends with a failure has written
nothing, and all that it may have done is to use up pending conflicts, each of which
counts the version of its record up by one (`failed_edit_keeps_records`).

Most failures do not even do that.  A reading that is not finite is refused before the
first call.  A record or a metric that the edit itself does not find is missed before
the first write: an edit that has come to write about a record finds this record at
every later attempt, and its plan, which looks at nothing that a write can change,
accepts it again (`Attempts`).  After that nothing is missed but by a store that answers
a write so, and conflicts that were met before such an answer have counted up versions
(`denied_write_keeps_conflict`).
-/

set_option autoImplicit false

namespace GolfProgress

/-! ## Conflicts that are met -/

namespace BreakingPoint

/-- A record whose version was counted up some number of times and nothing else. -/
def aged (point : BreakingPoint) (count : Nat) : BreakingPoint :=
  { point with version := point.version + UInt64.ofNat count }

theorem aged_zero (point : BreakingPoint) : point.aged 0 = point := by
  simp [aged]

theorem aged_one (point : BreakingPoint) : point.aged 1 = point.bumped := rfl

theorem aged_aged (point : BreakingPoint) (first second : Nat) :
    (point.aged first).aged second = point.aged (first + second) := by
  simp [aged, UInt64.add_assoc]

end BreakingPoint

/-- A refused update leaves a workspace as it is, or has used up a pending conflict that
bumped the record. -/
theorem Workspace.perform_of_error {workspace : Workspace} (alone : workspace.rivals = [])
    {id : Uuid} {expected : UInt64} {patch : Patch} {failure : StoreFailure}
    (refused : (workspace.perform (.update id expected patch)).1 = .error failure) :
    (workspace.perform (.update id expected patch)).2 = workspace ∨
      ∃ point, workspace.record? id = some point ∧ workspace.store.pendingConflicts ≠ 0 ∧
        (workspace.perform (.update id expected patch)).2.store =
          { workspace.store with
            pendingConflicts := workspace.store.pendingConflicts - 1 }.put point.bumped := by
  cases failing : workspace.updateFailure with
  | some failure => simp [perform, meetRival_of_none alone, failing]
  | none =>
      rw [perform_update_of_writable alone failing] at refused ⊢
      rcases BreakingPointStore.update_of_error refused with same | met
      · simp [same]
      · exact .inr met

namespace Event

/-- Whether a call is an update of a record that uses up a pending conflict. -/
def meetsConflict (id : Uuid) (event : Event) : Bool :=
  match event.request with
  | .update target _ _ =>
    target = id && event.after.store.pendingConflicts != event.before.store.pendingConflicts
  | _ => false

/-- A call that leaves the workspace as it is meets no conflict. -/
theorem meetsConflict_of_same {event : Event} (same : event.after = event.before) (id : Uuid) :
    event.meetsConflict id = false := by
  unfold meetsConflict
  split
  · simp [same]
  · rfl

/-- **A call that writes nothing leaves every record as it is, but for the conflict that it
meets.** -/
theorem record?_after {event : Event} (alone : event.before.rivals = [])
    (unwritten : event.written? = none) (id : Uuid) :
    event.after.record? id =
      (event.before.record? id).map (·.aged (event.meetsConflict id).toNat) := by
  have still (same : event.after = event.before) : event.after.record? id =
      (event.before.record? id).map (·.aged (event.meetsConflict id).toNat) := by
    simp [meetsConflict_of_same same, same, BreakingPoint.aged_zero]
  rcases event with ⟨number, operation, request, workspace⟩
  cases request with
  | get | list | count | latest => exact still rfl
  | update target expected patch =>
      cases reply : (workspace.perform (.update target expected patch)).1 with
      | ok record =>
          rw [written?_of_ok reply] at unwritten
          cases unwritten
      | error failure =>
          rcases Workspace.perform_of_error alone reply with same | ⟨point, found, pending, met⟩
          · exact still same
          · -- one conflict less is pending, and its record is bumped
            have found : workspace.store.find? target = some point := found
            have named : point.id = target := BreakingPointStore.id_of_find? found
            have named : point.bumped.id = target := named
            have fewer : workspace.store.pendingConflicts - 1 ≠
                workspace.store.pendingConflicts := by
              intro same
              have counts := congrArg UInt32.toNat same
              grind
            have meets : meetsConflict id ⟨number, operation, .update target expected patch,
                workspace⟩ = decide (target = id) := by
              simp [meetsConflict, after, met, BreakingPointStore.put, fewer]
            rw [meets, Workspace.record?, after, met, BreakingPointStore.find?_put, named]
            by_cases same : target = id
            · subst same
              simp [Workspace.record?, found, BreakingPoint.aged_one]
            · simp [same, Ne.symm same, BreakingPoint.aged_zero]
              rfl

end Event

/-- How many conflicts some calls meet on a record. -/
def conflictsMet (id : Uuid) (events : List Event) : Nat := events.countP (Event.meetsConflict id)

section Runs

variable {tracker : Tracker} {allowed : Workspace → Workspace → Prop} {workspace : Workspace}
  {events : List Event} {finish : System}

/-- **A run whose calls write nothing leaves every record as it is, but for the conflicts
that are met on it.** -/
theorem Run.record?_of_unwritten (alone : workspace.rivals = [])
    (disturbs : ∀ old new, allowed old new → old.Disturbed new)
    (run : Run tracker allowed (.idle workspace) events finish)
    (unwritten : ∀ event ∈ events, event.written? = none) (id : Uuid) :
    finish.record? id = (workspace.record? id).map (·.aged (conflictsMet id events)) := by
  induction run with
  | refl => simp [conflictsMet, BreakingPoint.aged_zero, System.idle, System.record?]
  | @step events middle finish event? run last ih =>
      obtain ⟨early, late⟩ := Event.forall_append unwritten
      cases event? with
      | none => simpa [last.record?_of_none disturbs] using ih early
      | some event =>
          obtain ⟨before, after⟩ := last.event
          have records : finish.record? id = event.after.record? id := by rw [after]; rfl
          have met : event.before.record? id = middle.record? id := by rw [before]; rfl
          rw [records, Event.record?_after (before ▸ run.alone disturbs alone) (late event rfl),
            met, ih early, Option.map_map]
          refine congrArg (Option.map · _) (funext fun point => ?_)
          have counts : conflictsMet id (events ++ (some event).toList) =
              conflictsMet id events + (event.meetsConflict id).toNat := by
            cases meets : event.meetsConflict id <;> simp [conflictsMet, meets]
          rw [counts]
          exact point.aged_aged _ _

/-- An edit that ends with a failure has written nothing. -/
theorem Run.unwritten_of_error (run : Run tracker allowed (.idle workspace) events finish)
    {number : Nat} {operation : Operation} {failure : Failure}
    (failed : finish.threads[number]? = some ⟨operation, .done (.error failure)⟩) {event : Event}
    (occurs : event ∈ events) (acts : event.thread = number) : event.written? = none := by
  cases written : event.written? with
  | none => rfl
  | some record =>
      obtain ⟨edit, committed⟩ := run.commit_of_written event occurs (by simp [written])
      have commits : event.thread ∈ committers events :=
        List.mem_map_of_mem (List.mem_filterMap.mpr ⟨event, occurs, committed⟩)
      obtain ⟨_, _, ended⟩ := run.committed.ended event.thread commits
      rw [acts, failed] at ended
      cases ended

end Runs

/-! ## Plans that refuse -/

/-- The plan of an edit accepts a record. -/
def Edit.Accepts (tracker : Tracker) (edit : Edit) (point : BreakingPoint) : Prop :=
  ∀ failure, (edit.loop tracker).plan point ≠ .refuse failure

/-- Whether a plan accepts a record depends on nothing that a write can change. -/
theorem Edit.Accepts.of_identifies {tracker : Tracker} {edit : Edit} {old new : BreakingPoint}
    (accepts : edit.Accepts tracker old) (identifies : old.Identifies new) :
    edit.Accepts tracker new := by
  intro failure refused
  cases edit with
  | recordEffort id => cases refused
  | evaluateBenchmark id benchmark =>
      change tracker.benchmarkPlan id benchmark new = _ at refused
      -- the direction is that of the test, which stays
      cases directed : tracker.direction benchmark.metric old.test with
      | ok direction =>
          simp only [Tracker.benchmarkPlan, identifies.test, directed] at refused
          cases refused
      | error missed =>
          refine accepts missed ?_
          change tracker.benchmarkPlan id benchmark old = _
          simp only [Tracker.benchmarkPlan, directed]
          rfl
  | applyTransition id transition today =>
      change tracker.transitionPlan transition today new = _ at refused
      unfold Tracker.transitionPlan at refused
      split at refused <;> cases refused

/-! ## Failures before the first write -/

theorem Workspace.absent_of_get {workspace : Workspace} {id : Uuid}
    (read : workspace.store.get id = .ok none) : workspace.record? id = none := by
  unfold BreakingPointStore.get at read
  split at read
  · cases read
  · exact Except.ok.inj read

/-- A call is an attempt to write, whether it lands or not. -/
def Event.Updates (event : Event) : Prop :=
  ∃ id expected patch, event.request = .update id expected patch

/-- A call is an attempt to write, which the store answers with the failure that there is no
such record. -/
def Event.Denied (event : Event) : Prop :=
  ∃ id expected patch text, event.request = .update id expected patch ∧
    (event.before.perform (.update id expected patch)).1 = .error (.notFound text)

/-- Among some calls a thread attempts to write. -/
def Attempted (number : Nat) (events : List Event) : Prop :=
  ∃ event ∈ events, event.thread = number ∧ event.Updates

namespace WriteLoop

variable {Result : Type} {loop : WriteLoop Result}

theorem refuse_of_planned {left : Nat} {point : BreakingPoint} {failure : Failure}
    (ended : loop.planned left point = .ended (.error failure)) :
    loop.plan point = .refuse failure := by
  unfold planned at ended
  split at ended
  · next plan =>
      cases ended
      exact plan
  · exact absurd ended decided_ne_error
  · cases ended

/-- A plan whose decision is carried out has not refused. -/
theorem not_refuse_of_planned {left : Nat} {point carried : BreakingPoint} {failure : Failure}
    (carries : (loop.planned left point).point? = some carried) :
    loop.plan point ≠ .refuse failure := by
  intro refused
  unfold planned at carries
  split at carries
  · cases carries
  · next plan =>
      rw [plan] at refused
      cases refused
  · next plan =>
      rw [plan] at refused
      cases refused

end WriteLoop

section Attempts

variable {tracker : Tracker} {allowed : Workspace → Workspace → Prop}
  {system next finish : System} {events : List Event} {event? : Option Event} {number : Nat}
  {edit : Edit} {phase : (edit.loop tracker).Phase}

theorem attempted_append {later : List Event} (attempted : Attempted number (events ++ later)) :
    Attempted number events ∨ Attempted number later := by
  obtain ⟨event, occurs, attempts⟩ := attempted
  rcases List.mem_append.mp occurs with early | late
  · exact .inl ⟨event, early, attempts⟩
  · exact .inr ⟨event, late, attempts⟩

/-- There is a record that the plan of an edit accepts. -/
def System.Accepts (tracker : Tracker) (system : System) (edit : Edit) : Prop :=
  ∃ stored, system.record? edit.id = some stored ∧ edit.Accepts tracker stored

/-- What an edit has to do with its record once it is about to write: the record is there
and is accepted, so the edit does not miss anything any more. -/
structure Attempts (tracker : Tracker) (events : List Event) (system : System) (number : Nat)
    (edit : Edit) (phase : (edit.loop tracker).Phase) : Prop where
  carried : ∀ point, phase.point? = some point → system.Accepts tracker edit
  attempted : Attempted number events → system.Accepts tracker edit
  notFound : ∀ subject id, phase = .ended (.error (.notFound subject id)) →
    Attempted number events → ∃ event ∈ events, event.thread = number ∧ event.Denied
  invalid : ∀ value, phase = .ended (.error (.invalidReading value)) →
    ∀ event ∈ events, event.thread ≠ number

theorem System.Accepts.step {property : PhaseProperty tracker}
    (accepts : system.Accepts tracker edit) (step : Step tracker allowed system event? next)
    (stand : system.Stand tracker property) (alone : system.workspace.rivals = [])
    (disturbs : ∀ old new, allowed old new → old.Disturbed new) : next.Accepts tracker edit := by
  obtain ⟨stored, found, accepted⟩ := accepts
  obtain ⟨new, after, change⟩ := step.becomes stand alone disturbs found
  exact ⟨new, after, accepted.of_identifies change.becomes.identifies⟩

/-- An edit that ends without having missed anything. -/
theorem Attempts.of_ended {result : Except Failure Report}
    (attempted : Attempted number events → system.Accepts tracker edit)
    (found : ∀ subject id, result ≠ .error (.notFound subject id))
    (finite : ∀ value, result ≠ .error (.invalidReading value)) :
    Attempts tracker events system number edit (.ended result) where
  carried := by
    intro point carries
    cases carries
  attempted := attempted
  notFound := by
    intro subject id ended
    cases ended
    exact absurd rfl (found subject id)
  invalid := by
    intro value ended
    cases ended
    exact absurd rfl (finite value)

/-- An edit that begins has not attempted anything. -/
theorem Attempts.opening (fresh : ∀ event ∈ events, event.thread ≠ number) :
    Attempts tracker events system number edit (edit.opening tracker) where
  carried := by
    intro point carries
    rw [edit.point?_opening] at carries
    cases carries
  attempted := by
    rintro ⟨event, occurs, acts, -⟩
    exact absurd acts (fresh event occurs)
  notFound := by
    rintro _ _ _ ⟨event, occurs, acts, -⟩
    exact absurd acts (fresh event occurs)
  invalid := fun _ _ => fresh

/-- The calls of other threads leave an edit as it is. -/
theorem Attempts.waits {property : PhaseProperty tracker}
    (attempts : Attempts tracker events system number edit phase)
    (step : Step tracker allowed system event? next) (stand : system.Stand tracker property)
    (alone : system.workspace.rivals = [])
    (disturbs : ∀ old new, allowed old new → old.Disturbed new)
    (other : ∀ event, event? = some event → event.thread ≠ number) :
    Attempts tracker (events ++ event?.toList) next number edit phase := by
  have before (attempted : Attempted number (events ++ event?.toList)) :
      Attempted number events := by
    rcases attempted_append attempted with early | ⟨event, occurs, acts, -⟩
    · exact early
    · exact absurd acts (other event (by simpa using occurs))
  refine ⟨fun point carries => ?_, fun attempted => ?_, fun subject id ended attempted => ?_,
    fun value ended event occurs => ?_⟩
  · exact (attempts.carried point carries).step step stand alone disturbs
  · exact (attempts.attempted (before attempted)).step step stand alone disturbs
  · obtain ⟨event, occurs, denied⟩ := attempts.notFound subject id ended (before attempted)
    exact ⟨event, List.mem_append_left _ occurs, denied⟩
  · rcases List.mem_append.mp occurs with early | late
    · exact attempts.invalid value ended event early
    · exact other event (by simpa using late)

/-- A phase after a read or a count misses something only where no record is accepted. -/
theorem Attempts.reads {event : Event}
    (attempts : Attempts tracker events system event.thread edit phase)
    (step : Step tracker allowed system (some event) next)
    (calls : phase.request? = some event.request)
    (reads : ∀ id expected patch, event.request ≠ .update id expected patch) :
    Attempts tracker (events ++ [event]) next event.thread edit
      (phase.after system.workspace) := by
  have same : next.workspace = system.workspace := step.workspace_of_reads reads
  have accepts (accepts : system.Accepts tracker edit) : next.Accepts tracker edit := by
    unfold System.Accepts System.record?
    rw [same]
    exact accepts
  have before (attempted : Attempted event.thread (events ++ [event])) :
      Attempted event.thread events := by
    rcases attempted_append attempted with early | ⟨_, occurs, -, id, expected, patch, updates⟩
    · exact early
    · obtain rfl := List.mem_singleton.mp occurs
      exact absurd updates (reads id expected patch)
  have attempted (attempted : Attempted event.thread (events ++ [event])) :
      next.Accepts tracker edit :=
    accepts (attempts.attempted (before attempted))
  cases phase with
  | reading left =>
      simp only [WriteLoop.Phase.after]
      split
      · next point read =>
          have found : system.record? edit.id = some point := by
            rw [edit.id_loop] at read
            exact Workspace.record?_of_get read
          refine ⟨fun carried carries => ?_, attempted, fun subject id ended tried => ?_,
            fun value ended => ?_⟩
          · exact accepts ⟨point, found, fun _ => WriteLoop.not_refuse_of_planned carries⟩
          · -- what was read at an earlier attempt would have been refused as well
            obtain ⟨stored, present, accepted⟩ := attempts.attempted (before tried)
            obtain rfl := Option.some.inj (found.symm.trans present)
            exact absurd (WriteLoop.refuse_of_planned ended) (accepted _)
          · obtain ⟨_, _, missed⟩ := Edit.notFound_of_refuse (WriteLoop.refuse_of_planned ended)
            cases missed
      · next read =>
          have absent : system.record? edit.id = none := by
            rw [edit.id_loop] at read
            exact Workspace.absent_of_get read
          refine ⟨fun _ carries => ?_, attempted, fun subject id ended tried => ?_,
            fun _ ended => ?_⟩
          · cases carries
          · obtain ⟨stored, present, -⟩ := attempts.attempted (before tried)
            rw [absent] at present
            cases present
          · cases ended
      · exact .of_ended attempted (by simp) (by simp)
  | counting left point decide planned =>
      simp only [WriteLoop.Phase.after]
      split
      · exact ⟨fun _ _ => accepts (attempts.carried point rfl), attempted,
          fun _ _ ended => absurd ended WriteLoop.decided_ne_error,
          fun _ ended => absurd ended WriteLoop.decided_ne_error⟩
      · exact .of_ended attempted (by simp) (by simp)
  | writing left point decision yields changes =>
      exact absurd (Option.some.inj calls).symm (reads _ _ _)
  | ended result => cases calls

/-- A write of an edit misses its record only where the store answers so. -/
theorem Attempts.writes {property : PhaseProperty tracker} {event : Event} {left : Nat}
    {point : BreakingPoint} {decision : Decision (edit.loop tracker).Outcome}
    {yields : ((edit.loop tracker).plan point).Yields decision}
    {changes : decision.patch.isEmpty = false}
    (attempts : Attempts tracker events system event.thread edit
      (.writing left point decision yields changes))
    (step : Step tracker allowed system (some event) next) (stand : system.Stand tracker property)
    (alone : system.workspace.rivals = [])
    (disturbs : ∀ old new, allowed old new → old.Disturbed new)
    (request : event.request = .update (edit.loop tracker).id point.version decision.patch) :
    Attempts tracker (events ++ [event]) next event.thread edit
      ((WriteLoop.Phase.writing left point decision yields changes).after system.workspace) := by
  obtain ⟨found, -⟩ := step.event
  have accepts : system.Accepts tracker edit := attempts.carried point rfl
  have attempted : next.Accepts tracker edit := accepts.step step stand alone disturbs
  have denied {text : String} (reply : (system.workspace.perform
      (.update (edit.loop tracker).id point.version decision.patch)).1 = .error (.notFound text)) :
      ∃ attempt ∈ events ++ [event], attempt.thread = event.thread ∧ attempt.Denied :=
    ⟨event, by simp, rfl, _, _, _, text, request, found ▸ reply⟩
  simp only [WriteLoop.Phase.after]
  cases reply : (system.workspace.perform
      (.update (edit.loop tracker).id point.version decision.patch)).1 with
  | ok record => exact .of_ended (fun _ => attempted) (by simp) (by simp)
  | error failure =>
      cases failure with
      | versionConflict id expected found =>
          refine ⟨fun _ _ => attempted, fun _ => attempted, fun _ _ ended => ?_, fun _ ended => ?_⟩
          · cases left <;> cases ended
          · cases left <;> cases ended
      | notFound text =>
          refine ⟨fun _ _ => attempted, fun _ => attempted, fun _ _ _ _ => denied reply,
            fun _ ended => ?_⟩
          cases ended
      | unavailable reason => exact .of_ended (fun _ => attempted) (by simp) (by simp)
      | invalidRecord reason => exact .of_ended (fun _ => attempted) (by simp) (by simp)

/-- Threads do not vanish with a step. -/
theorem Step.length_le (step : Step tracker allowed system event? next) :
    system.threads.length ≤ next.threads.length := by
  cases step with
  | begin operation => simp [System.begin]
  | disturb _ => exact Nat.le_refl _
  | call acting calls steps => simp [System.resume]

variable {workspace : Workspace}

/-- A thread that has not begun has made no calls. -/
theorem Run.thread_lt (run : Run tracker allowed (.idle workspace) events finish) :
    ∀ event ∈ events, event.thread < finish.threads.length := by
  induction run with
  | refl => simp
  | @step events middle finish event? run last ih =>
      intro event occurs
      rcases List.mem_append.mp occurs with early | late
      · exact Nat.lt_of_lt_of_le (ih event early) last.length_le
      · obtain rfl : event? = some event := by simpa using late
        exact Nat.lt_of_lt_of_le last.thread_lt last.length_le

/-- **In every run an edit that has come to write does not miss anything any more.** -/
theorem Run.attempts (alone : workspace.rivals = [])
    (disturbs : ∀ old new, allowed old new → old.Disturbed new)
    (run : Run tracker allowed (.idle workspace) events finish) :
    finish.Stand tracker fun number edit phase =>
      Attempts tracker events finish number edit phase := by
  induction run with
  | refl => exact .idle workspace
  | @step events middle finish event? run last ih =>
      have alone := run.alone disturbs alone
      refine last.stand ih ?_ ?_ ?_
      · intro number edit new
        refine .opening fun event occurs same => ?_
        rcases List.mem_append.mp occurs with early | late
        · have begun := run.thread_lt event early
          omega
        · obtain rfl : event? = some event := by simpa using late
          have begun := last.thread_lt
          omega
      · rintro number edit phase request rfl calls attempts
        rcases WriteLoop.writing_or_reads calls with
          ⟨left, point, decision, yields, changes, rfl, rfl⟩ | reads
        · exact attempts.writes last ih alone disturbs rfl
        · exact attempts.reads last calls reads
      · exact fun number edit phase other attempts =>
          attempts.waits last ih alone disturbs other

end Attempts

/-! ## Failed edits -/

/-- Calls that attempt no write meet no conflict. -/
theorem conflictsMet_eq_zero {number : Nat} {events : List Event} (id : Uuid)
    (acts : ∀ event ∈ events, event.thread = number) (unattempted : ¬ Attempted number events) :
    conflictsMet id events = 0 := by
  refine List.countP_eq_zero.mpr fun event occurs meets => unattempted ?_
  refine ⟨event, occurs, acts event occurs, ?_⟩
  unfold Event.meetsConflict at meets
  split at meets
  · next target expected patch request => exact ⟨target, expected, patch, request⟩
  · cases meets

/-- **An edit that fails leaves every record as it was, but for its version, which has grown
by the number of conflicts that the edit met on it**: whatever the configuration, whatever
store and session log fail, and at whatever call.  Where it has attempted no write, not even
the versions have changed.  This is so of a reading that is not finite, for which nothing
is called, and of everything that is not found, unless it was the store that answered an
attempt to write so. -/
theorem failed_edit_keeps_records {tracker : Tracker} {workspace : Workspace}
    {events : List Event} {finish : System} {number : Nat} {edit : Edit} {failure : Failure}
    (alone : workspace.rivals = [])
    (run : Run tracker Workspace.Disturbed (.idle workspace) events finish)
    (acts : ∀ event ∈ events, event.thread = number)
    (failed : finish.threads[number]? = some ⟨.edit edit, .done (.error failure)⟩) :
    (∀ id, finish.record? id = (workspace.record? id).map (·.aged (conflictsMet id events))) ∧
    (¬ Attempted number events → finish.record? = workspace.record?) ∧
    (∀ value, failure = .invalidReading value →
      events = [] ∧ finish.record? = workspace.record?) ∧
    ∀ subject id, failure = .notFound subject id →
      (¬ Attempted number events ∧ finish.record? = workspace.record?) ∨
        ∃ event ∈ events, event.Denied := by
  have disturbs : ∀ old new : Workspace, old.Disturbed new → old.Disturbed new :=
    fun _ _ disturbed => disturbed
  have aged (id : Uuid) :
      finish.record? id = (workspace.record? id).map (·.aged (conflictsMet id events)) :=
    run.record?_of_unwritten alone disturbs
      (fun event occurs => run.unwritten_of_error failed occurs (acts event occurs)) id
  have kept (unattempted : ¬ Attempted number events) : finish.record? = workspace.record? := by
    funext id
    simp [aged id, conflictsMet_eq_zero id acts unattempted, BreakingPoint.aged_zero]
  obtain ⟨phase, program, attempts⟩ := ((run.attempts alone disturbs) number _ failed).phase
  have ended : phase = .ended (.error failure) := WriteLoop.program_eq_done program.symm
  refine ⟨aged, kept, fun value invalid => ?_, fun subject id missed => ?_⟩
  · -- the refused edit has made no call
    have silent : events = [] := by
      refine List.eq_nil_iff_forall_not_mem.mpr fun event occurs => ?_
      exact attempts.invalid value (invalid ▸ ended) event occurs (acts event occurs)
    refine ⟨silent, kept ?_⟩
    rintro ⟨event, occurs, -⟩
    rw [silent] at occurs
    cases occurs
  · by_cases attempted : Attempted number events
    · obtain ⟨event, occurs, -, denied⟩ :=
        attempts.notFound subject id (missed ▸ ended) attempted
      exact .inr ⟨event, occurs, denied⟩
    · exact .inl ⟨attempted, kept attempted⟩

namespace Race

/-- The race's store with two conflicts pending. -/
def contested : Workspace :=
  { workspace with store := { workspace.store with pendingConflicts := 2 } }

/-- An effort is recorded by two attempts. -/
def retried : List Event × System :=
  System.play (tracker 2) (.idle contested)
    (.begin (.edit (.recordEffort carry)) :: List.replicate 6 (.call 0))

end Race

/-- An effort that meets a pending conflict at each of its two attempts leaves the record
with its version two higher. -/
theorem failed_effort_keeps_record :
    Race.retried.2.threads[0]? = some ⟨.edit (.recordEffort Race.carry),
      .done (.error (.conflict Race.carry.toText 2))⟩ ∧
    Race.retried.2.record? Race.carry = some (Race.record.aged 2) := by
  have ended : Race.retried.2.ended? 0 = some
      (.edit (.recordEffort Race.carry), .error (.conflict Race.carry.toText 2)) := by
    decide +kernel
  have failed := System.thread_of_ended? ended
  have acts : ∀ event ∈ Race.retried.1, event.thread = 0 := by decide +kernel
  have met : conflictsMet Race.carry Race.retried.1 = 2 := by decide +kernel
  have found : Race.contested.record? Race.carry = some Race.record := by decide +kernel
  have run : Run (Race.tracker 2) Workspace.Disturbed (.idle Race.contested) Race.retried.1
      Race.retried.2 :=
    .of_play _ _ _ _
  have alone : Race.contested.rivals = [] := rfl
  have records := (failed_edit_keeps_records alone run acts failed).1 Race.carry
  rw [met, found] at records
  exact ⟨failed, records⟩

namespace Race

/-- An effort meets the first of the pending conflicts. -/
def hindered : List Event × System :=
  System.play (tracker 2) (.idle contested)
    (.begin (.edit (.recordEffort carry)) :: List.replicate 3 (.call 0))

/-- The store has come to answer writes with the failure that there is no such record. -/
def misled : System :=
  { hindered.2 with
    workspace := { hindered.2.workspace with updateFailure := some (.notFound carry.toText) } }

/-- The second attempt of the effort. -/
def denied : List Event × System :=
  misled.play (tracker 2) (List.replicate 3 (.call 0))

theorem run_denied :
    Run (tracker 2) Workspace.Disturbed (.idle contested) (hindered.1 ++ denied.1) denied.2 := by
  have misleads : Run (tracker 2) Workspace.Disturbed hindered.2 [] misled :=
    .step .refl (.disturb ⟨rfl, id⟩)
  have hinders : Run (tracker 2) Workspace.Disturbed (.idle contested) hindered.1 hindered.2 :=
    .of_play _ _ _ _
  rw [← List.nil_append denied.1]
  exact hinders.append (misleads.append (.of_play _ _ _ _))

end Race

/-- Not every edit that ends with something not found leaves the versions as they were: when a
store answers so after a conflict, the conflict has counted the version up. -/
theorem denied_write_keeps_conflict :
    ¬ ∀ (tracker : Tracker) (workspace : Workspace) (events : List Event) (finish : System)
      (number : Nat) (edit : Edit) (subject id : String), workspace.rivals = [] →
      Run tracker Workspace.Disturbed (.idle workspace) events finish →
      (∀ event ∈ events, event.thread = number) →
      finish.threads[number]? = some ⟨.edit edit, .done (.error (.notFound subject id))⟩ →
      finish.record? = workspace.record? := by
  intro claimed
  have ended : Race.denied.2.ended? 0 = some
      (.edit (.recordEffort Race.carry),
        .error (.notFound "breaking point" Race.carry.toText)) := by
    decide +kernel
  have acts : ∀ event ∈ Race.hindered.1 ++ Race.denied.1, event.thread = 0 := by decide +kernel
  have same := claimed _ _ _ _ 0 _ _ _ rfl Race.run_denied acts (System.thread_of_ended? ended)
  have aged : Race.denied.2.record? Race.carry ≠ Race.contested.record? Race.carry := by
    decide +kernel
  exact aged (congrFun same Race.carry)

end GolfProgress
