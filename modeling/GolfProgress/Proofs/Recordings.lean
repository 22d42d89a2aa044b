import GolfProgress.Proofs.SessionCounts
import GolfProgress.Proofs.Threads

/-!
# Recordings of effort

A recording of effort goes by the last sessions that it has counted; an earlier count was outrun.
It counts for the record when it has succeeded and the record was not resolved
(`Event.records`), and the effort of the record goes by the sessions that were logged at the latest
such count of a run (`loggedAtRecording`): by those of them that are linked to the record since its
creation (`sessionsRecorded`).

A step adds one call at most, and only the thread that makes it can end with it.  So the latest
count stays (`Step.sessionsRecorded_eq`), or the call is itself the latest count, or it is the
write of a recording and makes its last count one of these
(`Step.lastRecording?_of_landed`).
-/

set_option autoImplicit false

namespace GolfProgress

variable {tracker : Tracker} {allowed : Workspace → Workspace → Prop}
  {property : PhaseProperty tracker} {system next : System} {event? : Option Event}
  {events later : List Event} {id : Uuid} {since : Instant}

/-! ## Recordings that have succeeded -/

/-- Whether a call counts sessions. -/
def Call.isCount : Call → Bool
  | .count .. => true
  | _ => false

/-- Whether a thread is a recording of the effort of a record that has succeeded. -/
def System.hasRecorded (system : System) (id : Uuid) (number : Nat) : Bool :=
  match system.ended? number with
  | some (operation, .ok _) => operation = .edit (.recordEffort id)
  | _ => false

/-- Whether a call is the last count of a recording that has succeeded, made when the record was
not resolved; `later` are the calls after it. -/
def Event.records (recorded : Nat → Bool) (id : Uuid) (event : Event) (later : List Event) : Bool :=
  event.request.isCount && recorded event.thread &&
    (event.before.record? id).any (fun point => !point.isResolved) &&
    later.all fun other => other.thread != event.thread || !other.request.isCount

/-- The latest of these calls. -/
def lastRecording? (recorded : Nat → Bool) (id : Uuid) : List Event → Option Event
  | [] => none
  | event :: later =>
    (lastRecording? recorded id later).or
      (if event.records recorded id later then some event else none)

/-- The sessions that were in the log when a recording of a record's effort has last counted and
succeeded, while the record was not resolved; none when there has been no such recording. -/
def loggedAtRecording (system : System) (id : Uuid) (events : List Event) : List SessionEntry :=
  match lastRecording? (system.hasRecorded id) id events with
  | some event => event.before.sessions.entries
  | none => []

theorem loggedAtRecording_of_last {latest : Event}
    (found : lastRecording? (system.hasRecorded id) id events = some latest) :
    loggedAtRecording system id events = latest.before.sessions.entries := by
  rw [loggedAtRecording, found]

/-- How many of those sessions are linked to the record and completed since an instant. -/
def sessionsRecorded (system : System) (id : Uuid) (since : Instant) (events : List Event) : Nat :=
  sessionsIn (linkedSince id since (loggedAtRecording system id events))

/-! ## Recordings and steps -/

theorem System.hasRecorded_iff {number : Nat} : system.hasRecorded id number = true ↔
    ∃ report, system.threads[number]? = some ⟨.edit (.recordEffort id), .done (.ok report)⟩ := by
  unfold hasRecorded
  constructor
  · intro recorded
    split at recorded
    · next operation report ended =>
        obtain rfl := of_decide_eq_true recorded
        exact ⟨report, thread_of_ended? ended⟩
    · cases recorded
  · rintro ⟨report, found⟩
    simp [ended?, found]

/-- A recording of effort does not begin where it ends. -/
theorem Thread.begin_ne_recorded (tracker : Tracker) (operation : Operation) (report : Report) :
    Thread.begin tracker operation ≠ ⟨.edit (.recordEffort id), .done (.ok report)⟩ := by
  intro ended
  obtain ⟨rfl, program⟩ := Thread.mk.inj ended
  have done : ((Edit.recordEffort id).opening tracker).program = .done (.ok report) :=
    ((Edit.recordEffort id).program_opening tracker).trans program
  have ended : ((Edit.recordEffort id).loop tracker).resumed tracker.maxAttempts.toNat =
      .ended (.ok report) := WriteLoop.program_eq_done done
  cases attempts : tracker.maxAttempts.toNat <;> rw [attempts] at ended <;> cases ended

/-- Only the thread that acts can have recorded with a step. -/
theorem Step.hasRecorded_other (step : Step tracker allowed system event? next) {number : Nat}
    (other : ∀ event, event? = some event → event.thread ≠ number) :
    next.hasRecorded id number = system.hasRecorded id number := by
  rw [Bool.eq_iff_iff, System.hasRecorded_iff, System.hasRecorded_iff]
  constructor
  · rintro ⟨report, found⟩
    cases step with
    | disturb _ => exact ⟨report, found⟩
    | begin operation =>
        rcases Nat.lt_or_ge number system.threads.length with old | new
        · rw [System.begin, List.getElem?_append_left old] at found
          exact ⟨report, found⟩
        · rw [System.begin, List.getElem?_append_right new] at found
          exact absurd (List.mem_singleton.mp (List.mem_of_getElem? found)).symm
            (Thread.begin_ne_recorded tracker operation report)
    | @call actor thread request program workspace here calls steps =>
        rcases Nat.lt_or_ge number system.threads.length with old | new
        · rw [System.resume, List.getElem?_append_left (by simpa using old),
            List.getElem?_set_ne (other _ rfl)] at found
          exact ⟨report, found⟩
        · rw [System.resume, List.getElem?_append_right (by simpa using new)] at found
          obtain ⟨evaluation, -, begun⟩ := List.mem_map.mp (List.mem_of_getElem? found)
          exact absurd begun (Thread.begin_ne_recorded tracker _ report)
  · rintro ⟨report, found⟩
    exact ⟨report, step.ended_stays found⟩

/-- A thread that makes a call has not recorded before it. -/
theorem Step.not_hasRecorded {event : Event}
    (step : Step tracker allowed system (some event) next) :
    system.hasRecorded id event.thread = false := by
  rw [Bool.eq_false_iff, Ne, System.hasRecorded_iff]
  exact fun ⟨report, found⟩ => step.running found

/-- A thread that has recorded with its call is a recording. -/
theorem Step.operation_of_hasRecorded {event : Event}
    (step : Step tracker allowed system (some event) next)
    (recorded : next.hasRecorded id event.thread = true) :
    event.operation = .edit (.recordEffort id) := by
  obtain ⟨report, found⟩ := System.hasRecorded_iff.mp recorded
  cases step with
  | @call number thread request program workspace here calls steps =>
      have inside : number < system.threads.length := (List.getElem?_eq_some_iff.mp here).1
      rw [System.resume, List.getElem?_append_left (by simpa using inside),
        List.getElem?_set_self inside] at found
      exact congrArg Thread.operation (Option.some.inj found)

/-- A recording that acts has recorded when it ends with a report. -/
theorem Acts.hasRecorded_iff {event : Event}
    {phase : ((Edit.recordEffort id).loop tracker).Phase}
    (acts : Acts tracker property system event next (.recordEffort id) phase) :
    next.hasRecorded id event.thread = true ↔
      ∃ report, phase.after system.workspace = .ended (.ok report) := by
  rw [System.hasRecorded_iff]
  constructor
  · rintro ⟨report, found⟩
    rw [acts.resumed] at found
    exact ⟨report, WriteLoop.program_eq_done (congrArg Thread.program (Option.some.inj found))⟩
  · rintro ⟨report, ended⟩
    exact ⟨report, by rw [acts.resumed, ended]; rfl⟩

/-! ## The last recording -/

section Recordings

variable {recorded recorded' : Nat → Bool} {event latest : Event} {earlier : List Event}

theorem mem_of_lastRecording? (found : lastRecording? recorded id events = some latest) :
    latest ∈ events := by
  induction events with
  | nil => cases found
  | cons event later ih =>
      rcases Option.or_eq_some_iff.mp found with inside | ⟨-, first⟩
      · exact List.mem_cons_of_mem _ (ih inside)
      · split at first
        · cases first
          exact List.mem_cons_self
        · cases first

theorem lastRecording?_append_of_some (found : lastRecording? recorded id later = some latest) :
    lastRecording? recorded id (earlier ++ later) = some latest := by
  induction earlier with
  | nil => exact found
  | cons event earlier ih => simp [lastRecording?, ih]

/-- One more call of a thread that had not recorded leaves the last recording, unless the call
makes one of the counts before it or itself count. -/
theorem lastRecording?_append_of_silent
    (others : ∀ number, number ≠ event.thread → recorded' number = recorded number)
    (running : recorded event.thread = false)
    (silent : ∀ other ∈ events, other.thread = event.thread → other.request.isCount = true →
      recorded' event.thread = true → event.request.isCount = true)
    (quiet : event.records recorded' id [] = false) :
    lastRecording? recorded' id (events ++ [event]) = lastRecording? recorded id events := by
  induction events with
  | nil => simp [lastRecording?, quiet]
  | cons first events ih =>
      have same : first.records recorded' id (events ++ [event]) =
          first.records recorded id events := by
        by_cases own : first.thread = event.thread
        · -- it has not recorded before, and does not when it counts anew
          have before : first.records recorded id events = false := by
            simp [Event.records, own, running]
          rw [before]
          simp only [Event.records, List.all_append, own]
          cases counts : first.request.isCount with
          | false => simp
          | true =>
              cases records : recorded' event.thread with
              | false => simp
              | true => simp [silent first List.mem_cons_self own counts records]
        · have apart : (event.thread != first.thread) = true := bne_iff_ne.mpr (Ne.symm own)
          simp [Event.records, others _ own, apart]
      rw [List.cons_append, lastRecording?, lastRecording?, same,
        ih fun other held => silent other (List.mem_cons_of_mem _ held)]

/-- A call that records is the last one to do so. -/
theorem lastRecording?_append_of_records (records : event.records recorded id [] = true) :
    lastRecording? recorded id (events ++ [event]) = some event :=
  lastRecording?_append_of_some (by simp [lastRecording?, records])

end Recordings

/-- A step leaves the sessions recorded, unless an update ends a recording or its count records
them. -/
theorem Step.sessionsRecorded_eq (step : Step tracker allowed system event? next)
    (silent : ∀ event, event? = some event → next.hasRecorded id event.thread = true →
      event.request.isCount = true ∧
        (event.before.record? id).any (fun point => !point.isResolved) = false) :
    sessionsRecorded next id since (events ++ event?.toList) =
      sessionsRecorded system id since events := by
  unfold sessionsRecorded loggedAtRecording
  cases event? with
  | none =>
      have same : next.hasRecorded id = system.hasRecorded id :=
        funext fun number => step.hasRecorded_other (by simp)
      rw [same, Option.toList_none, List.append_nil]
  | some event =>
      have quiet : event.records (next.hasRecorded id) id [] = false := by
        cases recorded : next.hasRecorded id event.thread with
        | false => simp [Event.records, recorded]
        | true => simp [Event.records, (silent event rfl recorded).2]
      have others : ∀ number, number ≠ event.thread →
          next.hasRecorded id number = system.hasRecorded id number :=
        fun number other => step.hasRecorded_other (by rintro _ ⟨⟩; exact Ne.symm other)
      rw [Option.toList_some, lastRecording?_append_of_silent others step.not_hasRecorded
        (fun _ _ _ _ recorded => (silent event rfl recorded).1) quiet]

/-- When the write of a recording lands, its count is the last one that records, or another one
after it was so already. -/
theorem Step.lastRecording?_of_landed {event count : Event}
    (step : Step tracker allowed system (some event) next) (earlier : List Event)
    {later : List Event}
    (same : count.thread = event.thread) (updates : event.request.isCount = false)
    (last : ∀ other ∈ later, other.thread = count.thread → other.request.isCount = false)
    (records : count.records (next.hasRecorded id) id later = true) :
    lastRecording? (next.hasRecorded id) id (earlier ++ count :: later ++ [event]) = some count ∨
      ∃ latest ∈ later, lastRecording? (system.hasRecorded id) id (earlier ++ count :: later) =
        some latest := by
  have tail : lastRecording? (next.hasRecorded id) id (later ++ [event]) =
      lastRecording? (system.hasRecorded id) id later := by
    refine lastRecording?_append_of_silent
      (fun number other => step.hasRecorded_other (by rintro _ ⟨⟩; exact Ne.symm other))
      step.not_hasRecorded (fun other held own counts => ?_) (by simp [Event.records, updates])
    rw [last other held (own.trans same.symm)] at counts
    cases counts
  have still : count.records (next.hasRecorded id) id (later ++ [event]) = true := by
    simpa [Event.records, updates] using records
  cases found : lastRecording? (system.hasRecorded id) id later with
  | none =>
      refine .inl ?_
      rw [List.append_assoc]
      exact lastRecording?_append_of_some (by simp [lastRecording?, tail, found, still])
  | some latest =>
      exact .inr ⟨latest, mem_of_lastRecording? found, lastRecording?_append_of_some
        (by simp [lastRecording?, found])⟩

end GolfProgress
