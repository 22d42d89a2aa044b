import GolfProgress.Proofs.BriskRuns
import GolfProgress.Proofs.Evolution
import GolfProgress.Proofs.Recordings
import GolfProgress.Proofs.SessionCounts
import Mathlib.Data.List.Basic

/-!
# Effort is a function of the session log

The effort of a record is the curve at one number of sessions: those linked to it that the last
recording of effort has counted (`sessionsRecorded`).  A recording counts when it has succeeded
and found the record unresolved; the sessions are those of its last count, since an earlier one
was outrun.

Two things are kept beside this by every step (`System.Trained`).  What an edit has read is not
above the stored effort, and a recording that is about to write has counted more than the stored
effort stands for, so no other recording can have counted later than it.  When its write lands
it is therefore the last one, and when there is nothing to write, the stored effort is already
what the sessions come to.
-/

set_option autoImplicit false

namespace GolfProgress

variable {tracker : Tracker} {allowed : Workspace → Workspace → Prop}
  {property : PhaseProperty tracker} {system next start middle finish : System}
  {event? : Option Event} {events later : List Event} {id : Uuid} {since : Instant}

/-! ## Logs that grow -/

/-- What may befall a workspace in which sessions are only added to the log. -/
structure Workspace.Accrued (old new : Workspace) : Prop where
  disturbed : old.Disturbed new
  logged : old.sessions.entries.Sublist new.sessions.entries

/-- A workspace with one more entry in its session log. -/
def Workspace.log (workspace : Workspace) (entry : SessionEntry) : Workspace :=
  { workspace with sessions := workspace.sessions.record entry }

theorem Workspace.accrued_log (workspace : Workspace) (entry : SessionEntry) :
    workspace.Accrued (workspace.log entry) :=
  ⟨⟨rfl, fun alone => alone⟩, List.sublist_append_left _ _⟩

theorem Step.logged (step : Step tracker Workspace.Accrued system event? next) :
    system.workspace.sessions.entries.Sublist next.workspace.sessions.entries := by
  cases event? with
  | none =>
      cases step with
      | begin operation => exact List.Sublist.refl _
      | disturb accrued => exact accrued.logged
  | some event =>
      obtain ⟨before, after⟩ := step.event
      rw [← after, Event.after, Workspace.sessions_perform, before]

/-! ## What is kept of a record and of the edits about it -/

/-- A record has been trained no less when it is looked at again. -/
structure BreakingPoint.Trains (old new : BreakingPoint) : Prop where
  createdAt : new.createdAt = old.createdAt
  effort : old.effort.toNat ≤ new.effort.toNat
  final : old.isResolved = true → new.isResolved = true

theorem BreakingPoint.Trains.refl (point : BreakingPoint) : point.Trains point :=
  ⟨rfl, Nat.le_refl _, fun resolved => resolved⟩

theorem BreakingPoint.Trains.trans {first second third : BreakingPoint}
    (early : first.Trains second) (late : second.Trains third) : first.Trains third :=
  ⟨late.createdAt.trans early.createdAt, Nat.le_trans early.effort late.effort,
    fun resolved => late.final (early.final resolved)⟩

/-- The last count of a recording that is about to write what it comes to, which is more than the
effort of the record that it has read. -/
structure Event.Counts (tracker : Tracker) (system : System) (id : Uuid) (since : Instant)
    (count : Event) (later : List Event) (point : BreakingPoint) (patch : Patch) : Prop where
  counts : count.request.isCount = true
  last : ∀ other ∈ later, other.thread = count.thread → other.request.isCount = false
  writes : ∃ effort, patch = { effort := some effort } ∧
    effort.toNat = tracker.settings.effort.curve
      (sessionsIn (linkedSince id since count.before.sessions.entries)) ∧
    point.effort.toNat < effort.toNat
  kept : ∃ first stored, count.before.record? id = some first ∧
    system.record? id = some stored ∧ (first.isResolved = true → stored.isResolved = true)

/-- What is kept of an edit: the record that it carries has since been trained no less, and what
it is about to write it has counted. -/
structure Recorder (tracker : Tracker) (id : Uuid) (since : Instant) (events : List Event)
    (system : System) (number : Nat) (edit : Edit) (phase : (edit.loop tracker).Phase) :
    Prop where
  follows : Follows events system number edit phase
  read : edit.id = id → ∀ point, phase.point? = some point → point.id = id ∧
    ∃ stored, system.record? id = some stored ∧ point.Trains stored
  counted : ∀ left point decision yields changes,
    phase = .writing left point decision yields changes → edit = .recordEffort id →
    ∃ earlier count later, events = earlier ++ count :: later ∧ count.thread = number ∧
      count.Counts tracker system id since later point decision.patch

/-- What is kept of a record: its effort is what the sessions recorded come to, and the log has
grown with every call. -/
structure System.Trained (tracker : Tracker) (id : Uuid) (since : Instant) (events : List Event)
    (system : System) : Prop where
  alone : system.workspace.rivals = []
  stored : ∃ stored, system.record? id = some stored ∧ stored.createdAt = since ∧
    stored.effort.toNat = tracker.settings.effort.curve (sessionsRecorded system id since events)
  grown : events.Pairwise fun earlier later =>
    earlier.before.sessions.entries.Sublist later.before.sessions.entries
  logged : ∀ event ∈ events,
    event.before.sessions.entries.Sublist system.workspace.sessions.entries
  stand : system.Stand tracker (Recorder tracker id since events system)

/-- What a step makes of such a record. -/
def System.TrainsTo (tracker : Tracker) (id : Uuid) (since : Instant) (events : List Event)
    (system next : System) : Prop :=
  ∃ old new, system.record? id = some old ∧ next.record? id = some new ∧ old.Trains new ∧
    new.effort.toNat = tracker.settings.effort.curve (sessionsRecorded next id since events)

/-! ## What a step does to the record -/

/-- A call that has written is an update. -/
theorem Event.isUpdate_of_written? {event : Event} {record : BreakingPoint}
    (written : event.written? = some record) : event.request.isUpdate = true := by
  rcases event with ⟨number, operation, request, before⟩
  cases request with
  | update => rfl
  | get | list | count | latest => cases written

/-- Only recordings of effort write effort. -/
theorem Edit.Writes.effort_eq_none {edit : Edit} {point : BreakingPoint} {patch : Patch}
    {report : BreakingPoint → Report} (writes : edit.Writes tracker point patch report)
    (other : edit ≠ .recordEffort edit.id) : patch.effort = none := by
  cases writes with
  | effort id => exact absurd rfl other
  | proof | shortfall | transition => rfl

namespace System.Trained

variable {event : Event} {old new : BreakingPoint}

/-- The sessions recorded are among those logged. -/
theorem recorded_le (trained : system.Trained tracker id since events) :
    sessionsRecorded system id since events ≤
      sessionsIn (linkedSince id since system.workspace.sessions.entries) := by
  unfold sessionsRecorded loggedAtRecording
  split
  · next latest found =>
      exact sessionsIn_linkedSince_le (trained.logged latest (mem_of_lastRecording? found)) _ _
  · exact Nat.zero_le _

/-- Where neither the effort nor the sessions recorded change, the one still follows from the
other. -/
theorem keeps (trained : system.Trained tracker id since events)
    (before : system.record? id = some old) (after : next.record? id = some new)
    (trains : old.Trains new) (same : new.effort = old.effort)
    (recorded : sessionsRecorded next id since later = sessionsRecorded system id since events) :
    system.TrainsTo tracker id since later next := by
  obtain ⟨stored, found, -, effort⟩ := trained.stored
  obtain rfl := Option.some.inj (found.symm.trans before)
  exact ⟨stored, new, found, after, trains, by rw [same, recorded, effort]⟩

/-- A step that is no call of a recording leaves the effort as it is. -/
theorem of_other (trained : system.Trained tracker id since events)
    (step : Step tracker Workspace.Accrued system event? next)
    (brisk : Brisk (events ++ event?.toList))
    (other : ∀ event, event? = some event → event.operation ≠ .edit (.recordEffort id)) :
    system.TrainsTo tracker id since (events ++ event?.toList) next := by
  obtain ⟨old, found, -⟩ := trained.stored
  obtain ⟨new, after, change⟩ := step.becomes trained.stand trained.alone
    (fun _ _ accrued => accrued.disturbed) found
  have recorded : sessionsRecorded next id since (events ++ event?.toList) =
      sessionsRecorded system id since events := by
    refine step.sessionsRecorded_eq fun event occurs recorded => ?_
    subst occurs
    exact absurd (step.operation_of_hasRecorded recorded) (other event rfl)
  cases change with
  | kept => exact trained.keeps found after (.refl old) rfl recorded
  | bumped =>
      exact trained.keeps found after ⟨rfl, Nat.le_refl _, fun resolved => resolved⟩ rfl recorded
  | @landed event edit phase point _ patch report occurs operation named holds reads writes landing
      written =>
      subst occurs
      obtain rfl := holds.follows.basis reads brisk (Event.isUpdate_of_written? written)
        (named ▸ found) landing
      have quiet := writes.effort_eq_none fun same =>
        other event rfl (by rw [operation, same, named])
      have same : new.effort = old.effort := by
        rw [landing.written]
        exact congrArg (·.getD old.effort) quiet
      refine trained.keeps found after ⟨landing.identifies.createdAt, ?_, fun resolved => ?_⟩
        same recorded
      · exact Nat.le_of_eq (congrArg UInt8.toNat same.symm)
      · rw [writes.unresolved] at resolved
        cases resolved

end System.Trained

/-! ## What a recording does to it -/

/-- A loop that ends with a report after a count has counted and has nothing to write. -/
theorem WriteLoop.unchanged_of_counting {Result : Type} {loop : WriteLoop Result} {left : Nat}
    {point : BreakingPoint} {decide : UInt32 → Decision loop.Outcome}
    {planned : loop.plan point = .counted decide} {workspace : Workspace}
    (ended : ∃ report, (Phase.counting left point decide planned).after workspace =
      .ended (.ok report)) :
    ∃ sessions, workspace.sessions.count (.point point.id) point.createdAt = .ok sessions ∧
      (decide sessions).patch.isEmpty = true := by
  obtain ⟨report, ended⟩ := ended
  simp only [Phase.after] at ended
  split at ended
  · next sessions counted =>
      refine ⟨sessions, counted, ?_⟩
      unfold decided at ended
      split at ended
      · cases ended
      · next unchanged => simpa using unchanged
  · cases ended

/-- A recording with something to write has counted sessions that come to another effort. -/
theorem Tracker.effortDecision_of_changes {sessions : UInt32} {point : BreakingPoint}
    (changes : (tracker.effortDecision id point sessions).patch.isEmpty = false) :
    (tracker.effortDecision id point sessions).patch =
        { effort := some (tracker.settings.effort.effort sessions) } ∧
      tracker.settings.effort.effort sessions ≠ point.effort := by
  unfold effortDecision at changes ⊢
  by_cases resolved : point.isResolved = true
  · simp [resolved, Patch.isEmpty] at changes
  · by_cases same : tracker.settings.effort.effort sessions = point.effort
    · simp [resolved, same, Patch.isEmpty] at changes
    · simp [resolved, same]

/-- A recording with nothing to write about an unresolved record has counted sessions that come
to the effort of the record. -/
theorem Tracker.effort_of_unchanged {sessions : UInt32} {point : BreakingPoint}
    (unchanged : (tracker.effortDecision id point sessions).patch.isEmpty = true)
    (unresolved : point.isResolved = false) :
    tracker.settings.effort.effort sessions = point.effort := by
  unfold effortDecision at unchanged
  by_contra different
  simp [unresolved, different, Patch.isEmpty] at unchanged

/-- The count that a recording writes by is one that records, when the recording succeeds about an
unresolved record. -/
theorem Event.Counts.records {count : Event} {point stored : BreakingPoint} {patch : Patch}
    (counts : count.Counts tracker system id since later point patch)
    (found : system.record? id = some stored) (unresolved : stored.isResolved = false)
    (recorded : next.hasRecorded id count.thread = true) :
    count.records (next.hasRecorded id) id later = true := by
  obtain ⟨first, _, known, found', kept⟩ := counts.kept
  obtain rfl := Option.some.inj (found.symm.trans found')
  have early : first.isResolved = false := by
    rw [Bool.eq_false_iff] at unresolved ⊢
    exact fun resolved => unresolved (kept resolved)
  have silent : (later.all fun other =>
      other.thread != count.thread || !other.request.isCount) = true := by
    rw [List.all_eq_true]
    intro other held
    by_cases own : other.thread = count.thread
    · simp [counts.last other held own]
    · simp [own]
  simp [Event.records, counts.counts, recorded, known, early, silent]

theorem WriteLoop.answered_error_ne_ok {Result : Type} {loop : WriteLoop Result} (left : Nat)
    (decision : Decision loop.Outcome) (failure : StoreFailure) (report : Result) :
    answered left decision (.error failure) ≠ .ended (.ok report) := by
  intro ended
  cases failure with
  | versionConflict => cases left <;> cases ended
  | unavailable | notFound | invalidRecord => cases ended

namespace System.Trained

variable {event : Event} {old new : BreakingPoint}

/-- A call of a recording that reads the record leaves it as it is. -/
theorem of_same_record (trained : system.Trained tracker id since events)
    (same : next.record? = system.record?)
    (recorded : sessionsRecorded next id since later = sessionsRecorded system id since events) :
    system.TrainsTo tracker id since later next := by
  obtain ⟨stored, found, -⟩ := trained.stored
  exact trained.keeps found (same ▸ found) (.refl stored) rfl recorded

/-- **A recording that ends with its count has recorded what the record has already**, or it has
found the record resolved. -/
theorem of_count {left : Nat} {point : BreakingPoint}
    {decide : UInt32 → Decision ((Edit.recordEffort id).loop tracker).Outcome}
    {planned : ((Edit.recordEffort id).loop tracker).plan point = .counted decide}
    (trained : system.Trained tracker id since events)
    (step : Step tracker Workspace.Accrued system (some event) next)
    (acts : Acts tracker (Recorder tracker id since events system) system event next
      (.recordEffort id) (.counting left point decide planned)) :
    system.TrainsTo tracker id since (events ++ [event]) next := by
  obtain ⟨before, -⟩ := step.event
  have counts : event.request.isCount = true := by
    rw [← Option.some.inj acts.calls]
    rfl
  have reads : ∀ other expected patch, event.request ≠ .update other expected patch := by
    rw [← Option.some.inj acts.calls]
    simp [Tracker.countCall]
  have same : next.record? = system.record? :=
    congrArg Workspace.record? (step.workspace_of_reads reads)
  obtain rfl : tracker.effortDecision id point = decide := Plan.counted.inj planned
  obtain ⟨stored, found, created, effort⟩ := trained.stored
  obtain ⟨named, _, found', trains⟩ := acts.holds.read rfl point rfl
  obtain rfl := Option.some.inj (found.symm.trans found')
  have shown : (event.before.record? id).any (fun point => !point.isResolved) =
      !stored.isResolved := by
    rw [before, show system.workspace.record? id = some stored from found, Option.any_some]
  by_cases recorded : next.hasRecorded id event.thread = true ∧ stored.isResolved = false
  · obtain ⟨recorded, unresolved⟩ := recorded
    have records : event.records (next.hasRecorded id) id [] = true := by
      simp [Event.records, counts, recorded, shown, unresolved]
    refine ⟨stored, stored, found, same ▸ found, .refl stored, ?_⟩
    rw [sessionsRecorded, loggedAtRecording_of_last (lastRecording?_append_of_records records),
      before]
    -- the record was read unresolved, and its effort is what was counted
    obtain ⟨sessions, counted, unchanged⟩ :=
      WriteLoop.unchanged_of_counting (acts.hasRecorded_iff.mp recorded)
    have unresolved : point.isResolved = false := by
      rw [Bool.eq_false_iff] at unresolved ⊢
      exact fun resolved => unresolved (trains.final resolved)
    have reached := tracker.settings.effort.toNat_effort_of_count counted
    rw [Tracker.effort_of_unchanged unchanged unresolved, named, ← trains.createdAt, created,
      SessionLog.total_point] at reached
    have least := trains.effort
    have most := tracker.settings.effort.curve_mono trained.recorded_le
    omega
  · exact trained.of_same_record same (step.sessionsRecorded_eq fun _ occurs ends => by
      cases occurs
      refine ⟨counts, ?_⟩
      rw [shown]
      simpa using fun resolved => recorded ⟨ends, resolved⟩)

/-- A recording that reads goes on to count. -/
theorem of_reading {left : Nat} (trained : system.Trained tracker id since events)
    (step : Step tracker Workspace.Accrued system (some event) next)
    (acts : Acts tracker property system event next (.recordEffort id) (.reading left)) :
    system.TrainsTo tracker id since (events ++ [event]) next := by
  have reads : ∀ other expected patch, event.request ≠ .update other expected patch := by
    rw [← Option.some.inj acts.calls]
    simp
  have running : next.hasRecorded id event.thread ≠ true := by
    rw [Ne, acts.hasRecorded_iff]
    rintro ⟨report, ended⟩
    simp only [WriteLoop.Phase.after] at ended
    split at ended
    · next point _ =>
        have counts : ((Edit.recordEffort id).loop tracker).planned left point =
          .counting left point (tracker.effortDecision id point) rfl := rfl
        rw [counts] at ended
        cases ended
    · cases ended
    · cases ended
  exact trained.of_same_record (congrArg Workspace.record? (step.workspace_of_reads reads))
    (step.sessionsRecorded_eq fun _ occurs ends => by
      cases occurs
      exact absurd ends running)

/-- **A write that lands is that of the last recording**, and what it writes is what that has
counted. -/
theorem of_writing {left : Nat} {point : BreakingPoint}
    {decision : Decision ((Edit.recordEffort id).loop tracker).Outcome}
    {yields : (((Edit.recordEffort id).loop tracker).plan point).Yields decision}
    {changes : decision.patch.isEmpty = false}
    (trained : system.Trained tracker id since events)
    (step : Step tracker Workspace.Accrued system (some event) next)
    (brisk : Brisk (events ++ [event]))
    (acts : Acts tracker (Recorder tracker id since events system) system event next
      (.recordEffort id) (.writing left point decision yields changes)) :
    system.TrainsTo tracker id since (events ++ [event]) next := by
  obtain ⟨before, after⟩ := step.event
  have request : Call.update id point.version decision.patch = event.request :=
    Option.some.inj acts.calls
  have updates : event.request.isUpdate = true := by rw [← request]; rfl
  have uncounted : event.request.isCount = false := by rw [← request]; rfl
  have records : next.record? = event.after.record? := congrArg Workspace.record? after.symm
  rw [Event.after, before, ← request] at records
  have ends := acts.hasRecorded_iff
  change _ ↔ ∃ report, WriteLoop.answered left decision (system.workspace.perform
    (.update id point.version decision.patch)).1 = _ at ends
  have updated := Workspace.perform_update_updated trained.alone id point.version decision.patch
  rw [← records] at updated
  generalize (system.workspace.perform (.update id point.version decision.patch)).1 = reply
    at ends updated
  obtain ⟨old, found, created, effort⟩ := trained.stored
  have silent (failure : StoreFailure) (refused : reply = .error failure) :
      sessionsRecorded next id since (events ++ [event]) =
        sessionsRecorded system id since events :=
    step.sessionsRecorded_eq fun _ occurs recorded => by
      cases occurs
      obtain ⟨report, ended⟩ := ends.mp recorded
      rw [refused] at ended
      exact absurd ended (WriteLoop.answered_error_ne_ok left decision failure report)
  generalize stores : next.record? = record? at updated
  cases updated with
  | refused => exact trained.of_same_record stores (silent _ rfl)
  | @outrun _ stored _ found' changed =>
      obtain rfl := Option.some.inj (found.symm.trans found')
      have bumped : next.record? id = some old.bumped := by rw [stores, changed, if_pos rfl]
      exact trained.keeps found bumped ⟨rfl, Nat.le_refl _, fun resolved => resolved⟩ rfl
        (silent _ rfl)
  | @landed stored new _ found' landing changed =>
      obtain rfl := Option.some.inj (found.symm.trans found')
      obtain rfl := acts.holds.follows.basis rfl brisk updates found landing
      have unresolved := (Edit.writes_of_yields yields changes).unresolved
      obtain ⟨earlier, count, later, rfl, thread, counts⟩ :=
        acts.holds.counted left old decision yields changes rfl rfl
      obtain ⟨amount, patch, reached, more⟩ := counts.writes
      have written : new.effort = amount := by
        rw [landing.written, patch]
        rfl
      have records := counts.records found unresolved (thread ▸ ends.mpr ⟨_, rfl⟩)
      have trains : old.Trains new := by
        refine ⟨landing.identifies.createdAt, ?_, fun resolved => ?_⟩
        · rw [written]
          omega
        · rw [unresolved] at resolved
          cases resolved
      refine ⟨old, new, found, by rw [stores, changed, if_pos rfl], trains, ?_⟩
      rw [written]
      rcases step.lastRecording?_of_landed earlier thread uncounted counts.last records with
        latest | ⟨latest, held, before⟩
      · rw [sessionsRecorded, loggedAtRecording_of_last latest]
        exact reached
      · -- what was recorded later stands for more than the record has
        have grown : count.before.sessions.entries.Sublist latest.before.sessions.entries :=
          (List.pairwise_cons.mp (List.pairwise_append.mp trained.grown).2.1).1 latest held
        have more' := tracker.settings.effort.curve_mono
          (sessionsIn_linkedSince_le grown id since)
        rw [sessionsRecorded, loggedAtRecording_of_last before] at effort
        omega

/-- **With every step the effort stays what the sessions recorded come to.** -/
theorem trainsTo (trained : system.Trained tracker id since events)
    (step : Step tracker Workspace.Accrued system event? next)
    (brisk : Brisk (events ++ event?.toList)) :
    system.TrainsTo tracker id since (events ++ event?.toList) next := by
  by_cases recording : ∃ event, event? = some event ∧ event.operation = .edit (.recordEffort id)
  · obtain ⟨event, rfl, operation⟩ := recording
    obtain ⟨phase, acts⟩ := step.acts_of_edit trained.stand operation
    cases phase with
    | reading left => exact trained.of_reading step acts
    | counting left point decide planned => exact trained.of_count step acts
    | writing left point decision yields changes => exact trained.of_writing step brisk acts
    | ended result => cases acts.calls
  · exact trained.of_other step brisk fun event occurs operation =>
      recording ⟨event, occurs, operation⟩

end System.Trained

/-! ## What a step does to the edits -/

/-- A loop that goes on from a count to a write has counted what it is about to write by. -/
theorem WriteLoop.counted_of_writing {Result : Type} {loop : WriteLoop Result} {left more : Nat}
    {point carried : BreakingPoint} {decide : UInt32 → Decision loop.Outcome}
    {planned : loop.plan point = .counted decide} {workspace : Workspace}
    {decision : Decision loop.Outcome} {yields : (loop.plan carried).Yields decision}
    {changes : decision.patch.isEmpty = false}
    (goesOn : (Phase.counting left point decide planned).after workspace =
      .writing more carried decision yields changes) :
    carried = point ∧ ∃ sessions,
      workspace.sessions.count (.point point.id) point.createdAt = .ok sessions ∧
      decision = decide sessions := by
  simp only [Phase.after] at goesOn
  split at goesOn
  · next sessions counted =>
      unfold decided at goesOn
      split at goesOn
      · cases goesOn
        exact ⟨rfl, sessions, counted, rfl⟩
      · cases goesOn
  · cases goesOn

namespace Recorder

variable {number : Nat} {edit : Edit} {phase : (edit.loop tracker).Phase}

/-- The calls of others leave what is kept of an edit. -/
theorem waits (recorder : Recorder tracker id since events system number edit phase)
    (trained : system.Trained tracker id since events)
    (step : Step tracker Workspace.Accrued system event? next)
    (onward : system.TrainsTo tracker id since later next)
    (other : ∀ event, event? = some event → event.thread ≠ number) :
    Recorder tracker id since (events ++ event?.toList) next number edit phase := by
  obtain ⟨old, new, before, after, trains, -⟩ := onward
  refine ⟨recorder.follows.waits step trained.stand trained.alone
    (fun _ _ accrued => accrued.disturbed) other, fun named point carries => ?_, ?_⟩
  · obtain ⟨same, stored, found, further⟩ := recorder.read named point carries
    obtain rfl := Option.some.inj (before.symm.trans found)
    exact ⟨same, new, after, further.trans trains⟩
  · intro left point decision yields changes writing recording
    obtain ⟨earlier, count, rest, rfl, thread, counts, last, writes, first, stored, known, found,
      kept⟩ := recorder.counted left point decision yields changes writing recording
    obtain rfl := Option.some.inj (before.symm.trans found)
    refine ⟨earlier, count, rest ++ event?.toList, by simp, thread, counts, ?_, writes, first, new,
      known, after, fun resolved => trains.final (kept resolved)⟩
    intro call held same
    rcases List.mem_append.mp held with inside | new
    · exact last call inside same
    · exact absurd (same.trans thread) (other call (Option.mem_toList.mp new))

/-- A recording that goes on from its count to a write has counted more than it has read. -/
theorem counts_of_writing {event : Event} {left more : Nat} {point carried : BreakingPoint}
    {decide : UInt32 → Decision ((Edit.recordEffort id).loop tracker).Outcome}
    {planned : ((Edit.recordEffort id).loop tracker).plan point = .counted decide}
    {decision : Decision ((Edit.recordEffort id).loop tracker).Outcome}
    {yields : (((Edit.recordEffort id).loop tracker).plan carried).Yields decision}
    {changes : decision.patch.isEmpty = false}
    (recorder : Recorder tracker id since events system number (.recordEffort id)
      (.counting left point decide planned))
    (trained : system.Trained tracker id since events)
    (step : Step tracker Workspace.Accrued system (some event) next)
    (onward : system.TrainsTo tracker id since later next)
    (calls : (WriteLoop.Phase.counting left point decide planned).request? = some event.request)
    (writing : (WriteLoop.Phase.counting left point decide planned).after system.workspace =
      .writing more carried decision yields changes) :
    event.Counts tracker next id since [] carried decision.patch := by
  obtain rfl : tracker.effortDecision id point = decide := Plan.counted.inj planned
  obtain ⟨rfl, sessions, counted, rfl⟩ := WriteLoop.counted_of_writing writing
  obtain ⟨found, -⟩ := step.event
  obtain ⟨old, new, before, after, trains, -⟩ := onward
  obtain ⟨same, stored, found', further⟩ := recorder.read rfl carried rfl
  obtain rfl := Option.some.inj (before.symm.trans found')
  obtain ⟨stored', found'', created, effort⟩ := trained.stored
  obtain rfl := Option.some.inj (before.symm.trans found'')
  obtain ⟨patch, different⟩ := Tracker.effortDecision_of_changes changes
  have reached := tracker.settings.effort.toNat_effort_of_count counted
  rw [same, ← further.createdAt, created, ← found, SessionLog.total_point] at reached
  -- the record was at most at what was recorded, which is not more than is counted now
  have least := further.effort
  have most := tracker.settings.effort.curve_mono trained.recorded_le
  rw [← found] at most
  have apart : (tracker.settings.effort.effort sessions).toNat ≠ carried.effort.toNat :=
    fun equal => different (UInt8.toNat_inj.mp equal)
  have counts : event.request.isCount = true := by
    rw [← Option.some.inj calls]
    rfl
  exact ⟨counts, by simp, ⟨_, patch, reached, by omega⟩, old, new, found ▸ before, after,
    trains.final⟩

/-- An edit that acts keeps what it has read and counted. -/
theorem acts {event : Event}
    (recorder : Recorder tracker id since events system event.thread edit phase)
    (trained : system.Trained tracker id since events)
    (step : Step tracker Workspace.Accrued system (some event) next)
    (onward : system.TrainsTo tracker id since later next)
    (calls : phase.request? = some event.request) :
    Recorder tracker id since (events ++ [event]) next event.thread edit
      (phase.after system.workspace) := by
  obtain ⟨old, new, before, after, trains, effort⟩ := onward
  refine ⟨recorder.follows.acts step calls, fun named point carries => ?_, ?_⟩
  · rcases WriteLoop.point?_after carries with earlier | ⟨-, read⟩
    · obtain ⟨same, stored, found, further⟩ := recorder.read named point earlier
      obtain rfl := Option.some.inj (before.symm.trans found)
      exact ⟨same, new, after, further.trans trains⟩
    · rw [edit.id_loop, named] at read
      have found : system.record? id = some point := Workspace.record?_of_get read
      obtain rfl := Option.some.inj (before.symm.trans found)
      exact ⟨BreakingPointStore.id_of_find? found, new, after, trains⟩
  · rintro left point decision yields changes writing rfl
    cases phase with
    | ended result => cases calls
    | writing fewer other earlier yields' changes' =>
        have dropped : ((WriteLoop.Phase.writing fewer other earlier yields' changes').after
            system.workspace).point? = none := WriteLoop.point?_answered fewer earlier _
        rw [writing] at dropped
        cases dropped
    | reading fewer =>
        simp only [WriteLoop.Phase.after] at writing
        split at writing
        · next read _ =>
            have counts : ((Edit.recordEffort id).loop tracker).planned fewer read =
              .counting fewer read (tracker.effortDecision id read) rfl := rfl
            rw [counts] at writing
            cases writing
        · cases writing
        · cases writing
    | counting fewer read decide planned =>
        exact ⟨events, event, [], rfl, rfl,
          recorder.counts_of_writing trained step ⟨old, new, before, after, trains, effort⟩ calls
            writing⟩

end Recorder

/-! ## Runs -/

namespace System.Trained

/-- **A step keeps a record trained by the sessions recorded.** -/
theorem step (trained : system.Trained tracker id since events)
    (step : Step tracker Workspace.Accrued system event? next)
    (brisk : Brisk (events ++ event?.toList)) :
    next.Trained tracker id since (events ++ event?.toList) := by
  have onward := trained.trainsTo step brisk
  have found : ∀ event ∈ event?.toList, event.before = system.workspace := by
    intro event occurs
    obtain rfl := Option.mem_toList.mp occurs
    exact step.event.1
  refine ⟨step.alone (fun _ _ accrued => accrued.disturbed) trained.alone, ?_, ?_, ?_, ?_⟩
  · obtain ⟨old, new, before, after, trains, effort⟩ := onward
    obtain ⟨stored, found, created, -⟩ := trained.stored
    obtain rfl := Option.some.inj (before.symm.trans found)
    exact ⟨new, after, trains.createdAt.trans created, effort⟩
  · refine List.pairwise_append.mpr ⟨trained.grown, ?_, fun early held late occurs => ?_⟩
    · cases event? <;> simp
    · rw [found late occurs]
      exact trained.logged early held
  · intro event held
    rcases List.mem_append.mp held with early | late
    · exact (trained.logged event early).trans step.logged
    · rw [found event late]
      exact step.logged
  · refine step.stand trained.stand (fun number edit _ => ?_) ?_ ?_
    · have carries := edit.point?_opening tracker
      refine ⟨fun point carried => ?_, fun _ point carried => ?_, ?_⟩
      · rw [carries] at carried
        cases carried
      · rw [carries] at carried
        cases carried
      · intro left point decision yields changes writing
        rw [writing] at carries
        cases carries
    · rintro number edit phase request rfl calls recorder
      exact recorder.acts trained step onward calls
    · exact fun number edit phase other recorder => recorder.waits trained step onward other

/-- A run keeps a record trained by the sessions recorded, and never lowers its effort. -/
theorem run (trained : middle.Trained tracker id since events)
    (run : Run tracker Workspace.Accrued middle later finish) (brisk : Brisk (events ++ later)) :
    finish.Trained tracker id since (events ++ later) ∧
      ∃ old new, middle.record? id = some old ∧ finish.record? id = some new ∧ old.Trains new := by
  induction run with
  | refl =>
      obtain ⟨stored, found, -⟩ := trained.stored
      rw [List.append_nil]
      exact ⟨trained, stored, stored, found, found, .refl stored⟩
  | step _ last ih =>
      rw [← List.append_assoc] at brisk ⊢
      obtain ⟨reached, old, stored, before, between, early⟩ := ih brisk.of_append
      obtain ⟨stored', new, between', after, late, -⟩ := reached.trainsTo last brisk
      obtain rfl := Option.some.inj (between.symm.trans between')
      exact ⟨reached.step last brisk, old, new, before, after, early.trans late⟩

/-- A record without effort is trained by no sessions. -/
theorem idle {workspace : Workspace} {first : BreakingPoint} (alone : workspace.rivals = [])
    (found : workspace.record? id = some first) (fresh : first.effort = 0) :
    (System.idle workspace).Trained tracker id first.createdAt [] where
  alone := alone
  stored := ⟨first, found, rfl, by
    rw [fresh]
    exact (tracker.settings.effort.curve_zero).symm⟩
  grown := .nil
  logged := by simp
  stand := .idle workspace

end System.Trained

/-- A run that starts with a record without effort and in which sessions are only added to the
log. -/
structure TrainingRun (tracker : Tracker) (workspace : Workspace) (id : Uuid)
    (first : BreakingPoint) (events : List Event) (finish : System) : Prop where
  alone : workspace.rivals = []
  found : workspace.record? id = some first
  fresh : first.effort = 0
  run : Run tracker Workspace.Accrued (.idle workspace) events finish
  brisk : Brisk events

theorem TrainingRun.trained {workspace : Workspace} {first : BreakingPoint}
    (training : TrainingRun tracker workspace id first events finish) :
    finish.Trained tracker id first.createdAt events :=
  ((System.Trained.idle training.alone training.found training.fresh).run training.run
    training.brisk).1

/-- **Effort is a function of the session log.**  A record starts without effort, sessions are
only added to the log, and operations run in any order or at once.  Then at every moment the
effort of the record is so much for each of the sessions linked to it since its creation that
were logged when its effort was last recorded with success before it was resolved, up to the
ceiling of the settings and to 150; so it is never lower at a later moment.

It depends on nothing else: a run with other operations, other readings and another log comes to
the same effort when it was recorded with the same sessions linked to the record since its
creation.  The effort of every count is that of the same number of sessions. -/
theorem effort_of_sessions (tracker : Tracker) {workspace : Workspace} {id : Uuid}
    {first : BreakingPoint} {events later : List Event} {middle finish : System}
    (alone : workspace.rivals = []) (found : workspace.record? id = some first)
    (fresh : first.effort = 0)
    (run : Run tracker Workspace.Accrued (.idle workspace) events middle)
    (rest : Run tracker Workspace.Accrued middle later finish) (brisk : Brisk (events ++ later)) :
    (∃ point further, middle.record? id = some point ∧ finish.record? id = some further ∧
      point.effort.toNat = min (tracker.settings.effort.perSession.toNat *
          sessionsRecorded middle id first.createdAt events)
        (min tracker.settings.effort.ceiling.toNat 150) ∧
      point.effort.toNat ≤ further.effort.toNat ∧ further.effort.toNat ≤ 150 ∧
      ∀ {other : Tracker} {workspace' : Workspace} {first' : BreakingPoint} {events' : List Event}
        {finish' : System}, TrainingRun other workspace' id first' events' finish' →
        other.settings.effort = tracker.settings.effort →
        linkedSince id first'.createdAt (loggedAtRecording finish' id events') =
          linkedSince id first.createdAt (loggedAtRecording middle id events) →
        ∃ point', finish'.record? id = some point' ∧ point'.effort = point.effort) ∧
    ∀ sessions, (tracker.settings.effort.effort sessions).toNat =
      min (tracker.settings.effort.perSession.toNat * sessions.toNat)
        (min tracker.settings.effort.ceiling.toNat 150) := by
  have training : TrainingRun tracker workspace id first events middle :=
    ⟨alone, found, fresh, run, brisk.of_append⟩
  obtain ⟨point, stored, -, effort⟩ := training.trained.stored
  obtain ⟨reached, old, further, before, after, trains⟩ := training.trained.run rest brisk
  obtain rfl := Option.some.inj (before.symm.trans stored)
  obtain ⟨ending, found', -, effort'⟩ := reached.stored
  obtain rfl := Option.some.inj (found'.symm.trans after)
  refine ⟨⟨old, ending, before, after, effort, trains.effort, ?_, ?_⟩,
    tracker.settings.effort.toNat_effort⟩
  · rw [effort']
    exact tracker.settings.effort.curve_le _
  · intro other workspace' first' events' finish' training' settings linked
    obtain ⟨point', stored', -, effort'⟩ := training'.trained.stored
    refine ⟨point', stored', UInt8.toNat_inj.mp ?_⟩
    rw [effort', effort, settings, sessionsRecorded, sessionsRecorded, linked]

namespace Race

/-- The race's workspace in which the player has trained for other things too: before the record
was made, for another record and for none. -/
def shared : Workspace :=
  { workspace with sessions := { entries :=
      [⟨⟨2⟩, some carry, ⟨⟨2026, 5, 31, by decide⟩, 0, 0⟩, 20⟩, ⟨⟨2⟩, some ⟨3⟩, ⟨today, 0, 0⟩, 7⟩]
        ++ workspace.sessions.entries ++ [⟨⟨2⟩, none, ⟨today, 0, 0⟩, 5⟩] } }

/-- The race in that workspace. -/
def raced : List Event × System :=
  System.play (Race.tracker 3) (.idle shared) moves

/-- Its end with four more sessions in the log. -/
def trained : System :=
  { raced.2 with workspace := raced.2.workspace.log ⟨⟨2⟩, some carry, ⟨today, 0, 0⟩, 4⟩ }

/-- The effort is recorded once more. -/
def again : List Move :=
  [.begin (.edit (.recordEffort carry)), .call 2, .call 2, .call 2]

/-- The effort is recorded with nobody else about, where only the record was trained for. -/
def quiet : List Event × System :=
  play 3 (.begin (.edit (.recordEffort carry)) :: List.replicate 3 (.call 0))

theorem quiet_training :
    TrainingRun (Race.tracker 3) workspace carry record quiet.1 quiet.2 where
  alone := rfl
  found := by decide +kernel
  fresh := by decide +kernel
  run := run Workspace.Accrued 3 _
  brisk := Brisk.of_length_lt (by decide +kernel)

end Race

/-- Eight sessions make for an effort of forty, though the player has trained for other things
and a benchmark outruns the recording: as much as where nothing else was logged and nobody else
was about.  Four more, once they are recorded, make for an effort of sixty. -/
theorem effort_of_sessions_race :
    Race.shared.record? Race.carry = some Race.record ∧ Race.record.effort = 0 ∧
    sessionsRecorded Race.raced.2 Race.carry Race.record.createdAt Race.raced.1 = 8 ∧
    ∃ point further alike,
      Race.raced.2.record? Race.carry = some point ∧ point.effort.toNat = 40 ∧
      (Race.trained.play (Race.tracker 3) Race.again).2.record? Race.carry = some further ∧
      further.effort.toNat = 60 ∧ point.effort.toNat ≤ further.effort.toNat ∧
      Race.quiet.2.record? Race.carry = some alike ∧ alike.effort = point.effort := by
  have alone : Race.shared.rivals = [] := rfl
  have found : Race.shared.record? Race.carry = some Race.record := by decide +kernel
  have fresh : Race.record.effort = 0 := by decide +kernel
  have recorded : sessionsRecorded Race.raced.2 Race.carry Race.record.createdAt
      Race.raced.1 = 8 := by decide +kernel
  have logged : Run (Race.tracker 3) Workspace.Accrued Race.raced.2 [] Race.trained :=
    .step .refl (.disturb (Workspace.accrued_log _ _))
  have rest := logged.append (.of_play (Race.tracker 3) Workspace.Accrued Race.trained Race.again)
  have run : Run (Race.tracker 3) Workspace.Accrued (.idle Race.shared) Race.raced.1
      Race.raced.2 := .of_play _ _ _ _
  have few : (Race.raced.1 ++
      ([] ++ (Race.trained.play (Race.tracker 3) Race.again).1)).length < UInt64.size / 2 := by
    decide +kernel
  obtain ⟨⟨point, further, middle, finish, effort, grows, -, alike⟩, -⟩ :=
    effort_of_sessions (Race.tracker 3) alone found fresh run rest (Brisk.of_length_lt few)
  have last : ((Race.trained.play (Race.tracker 3) Race.again).2.record? Race.carry).map
      (fun point => point.effort.toNat) = some 60 := by decide +kernel
  rw [finish] at last
  have worth : min ((Race.tracker 3).settings.effort.perSession.toNat * 8)
      (min (Race.tracker 3).settings.effort.ceiling.toNat 150) = 40 := by decide +kernel
  rw [recorded, worth] at effort
  have linked : linkedSince Race.carry Race.record.createdAt
      (loggedAtRecording Race.quiet.2 Race.carry Race.quiet.1) =
        linkedSince Race.carry Race.record.createdAt
          (loggedAtRecording Race.raced.2 Race.carry Race.raced.1) := by decide +kernel
  obtain ⟨other, quiet, same⟩ := alike Race.quiet_training rfl linked
  exact ⟨found, fresh, recorded, point, further, other, middle, effort, finish,
    Option.some.inj last, grows, quiet, same⟩

end GolfProgress
