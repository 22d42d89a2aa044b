import GolfProgress.Proofs.Commits
import GolfProgress.Proofs.Solo

/-!
# Concurrent edits are serializable

On an available workspace that nothing else disturbs, edits that run at once do the
same as the edits that commit a write, run one after another in the order of their
commits (`serializable`): the workspace at the end is the same, and so is the result
of each edit that commits.  An edit that ends without a write has changed nothing; it
returns what it would return alone in the workspace that it last read, or it reports
a conflict.

The proof runs beside each edit the same edit alone.  In every phase that the edit is
in, the edit alone would have got into the same phase in every workspace that has the
record which the phase carries (`Replays.pending`), among them the one that was read
last and, because versions identify records, the one in which a write lands.
-/

set_option autoImplicit false

namespace GolfProgress

/-! ## The last read of a thread -/

/-- Whether a call reads a record. -/
def Call.isRead : Call → Bool
  | .get _ => true
  | _ => false

/-- The workspace in which a thread has last read a record. -/
def lastRead? (number : Nat) (events : List Event) : Option Workspace :=
  (events.filter fun event => event.thread == number && event.request.isRead).getLast?.map
    Event.before

section Reads

variable {event : Event} {event? : Option Event} {number : Nat}

theorem lastRead?_read (events : List Event) (same : event.thread = number)
    (reads : event.request.isRead = true) :
    lastRead? number (events ++ [event]) = some event.before := by
  simp [lastRead?, same, reads]

/-- Calls of other threads and calls that read no record are no reads of a thread. -/
theorem lastRead?_append (events : List Event) (event? : Option Event)
    (other : ∀ event, event? = some event →
      event.thread ≠ number ∨ event.request.isRead = false) :
    lastRead? number (events ++ event?.toList) = lastRead? number events := by
  cases event? with
  | none => simp
  | some event => rcases other event rfl with other | other <;> simp [lastRead?, other]

end Reads

/-! ## An edit and the same edit alone -/

/-- A workspace in which an edit, alone, gets into a phase. -/
structure Fits {tracker : Tracker} (sessions : SessionLog) (edit : Edit)
    (phase : (edit.loop tracker).Phase) (workspace : Workspace) : Prop where
  available : workspace.Available
  sessions : workspace.sessions = sessions
  record : ∀ point, phase.point? = some point → workspace.record? edit.id = some point

/-- The failure of an edit that has used up its attempts. -/
def Edit.exhausted (tracker : Tracker) (edit : Edit) : Failure :=
  .conflict edit.id.toText tracker.maxAttempts

/-- What the calls of a run up to now make of the phase of an edit. -/
inductive Replays (tracker : Tracker) (start : Workspace) (events : List Event) (number : Nat)
    (edit : Edit) : (edit.loop tracker).Phase → Prop where
  /-- The edit goes on.  Alone it would get into the same phase, also in the workspace
  that it last read. -/
  | pending {phase : (edit.loop tracker).Phase} {request : Call} {attempts : Nat}
      (calls : phase.request? = some request) (uncommitted : number ∉ committers events)
      (program : edit.program tracker = (edit.loop tracker).remaining (attempts + 1))
      (agrees : ∀ workspace, Fits start.sessions edit phase workspace →
        phase.program.run workspace = (edit.program tracker).run workspace)
      (rooted : ∀ point, phase.point? = some point →
        ∃ root, lastRead? number events = some root ∧ Fits start.sessions edit phase root) :
      Replays tracker start events number edit phase
  /-- The edit has committed. -/
  | committed {result : Except Failure Report} (commits : number ∈ committers events) :
      Replays tracker start events number edit (.ended result)
  /-- The edit has ended without a write. -/
  | settled {result : Except Failure Report} (uncommitted : number ∉ committers events)
      (returns : result = .error (edit.exhausted tracker) ∨
        (edit.program tracker).run ((lastRead? number events).getD start) =
          (result, (lastRead? number events).getD start)) :
      Replays tracker start events number edit (.ended result)

section Waiting

variable {tracker : Tracker} {start : Workspace} {events : List Event} {number : Nat} {edit : Edit}

/-- An edit that begins would begin so alone. -/
theorem Replays.opening (uncommitted : number ∉ committers events) :
    Replays tracker start events number edit (edit.opening tracker) := by
  have program := edit.program_opening tracker
  have carries := edit.point?_opening tracker
  cases calls : (edit.opening tracker).request? with
  | none =>
      obtain ⟨result, ended⟩ := WriteLoop.ended_of_request? calls
      rw [ended] at program ⊢
      refine .settled uncommitted (.inr ?_)
      rw [← program]
      rfl
  | some request =>
      have attempts : ∃ attempts,
          edit.program tracker = (edit.loop tracker).remaining (attempts + 1) := by
        rw [← program]
        unfold Edit.opening at calls ⊢
        split at calls
        · cases calls
        · generalize tracker.maxAttempts.toNat = attempts at calls ⊢
          cases attempts with
          | zero => cases calls
          | succ attempts => exact ⟨attempts, rfl⟩
      obtain ⟨attempts, remaining⟩ := attempts
      refine .pending calls uncommitted remaining (fun _ _ => by rw [program]) ?_
      intro point carried
      rw [carries] at carried
      cases carried

/-- The calls of other threads change nothing for an edit. -/
theorem Replays.waits {phase : (edit.loop tracker).Phase} {event? : Option Event}
    (replays : Replays tracker start events number edit phase)
    (other : ∀ event, event? = some event → event.thread ≠ number) :
    Replays tracker start (events ++ event?.toList) number edit phase := by
  have last : lastRead? number (events ++ event?.toList) = lastRead? number events :=
    lastRead?_append events event? fun event occurs => .inl (other event occurs)
  have stillNot (uncommitted : number ∉ committers events) :
      number ∉ committers (events ++ event?.toList) :=
    not_mem_committers_append uncommitted event? fun event occurs same =>
      absurd same (other event occurs)
  cases replays with
  | pending calls uncommitted program agrees rooted =>
      exact .pending calls (stillNot uncommitted) program agrees (last ▸ rooted)
  | committed commits => exact .committed (mem_committers_append commits)
  | settled uncommitted returns => exact .settled (stillNot uncommitted) (last ▸ returns)

end Waiting

section Acting

variable {tracker : Tracker} {start root : Workspace} {system : System} {events : List Event}
  {number attempts : Nat} {edit : Edit} {phase : (edit.loop tracker).Phase} {request : Call}

/-- The phase that an edit gets into by a read or a count, it would also get into alone. -/
theorem Replays.read (calls : phase.request? = some request)
    (reads : ∀ id expected patch, request ≠ .update id expected patch)
    (uncommitted : number ∉ committers events)
    (program : edit.program tracker = (edit.loop tracker).remaining (attempts + 1))
    (agrees : ∀ workspace, Fits start.sessions edit phase workspace →
      phase.program.run workspace = (edit.program tracker).run workspace)
    (last : lastRead? number events = some root) (fits : Fits start.sessions edit phase root) :
    Replays tracker start events number edit (phase.after root) := by
  have unchanged : ∀ workspace : Workspace, (workspace.perform request).2 = workspace :=
    fun workspace => Workspace.perform_of_not_update reads
  have carried : ∀ point, (phase.after root).point? = some point →
      root.record? edit.id = some point := by
    intro point carries
    rcases WriteLoop.point?_after carries with before | ⟨-, read⟩
    · exact fits.record point before
    · rw [edit.id_loop] at read
      exact Workspace.record?_of_get read
  cases goesOn : (phase.after root).request? with
  | none =>
      obtain ⟨result, ended⟩ := WriteLoop.ended_of_request? goesOn
      have alone := agrees root fits
      rw [WriteLoop.run_program calls, unchanged, ended] at alone
      rw [ended]
      refine .settled uncommitted (.inr ?_)
      rw [last]
      exact alone.symm
  | some next =>
      obtain ⟨point, carries⟩ := WriteLoop.carries_after calls reads goesOn
      refine .pending goesOn uncommitted program (fun workspace after => ?_)
        fun _ _ => ⟨root, last, fits.available, fits.sessions, carried⟩
      have record : root.record? edit.id = workspace.record? edit.id :=
        (carried point carries).trans (after.record point carries).symm
      have before : Fits start.sessions edit phase workspace :=
        ⟨after.available, after.sessions, fun point carries =>
          record ▸ fits.record point carries⟩
      rw [← agrees workspace before, WriteLoop.run_program calls, unchanged,
        WriteLoop.after_eq phase fits.available after.available (edit.id_loop ▸ record)
          (fits.sessions.trans after.sessions.symm)]

section Writing

variable {left : Nat} {point : BreakingPoint} {decision : Decision (edit.loop tracker).Outcome}
  {yields : ((edit.loop tracker).plan point).Yields decision}
  {changes : decision.patch.isEmpty = false}

/-- An edit whose write lands ends, and does what it would do alone: what lands meets the
record that was read. -/
theorem Replays.lands (available : system.workspace.Available)
    (sessions : system.workspace.sessions = start.sessions)
    (agrees : ∀ workspace,
      Fits start.sessions edit (.writing left point decision yields changes) workspace →
      (WriteLoop.Phase.writing left point decision yields changes).program.run workspace =
        (edit.program tracker).run workspace)
    (has : ∃ stored, system.Has edit.id point stored) {record : BreakingPoint}
    (replied : (system.workspace.perform
      (.update (edit.loop tracker).id point.version decision.patch)).1 = .ok record) :
    ∃ report,
      (WriteLoop.Phase.writing left point decision yields changes).after system.workspace =
        .ended (.ok report) ∧
      (edit.program tracker).run system.workspace = (.ok report, (system.workspace.perform
        (.update (edit.loop tracker).id point.version decision.patch)).2) := by
  obtain ⟨stored, has⟩ := has
  have found : system.workspace.record? (edit.loop tracker).id = some stored := by
    rw [edit.id_loop]
    exact has.found
  have met : stored.version = point.version := by
    rw [available.perform_update found] at replied
    split at replied
    · cases replied
    · next met => simpa using met
  -- the version identifies the record, so the edit alone would get here too
  obtain rfl := has.same met.symm
  have alone := agrees system.workspace
    ⟨available, sessions, by rintro _ ⟨⟩; exact has.found⟩
  rw [WriteLoop.run_program rfl] at alone
  have ended : (WriteLoop.Phase.writing left stored decision yields changes).after
      system.workspace =
        .ended (.ok ((edit.loop tracker).report ⟨decision.outcome, some record⟩)) := by
    simp only [WriteLoop.Phase.after, replied]
    rfl
  rw [ended] at alone
  exact ⟨_, ended, alone.symm⟩

/-- An edit whose write is refused begins anew when it was outrun, and otherwise ends
with what it would report alone in the workspace that it last read. -/
theorem Replays.refused (available : system.workspace.Available)
    (sessions : system.workspace.sessions = start.sessions)
    (program : edit.program tracker = (edit.loop tracker).remaining (attempts + 1))
    (agrees : ∀ workspace,
      Fits start.sessions edit (.writing left point decision yields changes) workspace →
      (WriteLoop.Phase.writing left point decision yields changes).program.run workspace =
        (edit.program tracker).run workspace)
    (uncommitted : number ∉ committers events) (last : lastRead? number events = some root)
    (fits : Fits start.sessions edit (.writing left point decision yields changes) root)
    (has : ∃ stored, system.Has edit.id point stored) {failure : StoreFailure}
    (replied : (system.workspace.perform
      (.update (edit.loop tracker).id point.version decision.patch)).1 = .error failure) :
    Replays tracker start events number edit
      ((WriteLoop.Phase.writing left point decision yields changes).after system.workspace) := by
  obtain ⟨stored, has⟩ := has
  have found : system.workspace.record? (edit.loop tracker).id = some stored := by
    rw [edit.id_loop]
    exact has.found
  by_cases met : stored.version = point.version
  · -- the record is the one that was read last, and the store refuses the patch
    obtain rfl := has.same met.symm
    have record : root.record? (edit.loop tracker).id =
        system.workspace.record? (edit.loop tracker).id := by
      rw [found, edit.id_loop]
      exact fits.record stored rfl
    have ended : ∃ result, (WriteLoop.Phase.writing left stored decision yields changes).after
        system.workspace = .ended result := WriteLoop.ended_of_met available found
    obtain ⟨result, ended⟩ := ended
    have alone := agrees root fits
    rw [WriteLoop.run_program rfl,
      fits.available.perform_of_error
        ((fits.available.reply_update available record _ _).trans replied),
      WriteLoop.after_eq _ fits.available available record (fits.sessions.trans sessions.symm),
      ended] at alone
    rw [ended]
    refine .settled uncommitted (.inr ?_)
    rw [last]
    exact alone.symm
  · -- another write came between
    rw [WriteLoop.resumed_of_outrun available found met]
    cases left with
    | zero =>
        refine .settled uncommitted (.inl ?_)
        rw [Edit.exhausted, edit.id_loop, edit.attempts_loop]
    | succ left =>
        refine .pending rfl uncommitted program (fun workspace fits => ?_)
          (by rintro _ ⟨⟩)
        rw [program]
        exact WriteLoop.run_remaining fits.available _ _

end Writing

/-- **An edit that acts either commits, and does what it would do alone, or it commits
nothing and gets into a phase that it would also get into alone.** -/
theorem Replays.acts (available : system.workspace.Available)
    (sessions : system.workspace.sessions = start.sessions)
    (has : ∀ point, phase.point? = some point → ∃ stored, system.Has edit.id point stored)
    (replays : Replays tracker start events number edit phase) (event : Event)
    (calls : phase.request? = some event.request) (thread : event.thread = number)
    (operation : event.operation = .edit edit) (before : event.before = system.workspace) :
    (event.commit? = none ∧
      Replays tracker start (events ++ [event]) number edit (phase.after system.workspace)) ∨
    (event.commit? = some (number, edit) ∧ ∃ report,
      phase.after system.workspace = .ended (.ok report) ∧
      (edit.program tracker).run system.workspace = (.ok report, event.after)) := by
  rcases event with ⟨number, operation, request, workspace⟩
  obtain ⟨rfl, rfl, rfl⟩ := And.intro thread (And.intro operation before)
  cases replays with
  | committed => cases calls
  | settled => cases calls
  | pending calls' uncommitted program agrees rooted =>
      have unwritten {event : Event} (thread : event.thread = number)
          (silent : event.commit? = none) : number ∉ committers (events ++ [event]) := by
        refine not_mem_committers_append uncommitted (some event) ?_
        rintro _ ⟨⟩ -
        exact silent
      cases phase with
      | reading left =>
          cases calls
          exact .inl ⟨rfl, .read rfl (by simp) (unwritten rfl rfl) program agrees
            (lastRead?_read events rfl rfl) ⟨available, sessions, by rintro _ ⟨⟩⟩⟩
      | counting left point decide planned =>
          cases calls
          obtain ⟨root, last, fits⟩ := rooted point rfl
          have same : (WriteLoop.Phase.counting left point decide planned).after root =
              (WriteLoop.Phase.counting left point decide planned).after system.workspace := by
            simp only [WriteLoop.Phase.after, fits.sessions, sessions]
          refine .inl ⟨rfl, ?_⟩
          rw [← same]
          refine .read rfl (by simp [Tracker.countCall]) (unwritten rfl rfl) program agrees
            (Eq.trans (lastRead?_append events (some _) ?_) last) fits
          rintro _ ⟨⟩
          exact .inr rfl
      | writing left point decision yields changes =>
          cases calls
          obtain ⟨root, last, fits⟩ := rooted point rfl
          cases replied : (system.workspace.perform
              (.update (edit.loop tracker).id point.version decision.patch)).1 with
          | ok record =>
              exact .inr ⟨Event.commit?_eq_some.mpr
                ⟨rfl, rfl, record, Event.written?_of_ok replied⟩,
                Replays.lands available sessions agrees (has point rfl) replied⟩
          | error failure =>
              have silent : Event.commit? ⟨number, .edit edit, .update (edit.loop tracker).id
                  point.version decision.patch, system.workspace⟩ = none :=
                Event.commit?_of_unwritten (Event.written?_of_error replied)
              refine .inl ⟨silent, .refused available sessions program agrees
                (unwritten rfl silent) (Eq.trans (lastRead?_append events (some _) ?_)
                  last) fits (has point rfl) replied⟩
              rintro _ ⟨⟩
              exact .inr rfl
      | ended result => cases calls

end Acting

/-! ## Steps and runs -/

/-- The edits that have committed, each with its report, do the same one after another:
run on the workspace of the start they give these reports and the workspace of the
system. -/
structure Serial (tracker : Tracker) (start : Workspace) (events : List Event)
    (outcomes : List ((Nat × Edit) × Report)) (system : System) : Prop where
  commits : outcomes.map Prod.fst = commits events
  runs : (Program.inTurn (outcomes.map fun outcome => outcome.1.2.program tracker)).run start =
    (outcomes.map fun outcome => .ok outcome.2, system.workspace)
  reported : ∀ outcome ∈ outcomes,
    system.threads[outcome.1.1]? = some ⟨.edit outcome.1.2, .done (.ok outcome.2)⟩

/-- What holds after some calls, beside the same edits alone. -/
structure Replay (tracker : Tracker) (start : Workspace) (events : List Event)
    (system : System) : Prop where
  available : system.workspace.Available
  sessions : system.workspace.sessions = start.sessions
  stand : system.Stand tracker fun number edit phase =>
    (∀ point, phase.point? = some point → ∃ stored, system.Has edit.id point stored) ∧
      Replays tracker start events number edit phase
  serial : ∃ outcomes, Serial tracker start events outcomes system
  committed : system.Committed events
  quiet : ∀ event ∈ events, event.thread ∉ committers events → event.after = event.before

variable {tracker : Tracker} {start : Workspace} {system next finish : System}
  {events : List Event} {event? : Option Event}

theorem Replay.idle (available : start.Available) : Replay tracker start [] (.idle start) where
  available := available
  sessions := rfl
  stand := .idle start
  serial := ⟨[], rfl, rfl, by simp⟩
  committed := ⟨List.nodup_nil, by simp [committers, commits]⟩
  quiet := by simp

/-- A call commits nothing and changes nothing, or it commits an edit that would do the
same alone. -/
theorem Replay.event {event : Event} (replay : Replay tracker start events system)
    (step : Step tracker (fun _ _ => False) system (some event) next) :
    (event.commit? = none ∧ next.workspace = system.workspace) ∨
    ∃ edit report, event.commit? = some (event.thread, edit) ∧
      next.threads[event.thread]? = some ⟨.edit edit, .done (.ok report)⟩ ∧
      (edit.program tracker).run system.workspace = (.ok report, next.workspace) := by
  obtain ⟨before, after⟩ := step.event
  have quiet (unwritten : event.written? = none) : next.workspace = system.workspace := by
    rw [← after, Event.after_of_unwritten (before ▸ replay.available) unwritten, before]
  rcases step.acts replay.stand with
    ⟨edit, phase, operation, calls, ⟨has, replays⟩, resumed⟩ | reads
  · rcases replays.acts replay.available replay.sessions has event calls rfl operation before with
      ⟨silent, -⟩ | ⟨commits, report, ended, alone⟩
    · refine .inl ⟨silent, quiet ?_⟩
      cases written : event.written? with
      | none => rfl
      | some record =>
          rw [Event.commit?_eq_some.mpr ⟨rfl, operation, record, written⟩] at silent
          cases silent
    · refine .inr ⟨edit, report, commits, ?_, after ▸ alone⟩
      rw [resumed, ended]
      rfl
  · have unwritten := Event.written?_of_reads reads
    exact .inl ⟨Event.commit?_of_unwritten unwritten, quiet unwritten⟩

theorem Step.workspace_of_none (step : Step tracker (fun _ _ => False) system none next) :
    next.workspace = system.workspace := by
  cases step with
  | begin operation => rfl
  | disturb disturbed => exact disturbed.elim

/-- The edits that have committed stay serial with a step. -/
theorem Replay.serial_step (replay : Replay tracker start events system)
    (step : Step tracker (fun _ _ => False) system event? next) :
    ∃ outcomes, Serial tracker start (events ++ event?.toList) outcomes next := by
  obtain ⟨outcomes, serial⟩ := replay.serial
  -- where nothing is committed and nothing changes, the outcomes are the same
  have same (silent : commits event?.toList = []) (unchanged : next.workspace = system.workspace) :
      ∃ outcomes, Serial tracker start (events ++ event?.toList) outcomes next := by
    refine ⟨outcomes, ?_, ?_, fun outcome member => step.ended_stays (serial.reported _ member)⟩
    · rw [commits_append, silent, List.append_nil, serial.commits]
    · rw [unchanged, serial.runs]
  cases event? with
  | none => exact same rfl step.workspace_of_none
  | some event =>
      rcases replay.event step with
        ⟨silent, unchanged⟩ | ⟨edit, report, committed, ended, alone⟩
      · exact same (by simp [commits, silent]) unchanged
      · refine ⟨outcomes ++ [((event.thread, edit), report)], ?_, ?_, ?_⟩
        · simp [serial.commits, commits, committed]
        · rw [List.map_append, List.map_append]
          simp only [List.map_cons, List.map_nil]
          rw [Program.run_inTurn_snoc, serial.runs, alone]
        · intro outcome member
          rcases List.mem_append.mp member with early | late
          · exact step.ended_stays (serial.reported _ early)
          · obtain rfl := List.mem_singleton.mp late
            exact ended

/-- **A step of a system can be replayed alone.** -/
theorem Replay.step (replay : Replay tracker start events system)
    (step : Step tracker (fun _ _ => False) system event? next)
    (unwrapped : ∀ event, event? = some event → event.KeepsVersions) :
    Replay tracker start (events ++ event?.toList) next where
  available := step.available (fun _ _ => False.elim) replay.available
  sessions := by
    cases event? with
    | none => rw [step.workspace_of_none, replay.sessions]
    | some event =>
        obtain ⟨before, after⟩ := step.event
        rw [← after, Event.after, Workspace.sessions_perform, before, replay.sessions]
  stand := by
    have disturbs : ∀ old new : Workspace, False → old.Disturbed new := fun _ _ => False.elim
    have alone := replay.available.noRivals
    refine step.stand replay.stand ?_ ?_ ?_
    · intro number edit new
      refine ⟨fun point carries => ?_, .opening (not_mem_committers_append ?_ event? ?_)⟩
      · rw [edit.point?_opening] at carries
        cases carries
      · -- what has committed has begun before
        intro commits
        obtain ⟨_, _, ended⟩ := replay.committed.ended number commits
        exact Nat.not_lt.mpr new (List.getElem?_eq_some_iff.mp ended).1
      · rintro event rfl rfl
        exact absurd step.thread_lt (Nat.not_lt.mpr new)
    · rintro number edit phase request rfl calls ⟨has, replays⟩
      refine ⟨fun point carries => step.has replay.stand alone disturbs unwrapped
        (System.has_after has carries), ?_⟩
      rcases replays.acts replay.available replay.sessions has
          ⟨number, .edit edit, request, system.workspace⟩ calls rfl rfl rfl with
        ⟨-, replays⟩ | ⟨committed, report, ended, -⟩
      · exact replays
      · rw [ended]
        refine .committed ?_
        simp [committers, commits, committed]
    · rintro number edit phase other ⟨has, replays⟩
      exact ⟨fun point carries => step.has replay.stand alone disturbs unwrapped
        (has point carries), replays.waits other⟩
  serial := replay.serial_step step
  committed := replay.committed.step step replay.stand
  quiet := by
    intro event occurs uncommitted
    rcases List.mem_append.mp occurs with early | late
    · exact replay.quiet event early fun commits => uncommitted (mem_committers_append commits)
    · obtain rfl : event? = some event := by simpa using late
      obtain ⟨before, after⟩ := step.event
      rcases replay.event step with ⟨-, unchanged⟩ | ⟨edit, report, committed, -⟩
      · rw [after, unchanged, before]
      · exact absurd (by simp [committers, commits, committed]) uncommitted

/-- Every run can be replayed alone. -/
theorem Run.replay (run : Run tracker (fun _ _ => False) (.idle start) events finish)
    (available : start.Available) (unwrapped : ∀ event ∈ events, event.KeepsVersions) :
    Replay tracker start events finish := by
  induction run with
  | refl => exact .idle available
  | step _ last ih =>
      obtain ⟨early, late⟩ := Event.forall_append unwrapped
      exact (ih early).step last late

/-- **Edits that run at once are serializable**: on an available workspace that nothing
disturbs and while no version goes back, the edits that commit do the same one after
another in the order of their commits, each commits once, and no other call changes
anything.  An edit that ends has committed, or it reports a conflict, or it returns what
it returns alone in the workspace that it last read. -/
theorem serializable {workspace : Workspace} (available : workspace.Available)
    (run : Run tracker (fun _ _ => False) (.idle workspace) events finish)
    (unwrapped : ∀ event ∈ events, event.KeepsVersions) :
    (∃ outcomes, Serial tracker workspace events outcomes finish) ∧
    (committers events).Nodup ∧
    (∀ event ∈ events, event.thread ∉ committers events → event.after = event.before) ∧
    ∀ number edit result, finish.threads[number]? = some ⟨.edit edit, .done result⟩ →
      (number ∈ committers events ∧ ∃ report, result = .ok report) ∨
      (number ∉ committers events ∧
        (result = .error (edit.exhausted tracker) ∨
          (edit.program tracker).run ((lastRead? number events).getD workspace) =
            (result, (lastRead? number events).getD workspace))) := by
  have replay := run.replay available unwrapped
  refine ⟨replay.serial, replay.committed.distinct, replay.quiet, ?_⟩
  intro number edit result found
  obtain ⟨phase, program, -, replays⟩ := (replay.stand number _ found).phase
  obtain rfl := WriteLoop.program_eq_done program.symm
  cases replays with
  | pending calls => cases calls
  | settled uncommitted returns => exact .inr ⟨uncommitted, returns⟩
  | committed commits =>
      obtain ⟨_, report, ended⟩ := replay.committed.ended number commits
      rw [found] at ended
      cases ended
      exact .inl ⟨commits, report, rfl⟩

/-- In the race the benchmark commits before the effort, and recording first the one and
then the other leads to the same records and reports. -/
theorem serializable_race :
    committers (Race.play 3 Race.moves).1 = [1, 0] ∧
      ∃ outcomes, Serial (Race.tracker 3) Race.workspace (Race.play 3 Race.moves).1 outcomes
        (Race.play 3 Race.moves).2 :=
  ⟨by decide +kernel,
    (serializable Race.available (Race.run _ 3 Race.moves) (by decide +kernel)).1⟩

end GolfProgress
