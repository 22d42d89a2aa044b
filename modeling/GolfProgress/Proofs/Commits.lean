import GolfProgress.Proofs.Versions

/-!
# Commits

An edit commits with the call that lands its write.  `commits` lists the edits that
commit in a list of calls, and `committers` their threads.  An edit ends when it
commits, so it commits at most once (`Run.committed`), however the workspace is
disturbed.
-/

set_option autoImplicit false

namespace GolfProgress

/-! ## Commits in a list of calls -/

/-- The edit that commits with a call, and its thread. -/
def Event.commit? (event : Event) : Option (Nat × Edit) :=
  match event.operation, event.written? with
  | .edit edit, some _ => some (event.thread, edit)
  | _, _ => none

/-- The edits that commit, in the order of their commits. -/
def commits (events : List Event) : List (Nat × Edit) := events.filterMap Event.commit?

/-- The threads that commit, in the order of their commits. -/
def committers (events : List Event) : List Nat := (commits events).map Prod.fst

section Calls

variable {events : List Event} {event : Event} {event? : Option Event} {number : Nat}

/-- A call commits an edit when it is a write of the edit that lands. -/
theorem Event.commit?_eq_some {edit : Edit} : event.commit? = some (number, edit) ↔
    event.thread = number ∧ event.operation = .edit edit ∧
      ∃ record, event.written? = some record := by
  unfold commit?
  split
  · next operation written => simp [operation, written]
  · next other =>
      refine ⟨nofun, ?_⟩
      rintro ⟨-, operation, record, written⟩
      exact absurd written (other edit record operation)

theorem Event.commit?_of_unwritten (unwritten : event.written? = none) :
    event.commit? = none := by
  simp [commit?, unwritten]

theorem commits_append (events later : List Event) :
    commits (events ++ later) = commits events ++ commits later := List.filterMap_append

theorem mem_committers_append {later : List Event} (commits : number ∈ committers events) :
    number ∈ committers (events ++ later) := by
  rw [committers, commits_append, List.map_append]
  exact List.mem_append_left _ commits

/-- A thread does not commit with the call of another thread, nor with a call that
writes nothing. -/
theorem not_mem_committers_append (uncommitted : number ∉ committers events)
    (event? : Option Event)
    (silent : ∀ event, event? = some event → event.thread = number → event.commit? = none) :
    number ∉ committers (events ++ event?.toList) := by
  intro commits
  rw [committers, commits_append, List.map_append] at commits
  rcases List.mem_append.mp commits with early | late
  · exact uncommitted early
  · obtain ⟨⟨_, edit⟩, committed, rfl⟩ := List.mem_map.mp late
    obtain ⟨event, occurs, committed⟩ := List.mem_filterMap.mp committed
    have occurs : event? = some event := by simpa using occurs
    have acts := (Event.commit?_eq_some.mp committed).1
    rw [silent event occurs acts] at committed
    cases committed

/-- A call of an available workspace that lands no write changes nothing. -/
theorem Event.after_of_unwritten (available : event.before.Available)
    (unwritten : event.written? = none) : event.after = event.before := by
  rcases event with ⟨number, operation, request, workspace⟩
  cases request with
  | update id expected patch =>
      cases reply : (workspace.perform (.update id expected patch)).1 with
      | ok record => simp [Event.written?_of_ok reply] at unwritten
      | error failure => exact available.perform_of_error reply
  | get | list | count | latest => rfl

end Calls

/-! ## Edits commit at most once -/

variable {tracker : Tracker} {allowed : Workspace → Workspace → Prop}
  {property : PhaseProperty tracker} {system next finish : System} {events : List Event}
  {event? : Option Event}

theorem Step.ended_of_commit {event : Event} {number : Nat} {edit : Edit}
    (step : Step tracker allowed system (some event) next)
    (stand : system.Stand tracker property) (commits : event.commit? = some (number, edit)) :
    ∃ report, next.threads[number]? = some ⟨.edit edit, .done (.ok report)⟩ := by
  obtain ⟨rfl, operation, record, written⟩ := Event.commit?_eq_some.mp commits
  rcases step.acts stand with ⟨edit', phase, acts⟩ | reads
  · obtain ⟨before, -⟩ := step.event
    rcases event with ⟨number, operation', request, workspace⟩
    obtain rfl : workspace = system.workspace := before
    obtain rfl : edit' = edit := by
      have same := acts.operation.symm.trans operation
      cases same
      rfl
    obtain ⟨-, calls, -, resumed⟩ := acts
    rcases WriteLoop.writing_or_reads calls with
      ⟨left, point, decision, yields, changes, rfl, rfl⟩ | reads
    · refine ⟨(edit'.loop tracker).report ⟨decision.outcome, some record⟩, ?_⟩
      rw [resumed]
      simp only [WriteLoop.Phase.after, Event.ok_of_written? written]
      rfl
    · rw [Event.written?_of_reads reads] at written
      cases written
  · rw [Event.written?_of_reads reads] at written
    cases written

/-- The threads that have committed are distinct and have ended. -/
structure System.Committed (events : List Event) (system : System) : Prop where
  distinct : (committers events).Nodup
  ended : ∀ number ∈ committers events,
    ∃ edit report, system.threads[number]? = some ⟨.edit edit, .done (.ok report)⟩

/-- **An edit commits at most once**: by a step at most one edit commits, and it was not
among those that have committed. -/
theorem System.Committed.step (committed : system.Committed events)
    (step : Step tracker allowed system event? next) (stand : system.Stand tracker property) :
    next.Committed (events ++ event?.toList) := by
  -- without a commit the same threads have committed
  have same (silent : commits event?.toList = []) : next.Committed (events ++ event?.toList) := by
    have kept : committers (events ++ event?.toList) = committers events := by
      rw [committers, commits_append, silent, List.append_nil, committers]
    refine ⟨kept ▸ committed.distinct, fun number member => ?_⟩
    obtain ⟨edit, report, ended⟩ := committed.ended number (kept ▸ member)
    exact ⟨edit, report, step.ended_stays ended⟩
  cases event? with
  | none => exact same rfl
  | some event =>
      cases commit : event.commit? with
      | none => exact same (by simp [commits, commit])
      | some pair =>
          obtain ⟨number, edit⟩ := pair
          obtain ⟨report, ended⟩ := step.ended_of_commit stand commit
          obtain ⟨rfl, -⟩ := Event.commit?_eq_some.mp commit
          have appended : committers (events ++ [event]) = committers events ++ [event.thread] := by
            simp [committers, commits, commit]
          have fresh : event.thread ∉ committers events := fun member => by
            obtain ⟨_, _, early⟩ := committed.ended event.thread member
            exact step.running early
          rw [Option.toList_some]
          refine ⟨?_, fun number member => ?_⟩
          · rw [appended]
            refine List.nodup_append.mpr ⟨committed.distinct, by simp, ?_⟩
            rintro _ early _ late rfl
            exact fresh (List.mem_singleton.mp late ▸ early)
          · rw [appended] at member
            rcases List.mem_append.mp member with early | late
            · obtain ⟨_, _, ended⟩ := committed.ended number early
              exact ⟨_, _, step.ended_stays ended⟩
            · obtain rfl := List.mem_singleton.mp late
              exact ⟨edit, report, ended⟩

/-- In every run each edit commits at most once. -/
theorem Run.committed {workspace : Workspace}
    (run : Run tracker allowed (.idle workspace) events finish) : finish.Committed events := by
  induction run with
  | refl => exact ⟨List.nodup_nil, by simp [committers, commits]⟩
  | step run last ih => exact ih.step last run.stand

end GolfProgress
