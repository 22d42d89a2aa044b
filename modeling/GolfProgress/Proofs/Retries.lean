import GolfProgress.Proofs.Decisions
import GolfProgress.Proofs.FailedEdits

/-!
# Retries under pending conflicts

A pending conflict bumps the record just before an update, so the update finds another
version than it expects and the loop reads and decides anew, about a record of which only
the version has changed.  So a loop with more attempts than there are conflicts comes to
what it comes to without them, on a record that is older by their number, and a loop with
no more attempts than conflicts uses one up at each attempt and gives up
(`Tracker.attempt_contested`, by induction on the attempts that are left).

`retries_outlast_conflicts` says this of the edits.
-/

set_option autoImplicit false

namespace GolfProgress

/-! ## Records put into a workspace -/

namespace BreakingPointStore

/-- A record replaces one of its identifier that was put there before. -/
theorem recordsWith_put (store : BreakingPointStore) {first second : BreakingPoint}
    (same : second.id = first.id) :
    (store.put first).recordsWith second = store.recordsWith second := by
  have stored : ((store.put first).find? second.id).isSome = true := by
    rw [find?_put, if_pos same]
    rfl
  rw [recordsWith, if_pos stored]
  change (store.recordsWith first).map _ = _
  by_cases known : (store.find? second.id).isSome = true
  · have known' : (store.find? first.id).isSome = true := same ▸ known
    rw [recordsWith, recordsWith, if_pos known, if_pos known', List.map_map]
    refine List.map_congr_left fun point _ => ?_
    by_cases here : point.id = first.id <;> simp [same, here]
  · -- the first record was added, so it is the only one of its identifier
    have known' : ¬ (store.find? first.id).isSome = true := same ▸ known
    have others : ∀ point ∈ store.records, point.id ≠ second.id := by
      simpa [find?, List.find?_eq_none] using known
    have kept : (store.records.map fun point => if point.id = second.id then second else point) =
        store.records :=
      (List.map_congr_left fun point inside => if_neg (others point inside)).trans (List.map_id _)
    rw [recordsWith, recordsWith, if_neg known, if_neg known', List.map_append, kept,
      List.map_cons, List.map_nil, if_pos same.symm]

/-- The store with a record in place of one that was put there before. -/
theorem put_put (store : BreakingPointStore) {first second : BreakingPoint}
    (same : second.id = first.id) : (store.put first).put second = store.put second :=
  BreakingPointStore.ext (store.recordsWith_put same) rfl rfl

end BreakingPointStore

namespace Workspace

/-- The workspace with a record in place of the one of its identifier, or added. -/
def put (workspace : Workspace) (point : BreakingPoint) : Workspace :=
  { workspace with store := workspace.store.put point }

/-- The workspace with so many conflicts pending. -/
def contested (workspace : Workspace) (pending : UInt32) : Workspace :=
  { workspace with store := workspace.store.injectConflicts pending }

variable {workspace : Workspace} {id : Uuid} {point : BreakingPoint}

theorem record?_put (workspace : Workspace) (point : BreakingPoint) (id : Uuid) :
    (workspace.put point).record? id =
      if id = point.id then some point else workspace.record? id :=
  workspace.store.find?_put point id

theorem put_put (workspace : Workspace) {first second : BreakingPoint}
    (same : second.id = first.id) : (workspace.put first).put second = workspace.put second :=
  congrArg (fun store => { workspace with store }) (workspace.store.put_put same)

theorem Available.put (available : workspace.Available) (point : BreakingPoint) :
    (workspace.put point).Available :=
  ⟨available.reachable, available.noConflicts, available.noRivals, available.writable⟩

theorem Available.contested_zero (available : workspace.Available) :
    workspace.contested 0 = workspace := by
  unfold contested BreakingPointStore.injectConflicts
  rw [← available.noConflicts]

/-- A pending conflict bumps the record before the update, which is outrun. -/
theorem Available.perform_update_contested (available : workspace.Available)
    (found : workspace.record? id = some point) {pending : UInt32} (some : pending ≠ 0)
    (patch : Patch) :
    (workspace.contested pending).perform (.update id point.version patch) =
      (.error (.versionConflict id.toText point.version point.bumped.version),
        (workspace.put point.bumped).contested (pending - 1)) := by
  have reachable : (workspace.contested pending).store.failure = none := available.reachable
  have found : (workspace.contested pending).store.find? id = Option.some point := found
  have waits : (workspace.contested pending).store.pendingConflicts ≠ 0 := some
  have alone : (workspace.contested pending).rivals = [] := available.noRivals
  rw [perform_update_of_writable alone available.writable]
  simp only [BreakingPointStore.update, reachable, found,
    BreakingPointStore.meetConflict_of_pending waits, if_pos point.version_bumped_ne]
  refine congrArg (Prod.mk _) ?_
  simp only [contested, Workspace.put, BreakingPointStore.injectConflicts, BreakingPointStore.put,
    available.reachable]
  rfl

end Workspace

/-! ## Attempts under pending conflicts -/

namespace Tracker

variable {Outcome : Type} {plan : BreakingPoint → Plan Outcome} {decision : Decision Outcome}
  {id : Uuid}

theorem decision_bumped (log : SessionLog) (point : BreakingPoint) (plan : Plan Outcome) :
    plan.decision log point.bumped = plan.decision log point := by cases plan <;> rfl

theorem toNat_pred {pending : UInt32} (some : pending ≠ 0) :
    0 < pending.toNat ∧ (pending - 1).toNat = pending.toNat - 1 := by
  have pos : 0 < pending.toNat := Nat.pos_of_ne_zero fun zero => some (UInt32.toNat.inj zero)
  exact ⟨pos, UInt32.toNat_sub_of_le _ _ (UInt32.le_iff_toNat_le.mpr pos)⟩

section Attempts

variable {calm : Workspace} {point : BreakingPoint} {pending : UInt32}

/-- Without conflicts the first attempt lands. -/
theorem attempt_calm (attempts : UInt32) (left : Nat) (available : calm.Available)
    (found : calm.record? id = some point)
    (decides : (plan point).decision calm.sessions point = .ok decision)
    (changes : decision.patch.isEmpty = false) (valid : (decision.patch.landing point).Valid) :
    (attempt attempts id plan (left + 1)).updates calm = 1 ∧
      (attempt attempts id plan (left + 1)).run calm =
        (.ok ⟨decision.outcome, some (decision.patch.landing point)⟩,
          calm.put (decision.patch.landing point)) := by
  obtain ⟨runs, updates⟩ := attempt_of_decision available.reachable found decides attempts left
  have lands := available.perform_update found point.version decision.patch
  simp only [ne_eq, not_true_eq_false, if_false, if_pos valid] at lands
  obtain ⟨written, once⟩ := commit_of_landed changes lands
  exact ⟨updates.trans once, runs.trans written⟩

/-- A pending conflict is used up by an attempt, which leaves the next one to an older
record. -/
theorem attempt_outrun (attempts : UInt32) (left : Nat) (available : calm.Available)
    (found : calm.record? id = some point)
    (decides : (plan point).decision calm.sessions point = .ok decision)
    (changes : decision.patch.isEmpty = false) (some : pending ≠ 0) :
    (attempt attempts id plan (left + 1)).updates (calm.contested pending) =
        (attempt attempts id plan left).updates
          ((calm.put point.bumped).contested (pending - 1)) + 1 ∧
      (attempt attempts id plan (left + 1)).run (calm.contested pending) =
        (attempt attempts id plan left).run
          ((calm.put point.bumped).contested (pending - 1)) := by
  have reachable : (calm.contested pending).store.failure = none := available.reachable
  obtain ⟨runs, updates⟩ := attempt_of_decision reachable found decides attempts left
  obtain ⟨goesOn, once⟩ := commit_of_outrun changes
    (available.perform_update_contested found some decision.patch)
  exact ⟨updates.trans once, runs.trans goesOn⟩

/-- **What a loop comes to under pending conflicts**: with more attempts than conflicts it
writes what it has decided, over a record that is older by their number, and otherwise it
uses up a conflict at each attempt and gives up. -/
theorem attempt_contested (unversioned : ∀ point : BreakingPoint, plan point.bumped = plan point)
    (attempts : UInt32) (left : Nat) (pending : UInt32) (available : calm.Available)
    (found : calm.record? id = some point)
    (decides : (plan point).decision calm.sessions point = .ok decision)
    (changes : decision.patch.isEmpty = false) (valid : (decision.patch.landing point).Valid) :
    (attempt attempts id plan (left + 1)).updates (calm.contested pending) =
        min (pending.toNat + 1) (left + 1) ∧
      (attempt attempts id plan (left + 1)).run (calm.contested pending) =
        if pending.toNat ≤ left then
          (.ok ⟨decision.outcome, some ((decision.patch.landing point).aged pending.toNat)⟩,
            calm.put ((decision.patch.landing point).aged pending.toNat))
        else
          (.error (.conflict id.toText attempts),
            (calm.put (point.aged (left + 1))).contested
              (UInt32.ofNat (pending.toNat - (left + 1)))) := by
  induction left generalizing calm point pending with
  | zero =>
      by_cases none : pending = 0
      · subst none
        obtain ⟨updates, runs⟩ := attempt_calm attempts 0 available found decides changes valid
        rw [available.contested_zero, runs, updates]
        simp [BreakingPoint.aged_zero]
      · obtain ⟨updates, runs⟩ := attempt_outrun attempts 0 available found decides changes none
        obtain ⟨pos, fewer⟩ := toNat_pred none
        rw [runs, updates, if_neg (by omega), Nat.zero_add, ← fewer, UInt32.ofNat_toNat]
        exact ⟨by change 0 + 1 = _; omega, rfl⟩
  | succ left ih =>
      by_cases none : pending = 0
      · subst none
        obtain ⟨updates, runs⟩ :=
          attempt_calm attempts (left + 1) available found decides changes valid
        rw [available.contested_zero, runs, updates]
        simp [BreakingPoint.aged_zero]
      · -- the rest of the loop meets one conflict less, on the bumped record
        obtain ⟨updates, runs⟩ :=
          attempt_outrun attempts (left + 1) available found decides changes none
        obtain ⟨pos, fewer⟩ := toNat_pred none
        have named : point.id = id := BreakingPointStore.id_of_find? found
        have kept : (calm.put point.bumped).record? id = some point.bumped := by
          rw [Workspace.record?_put]
          exact if_pos named.symm
        obtain ⟨rest, ends⟩ := ih (pending - 1) (available.put point.bumped) kept
          (by rw [unversioned, decision_bumped]; exact decides) valid
        have aged (point : BreakingPoint) (count : Nat) :
            point.bumped.aged count = point.aged (count + 1) := by
          rw [← BreakingPoint.aged_one, BreakingPoint.aged_aged, Nat.add_comm]
        have older : (decision.patch.landing point.bumped).aged (pending.toNat - 1) =
            (decision.patch.landing point).aged pending.toNat := by
          change (decision.patch.landing point).bumped.aged _ = _
          rw [aged, Nat.sub_add_cancel pos]
        rw [runs, updates, rest, ends, fewer, older, aged]
        refine ⟨by omega, ?_⟩
        by_cases enough : pending.toNat ≤ left + 1
        · have replaced : (calm.put point.bumped).put
              ((decision.patch.landing point).aged pending.toNat) = calm.put _ := calm.put_put rfl
          rw [if_pos (by omega), if_pos enough, replaced]
        · have replaced : (calm.put point.bumped).put (point.aged (left + 1 + 1)) = calm.put _ :=
            calm.put_put rfl
          rw [if_neg (by omega), if_neg enough, replaced, Nat.sub_sub, Nat.add_comm 1]

end Attempts

end Tracker

/-! ## Edits under pending conflicts -/

/-- A report with its record, if it has one, as many versions later. -/
def Report.aged (count : Nat) : Report → Report
  | .transition record => .transition (record.map (·.aged count))
  | report => report

theorem Edit.report_aged (tracker : Tracker) (edit : Edit) (outcome : (edit.loop tracker).Outcome)
    (record : BreakingPoint) (count : Nat) :
    (edit.loop tracker).report ⟨outcome, some (record.aged count)⟩ =
      ((edit.loop tracker).report ⟨outcome, some record⟩).aged count := by
  cases edit <;> rfl

theorem BreakingPoint.toNat_version_aged {point : BreakingPoint} {count : Nat}
    (unwrapped : point.version.toNat + count < UInt64.size) :
    (point.aged count).version.toNat = point.version.toNat + count := by
  have small : count < UInt64.size := by omega
  change (point.version + UInt64.ofNat count).toNat = _
  rw [UInt64.toNat_add, UInt64.toNat_ofNat_of_lt' small]
  exact Nat.mod_eq_of_lt unwrapped

theorem BreakingPoint.toNat_version_landing_aged {point : BreakingPoint} {patch : Patch}
    {count : Nat} (unwrapped : point.version.toNat + count + 1 < UInt64.size) :
    ((patch.landing point).aged count).version.toNat = point.version.toNat + count + 1 := by
  have landed : (patch.landing point).version.toNat = point.version.toNat + 1 :=
    (toNat_version_succ point.version).trans (Nat.mod_eq_of_lt (by omega))
  rw [toNat_version_aged (by omega), landed]
  omega

/-- **An edit outlasts fewer pending conflicts than it has attempts, and no more.**  The store
and the session log answer, and no version is counted back to zero.

An edit with nothing to write ends with what it ends with when no conflict is pending, after
its read and at most a count, and leaves the conflicts pending.  Any other edit that is tried
more often than there are conflicts reports and writes what it reports and writes without them,
but for the version, which each conflict has counted up by one; no conflict is left.  With at
most as many attempts as conflicts it reports a conflict and the number of its attempts; each
has used up one conflict and has counted up the version, and nothing else has changed. -/
theorem retries_outlast_conflicts {tracker : Tracker} {calm : Workspace} {edit : Edit}
    {point : BreakingPoint} {pending : UInt32} (available : calm.Available)
    (found : calm.record? edit.id = some point) (valid : point.Valid)
    (unwrapped : point.version.toNat + min (pending.toNat + 1) tracker.maxAttempts.toNat <
      UInt64.size) :
    let program := edit.program tracker
    let patch := edit.patch tracker calm.sessions point
    (patch.isEmpty = true →
      program.run (calm.contested pending) = ((program.run calm).1, calm.contested pending) ∧
      (program.calls (calm.contested pending)).Sublist
        [.get edit.id, Tracker.countCall point]) ∧
    (patch.isEmpty = false → ∃ report,
      program.run calm = (.ok report, calm.put (patch.landing point)) ∧
      (pending < tracker.maxAttempts →
        program.run (calm.contested pending) =
          (.ok (report.aged pending.toNat),
            calm.put ((patch.landing point).aged pending.toNat)) ∧
        ((patch.landing point).aged pending.toNat).version.toNat =
          point.version.toNat + pending.toNat + 1 ∧
        program.updates (calm.contested pending) = pending.toNat + 1) ∧
      (tracker.maxAttempts ≤ pending →
        program.run (calm.contested pending) =
          (.error (.conflict edit.id.toText tracker.maxAttempts),
            (calm.put (point.aged tracker.maxAttempts.toNat)).contested
              (pending - tracker.maxAttempts)) ∧
        (point.aged tracker.maxAttempts.toNat).version.toNat =
          point.version.toNat + tracker.maxAttempts.toNat ∧
        program.updates (calm.contested pending) = tracker.maxAttempts.toNat)) := by
  intro program patch
  refine ⟨fun empty => ?_, fun changes => ?_⟩
  · obtain ⟨calmly, -⟩ := Edit.run_of_empty available.reachable found empty
    have reachable : (calm.contested pending).store.failure = none := available.reachable
    obtain ⟨runs, calls⟩ := Edit.run_of_empty reachable found empty
    exact ⟨by rw [runs, calmly]; rfl, calls⟩
  · obtain ⟨fault, decision, decides, same⟩ := Edit.exists_decision changes
    have same : patch = decision.patch := same
    have lands : (patch.landing point).Valid := by
      have settled := Edit.valid_result tracker calm.sessions edit valid
      rwa [Edit.result, Patch.settle, if_neg (by simp [patch, changes])] at settled
    obtain ⟨left, attempts⟩ := Nat.exists_eq_add_one.mpr tracker.maxAttempts_pos
    have comes (pending : UInt32) := Tracker.attempt_contested (edit.plan_bumped tracker)
      tracker.maxAttempts left pending available found decides (same ▸ changes) (same ▸ lands)
    rw [← attempts] at comes
    have runs (workspace : Workspace) := Edit.run_of_no_fault tracker fault workspace
    refine ⟨(edit.loop tracker).report ⟨decision.outcome, some (patch.landing point)⟩, ?_,
      fun enough => ?_, fun few => ?_⟩
    · have calmly := (comes 0).2
      rw [available.contested_zero] at calmly
      rw [(runs calm).1, calmly, same]
      simp [BreakingPoint.aged_zero, Except.map]
    · rw [UInt32.lt_iff_toNat_lt] at enough
      have written := (comes pending).2
      rw [if_pos (by omega), ← same] at written
      refine ⟨?_, BreakingPoint.toNat_version_landing_aged (by omega), ?_⟩
      · rw [(runs _).1, written, ← Edit.report_aged]
        rfl
      · rw [(runs _).2, (comes pending).1]
        omega
    · have most := few
      rw [UInt32.le_iff_toNat_le] at most
      have gaveUp := (comes pending).2
      rw [if_neg (by omega)] at gaveUp
      refine ⟨?_, BreakingPoint.toNat_version_aged (by omega), ?_⟩
      · have fewer : UInt32.ofNat (pending.toNat - tracker.maxAttempts.toNat) =
            pending - tracker.maxAttempts := by
          rw [← UInt32.toNat_sub_of_le _ _ few, UInt32.ofNat_toNat]
        rw [(runs _).1, gaveUp, fewer]
        rfl
      · rw [(runs _).2, (comes pending).1]
        omega

/-- Two conflicts are outlasted by an effort that is tried three times, and not by one that is
tried twice. -/
theorem retries_outlast_race :
    let effort : Edit := .recordEffort Race.carry
    let contested := Race.workspace.contested 2
    ((effort.program (Race.tracker 3)).run contested).1 =
        .ok (.effort ⟨Race.carry, 0, 40, 8⟩) ∧
      ((effort.program (Race.tracker 3)).run contested).2.record? Race.carry =
        some { Race.record with effort := 40, version := 3 } ∧
      ((effort.program (Race.tracker 2)).run contested).1 =
        .error (.conflict Race.carry.toText 2) ∧
      ((effort.program (Race.tracker 2)).run contested).2.record? Race.carry =
        some { Race.record with version := 2 } := by
  intro effort contested
  have found : Race.workspace.record? effort.id = some Race.record := by decide +kernel
  have valid : Race.record.Valid := by decide +kernel
  have patch (attempts : UInt32) : effort.patch (Race.tracker attempts) Race.workspace.sessions
      Race.record = { effort := some 40 } := rfl
  have small (attempts : UInt32) (few : attempts = 3 ∨ attempts = 2) :
      Race.record.version.toNat + min ((2 : UInt32).toNat + 1)
        (Race.tracker attempts).maxAttempts.toNat < UInt64.size := by
    rcases few with rfl | rfl <;> decide +kernel
  obtain ⟨report, runs, outlasts, -⟩ := (retries_outlast_conflicts Race.available found valid
    (small 3 (.inl rfl))).2 (by rw [patch]; rfl)
  obtain ⟨-, -, -, givesUp⟩ := (retries_outlast_conflicts Race.available found valid
    (small 2 (.inr rfl))).2 (by rw [patch]; rfl)
  have reported : ((effort.program (Race.tracker 3)).run Race.workspace).1 =
      .ok (.effort ⟨Race.carry, 0, 40, 8⟩) := by decide +kernel
  rw [runs] at reported
  cases reported
  obtain ⟨lands, -⟩ := outlasts (by decide +kernel)
  obtain ⟨fails, -⟩ := givesUp (by decide +kernel)
  rw [lands, fails, patch]
  exact ⟨rfl, by rw [Workspace.record?_put]; rfl, rfl, by rfl⟩

end GolfProgress
