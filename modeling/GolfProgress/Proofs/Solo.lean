import GolfProgress.Proofs.Versions

/-!
# Operations that run alone

In an available workspace a write that is made right after its read meets the version
that it expects, so an operation that runs alone never runs out of attempts and its
result does not depend on how many there are (`run_remaining`).  What a loop does
next depends on the workspace only through its record and the logged sessions
(`after_eq`).  These two facts let a workspace in which an operation runs alone stand
in for the one in which it meets others.

While the session log stays as it is, an edit that runs alone makes one record of
another (`Edit.result`), and the workspace holds that record afterwards
(`Workspace.Holds.run_edit`).
-/

set_option autoImplicit false

namespace GolfProgress

/-! ## Runs of programs -/

namespace Program

variable {Result Other : Type}

theorem run_of_step? {program after : Program Result} {workspace later : Workspace}
    (steps : program.step? workspace = some (after, later)) :
    program.run workspace = after.run later := by
  cases program with
  | done result => cases steps
  | call request next =>
      cases steps
      rfl

/-- Programs in turn run one on the workspace that the other leaves. -/
theorem run_andThen (program : Program Result) (rest : Result → Program Other)
    (workspace : Workspace) :
    (program.andThen rest).run workspace =
      (rest (program.run workspace).1).run (program.run workspace).2 := by
  induction program generalizing workspace with
  | done result => rfl
  | call request next ih => exact ih _ _

theorem run_map (program : Program Result) (change : Result → Other) (workspace : Workspace) :
    (program.map change).run workspace =
      (change (program.run workspace).1, (program.run workspace).2) := by
  rw [map, run_andThen]
  rfl

theorem run_inTurn_snoc (programs : List (Program Result)) (last : Program Result)
    (workspace : Workspace) :
    (inTurn (programs ++ [last])).run workspace =
      (((inTurn programs).run workspace).1 ++ [(last.run ((inTurn programs).run workspace).2).1],
        (last.run ((inTurn programs).run workspace).2).2) := by
  induction programs generalizing workspace with
  | nil => simp [inTurn, run_andThen, run]
  | cons program rest ih => simp [inTurn, run_andThen, run, ih]

end Program

/-! ## Write loops alone -/

namespace Tracker

variable {Outcome : Type} {workspace : Workspace} {id : Uuid} {point : BreakingPoint}

/-- A decision about the stored record is carried out in one attempt. -/
theorem run_commit (available : workspace.Available) (found : workspace.record? id = some point)
    (decision : Decision Outcome) (again other : Program (Except Failure (Written Outcome))) :
    (commit id point decision again).run workspace =
      (commit id point decision other).run workspace := by
  unfold commit
  split
  · rfl
  · -- the version is the one that was read
    have performed := available.perform_update found point.version decision.patch
    simp only [ne_eq, not_true_eq_false, if_false] at performed
    by_cases valid : (decision.patch.landing point).Valid
    · simp only [valid, if_true] at performed
      simp only [Program.run, performed]
    · simp only [valid, if_false] at performed
      simp only [Program.run, performed, BreakingPointStore.invalid]

/-- A plan about the stored record is carried out in one attempt. -/
theorem run_follow (available : workspace.Available) (found : workspace.record? id = some point)
    (plan : Plan Outcome) (again other : Program (Except Failure (Written Outcome))) :
    (follow id point plan again).run workspace = (follow id point plan other).run workspace := by
  cases plan with
  | refuse failure => rfl
  | decided decision => exact run_commit available found decision again other
  | counted decide =>
      have counts : (workspace.perform (countCall point)) =
          (workspace.sessions.count (.point point.id) point.createdAt, workspace) := rfl
      simp only [follow, Program.run, counts]
      cases workspace.sessions.count (.point point.id) point.createdAt with
      | ok sessions => exact run_commit available found (decide sessions) again other
      | error failure => rfl

/-- An operation that runs alone needs one attempt. -/
theorem run_attempt (available : workspace.Available) (attempts : UInt32) (id : Uuid)
    (plan : BreakingPoint → Plan Outcome) (left other : Nat) :
    (attempt attempts id plan (left + 1)).run workspace =
      (attempt attempts id plan (other + 1)).run workspace := by
  simp only [attempt, Program.run, available.perform_get]
  cases found : workspace.record? id with
  | none => rfl
  | some point => exact run_follow available found (plan point) _ _

end Tracker

namespace WriteLoop

variable {Result : Type} {loop : WriteLoop Result} {workspace other : Workspace}

/-- What a loop makes of an available workspace does not depend on the attempts that it
has left. -/
theorem run_remaining (available : workspace.Available) (left other : Nat) :
    (loop.remaining (left + 1)).run workspace = (loop.remaining (other + 1)).run workspace := by
  simp only [remaining, Program.run_map]
  rw [Tracker.run_attempt available loop.attempts loop.id loop.plan left other]

theorem run_program {phase : loop.Phase} {request : Call} (calls : phase.request? = some request)
    (workspace : Workspace) :
    phase.program.run workspace =
      (phase.after workspace).program.run (workspace.perform request).2 := by
  refine Program.run_of_step? ?_
  rw [step?_program, calls]
  rfl

section Writing

variable {left : Nat} {point : BreakingPoint} {decision : Decision loop.Outcome}
  {yields : (loop.plan point).Yields decision} {changes : decision.patch.isEmpty = false}

/-- A write that meets the version that it expects ends a loop. -/
theorem ended_of_met (available : workspace.Available)
    (found : workspace.record? loop.id = some point) :
    ∃ result, (Phase.writing left point decision yields changes).after workspace =
      .ended result := by
  simp only [Phase.after, available.perform_update found, ne_eq, not_true_eq_false, if_false]
  split
  · exact ⟨_, rfl⟩
  · exact ⟨_, rfl⟩

/-- A write that meets another version leads a loop to its next attempt. -/
theorem resumed_of_outrun (available : workspace.Available) {stored : BreakingPoint}
    (found : workspace.record? loop.id = some stored) (outrun : stored.version ≠ point.version) :
    (Phase.writing left point decision yields changes).after workspace = loop.resumed left := by
  simp only [Phase.after, available.perform_update found, if_pos outrun]
  rfl

end Writing

/-- What comes after a phase depends on an available workspace only through the record
of the loop and the logged sessions. -/
theorem after_eq (phase : loop.Phase) (available : workspace.Available)
    (otherwise : other.Available) (record : workspace.record? loop.id = other.record? loop.id)
    (sessions : workspace.sessions = other.sessions) :
    phase.after workspace = phase.after other := by
  cases phase with
  | reading left =>
      have reads : workspace.store.get loop.id = other.store.get loop.id :=
        (congrArg Prod.fst (available.perform_get loop.id)).trans
          ((congrArg Except.ok record).trans
            (congrArg Prod.fst (otherwise.perform_get loop.id)).symm)
      simp only [Phase.after, reads]
  | counting left point decide planned => simp only [Phase.after, sessions]
  | writing left point decision yields changes =>
      have replies := available.reply_update otherwise record point.version decision.patch
      simp only [Phase.after, replies]
  | ended result => rfl

end WriteLoop

/-! ## Edits alone -/

/-- The patch of a plan about a record, given the logged sessions; empty when the plan
fails. -/
def Plan.patch {Outcome : Type} (log : SessionLog) (point : BreakingPoint) :
    Plan Outcome → Patch
  | .refuse _ => {}
  | .decided decision => decision.patch
  | .counted decide =>
    match log.count (.point point.id) point.createdAt with
    | .ok sessions => (decide sessions).patch
    | .error _ => {}

/-- A record after a patch was written to it, if the patch changes anything. -/
def Patch.settle (patch : Patch) (point : BreakingPoint) : BreakingPoint :=
  if patch.isEmpty then point else patch.landing point

theorem Patch.apply_of_isEmpty {patch : Patch} (empty : patch.isEmpty = true)
    (point : BreakingPoint) : patch.apply point = point := by
  simp only [isEmpty, Bool.and_eq_true, Option.isNone_iff_eq_none] at empty
  obtain ⟨⟨⟨⟨effort, progress⟩, current⟩, status⟩, date⟩ := empty
  simp [apply, effort, progress, current, status, date]

/-- A settled patch is written over the record, whatever it does to the version. -/
theorem Patch.settle_eq_apply (patch : Patch) (point : BreakingPoint) :
    ∃ version, patch.settle point = { patch.apply point with version } := by
  unfold settle
  split
  · next empty => exact ⟨point.version, by rw [apply_of_isEmpty empty]⟩
  · exact ⟨_, rfl⟩

namespace Edit

/-- The patch that an edit writes to a record, given the logged sessions. -/
def patch (tracker : Tracker) (log : SessionLog) (edit : Edit) (point : BreakingPoint) : Patch :=
  match edit.fault? with
  | some _ => {}
  | none => ((edit.loop tracker).plan point).patch log point

/-- The record that an edit makes of a record, given the logged sessions. -/
def result (tracker : Tracker) (log : SessionLog) (edit : Edit) (point : BreakingPoint) :
    BreakingPoint :=
  (edit.patch tracker log point).settle point

end Edit

/-- An available workspace with a session log and a record. -/
structure Workspace.Holds (log : SessionLog) (id : Uuid) (point : BreakingPoint)
    (workspace : Workspace) : Prop where
  available : workspace.Available
  sessions : workspace.sessions = log
  found : workspace.record? id = some point

section Alone

variable {tracker : Tracker} {log : SessionLog} {id : Uuid} {point : BreakingPoint}
  {workspace : Workspace} {edit : Edit} {Outcome : Type}

theorem Plan.yields_of_patch {plan : Plan Outcome}
    (changes : (plan.patch log point).isEmpty = false) :
    ∃ decision, plan.Yields decision ∧ plan.patch log point = decision.patch := by
  cases plan with
  | refuse failure => cases changes
  | decided decision => exact ⟨decision, .decided decision, rfl⟩
  | counted decide =>
      unfold patch at changes ⊢
      cases counts : log.count (.point point.id) point.createdAt with
      | ok sessions => exact ⟨decide sessions, .counted decide sessions, rfl⟩
      | error failure =>
          rw [counts] at changes
          cases changes

/-- A patch that changes anything is one of those that the edit writes. -/
theorem Edit.writes_of_patch (changes : (edit.patch tracker log point).isEmpty = false) :
    ∃ report, edit.Writes tracker point (edit.patch tracker log point) report := by
  unfold patch at changes ⊢
  split
  · next fault =>
      rw [fault] at changes
      cases changes
  · next fault =>
      rw [fault] at changes
      obtain ⟨decision, yields, same⟩ := Plan.yields_of_patch changes
      exact ⟨_, same ▸ Edit.writes_of_yields yields (same ▸ changes)⟩

/-- What an edit makes of a valid record is valid. -/
theorem Edit.valid_result (tracker : Tracker) (log : SessionLog) (edit : Edit)
    (valid : point.Valid) :
    (edit.result tracker log point).Valid := by
  unfold result Patch.settle
  split
  · exact valid
  · next changes =>
      obtain ⟨report, writes⟩ := Edit.writes_of_patch (Bool.eq_false_iff.mpr changes)
      exact writes.valid_landing valid

theorem Tracker.maxAttempts_pos (tracker : Tracker) : 0 < tracker.maxAttempts.toNat := by
  change 0 < (if tracker.settings.store.maxAttempts ≤ 1 then 1
    else tracker.settings.store.maxAttempts).toNat
  split
  · decide
  · next several =>
      rw [UInt32.le_iff_toNat_le] at several
      exact Nat.lt_of_lt_of_le Nat.one_pos (Nat.le_of_lt (Nat.lt_of_not_le several))

namespace Workspace.Holds

/-- A decision about the stored record leaves the record with its patch, when that is
valid. -/
theorem commit (holds : workspace.Holds log id point) (decision : Decision Outcome)
    (again : Program (Except Failure (Written Outcome)))
    (valid : (decision.patch.settle point).Valid) :
    ((Tracker.commit id point decision again).run workspace).2.Holds log id
      (decision.patch.settle point) := by
  unfold Patch.settle at valid ⊢
  unfold Tracker.commit
  split
  · exact holds
  · next changes =>
      rw [if_neg changes] at valid
      have performed := holds.available.perform_update holds.found point.version decision.patch
      simp only [ne_eq, not_true_eq_false, if_false, valid, if_true] at performed
      have replied := congrArg Prod.fst performed
      have named : point.id = id := BreakingPointStore.id_of_find? holds.found
      have named : (decision.patch.landing point).id = id := named
      simp only [Program.run, replied]
      refine ⟨holds.available.perform _, (workspace.sessions_perform _).trans holds.sessions, ?_⟩
      rw [holds.available.record?_of_ok replied, if_pos named.symm]

/-- A plan about the stored record is carried out. -/
theorem follow (holds : workspace.Holds log id point) (plan : Plan Outcome)
    (again : Program (Except Failure (Written Outcome)))
    (valid : ((plan.patch log point).settle point).Valid) :
    ((Tracker.follow id point plan again).run workspace).2.Holds log id
      ((plan.patch log point).settle point) := by
  cases plan with
  | refuse failure => exact holds
  | decided decision => exact holds.commit decision again valid
  | counted decide =>
      have counts : workspace.perform (Tracker.countCall point) =
          (log.count (.point point.id) point.createdAt, workspace) := by
        rw [← holds.sessions]
        rfl
      simp only [Tracker.follow, Program.run, counts, Plan.patch] at valid ⊢
      cases counted : log.count (.point point.id) point.createdAt with
      | ok sessions =>
          rw [counted] at valid
          exact holds.commit (decide sessions) again valid
      | error failure => exact holds

/-- **An edit that runs alone makes its record of the stored one.** -/
theorem run_edit (holds : workspace.Holds log id point) (valid : point.Valid)
    (named : edit.id = id) :
    ((edit.program tracker).run workspace).2.Holds log id (edit.result tracker log point) := by
  have sound := Edit.valid_result tracker log edit valid
  rw [← edit.program_opening tracker]
  unfold Edit.result Edit.patch at sound ⊢
  unfold Edit.opening
  cases fault : edit.fault? with
  | some failure => exact holds
  | none =>
      simp only [fault] at sound
      obtain ⟨left, attempts⟩ := Nat.exists_eq_add_one.mpr tracker.maxAttempts_pos
      have loops : (edit.loop tracker).id = id := edit.id_loop.trans named
      rw [WriteLoop.program_resumed, attempts, WriteLoop.remaining, Program.run_map, loops]
      simp only [Tracker.attempt, Program.run, holds.available.perform_get, holds.found]
      exact holds.follow _ _ sound

end Workspace.Holds

end Alone

end GolfProgress
