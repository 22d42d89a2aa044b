import GolfProgress.Proofs.Versions

/-!
# Refusals of records

The store refuses a record that breaks its rules.  It does so only where the write
meets the version that it expects (`Workspace.Unrigged.update_of_invalid`), so it never
refuses what keeps the stored record valid (`Workspace.Sound.update`).

An operation passes on the refusals that it is answered with and makes up none of its
own: its program is `Honest` (`Operation.honest`).
-/

set_option autoImplicit false

namespace GolfProgress

/-! ## Refusals of records -/

/-- A call is answered that its record is not valid. -/
def MeetsInvalid {Answer : Type} (reply : Except StoreFailure Answer) : Prop :=
  ∃ reason, reply = .error (.invalidRecord reason)

/-- An operation ends by telling that a record is not valid. -/
def TellsInvalid {Result : Type} (result : Except Failure Result) : Prop :=
  ∃ reason, result = .error (.store (.invalidRecord reason))

section Results

variable {First Second : Type}

theorem not_tellsInvalid_ok (result : First) : ¬ TellsInvalid (.ok result) := by
  rintro ⟨reason, same⟩
  cases same

/-- What an operation passes on tells of an invalid record only if it was answered so. -/
theorem not_tellsInvalid_store {failure : StoreFailure}
    (accepted : ¬ MeetsInvalid (Except.error failure : Except StoreFailure First)) :
    ¬ TellsInvalid (.error (.store failure) : Except Failure Second) := by
  rintro ⟨reason, same⟩
  cases same
  exact accepted ⟨reason, rfl⟩

theorem not_tellsInvalid_map {change : First → Second} {result : Except Failure First}
    (silent : ¬ TellsInvalid result) : ¬ TellsInvalid (result.map change) := by
  rintro ⟨reason, same⟩
  cases result with
  | ok value => cases same
  | error failure =>
      cases same
      exact silent ⟨reason, rfl⟩

end Results

/-- A store that does not stand for refusals refuses a record only where the version is the
expected one, which it may be by a bump, and the patched record breaks rules. -/
theorem BreakingPointStore.update_of_invalid {store : BreakingPointStore} {id : Uuid}
    {expected : UInt64} {patch : Patch}
    (unrigged : ∀ reason, store.failure ≠ some (.invalidRecord reason))
    (refused : MeetsInvalid (store.update id expected patch).1) :
    ∃ old new, store.find? id = some old ∧ (new = old ∨ new = old.bumped) ∧
      (store.update id expected patch).2.find? id = some new ∧ new.version = expected ∧
      ¬ (patch.landing new).Valid := by
  obtain ⟨reason, refused⟩ := refused
  unfold update at refused ⊢
  cases failing : store.failure with
  | some failure =>
      simp only [failing] at refused
      exact absurd (Except.error.inj refused ▸ failing) (unrigged reason)
  | none =>
      simp only [failing] at refused ⊢
      cases found : store.find? id with
      | none => simp [found] at refused
      | some old =>
          simp only [found] at refused ⊢
          have named : old.id = id := id_of_find? found
          by_cases none : store.pendingConflicts = 0
          · simp only [meetConflict_of_none none] at refused ⊢
            split at refused
            · cases refused
            · next met =>
                split at refused
                · cases refused
                · next invalid =>
                    refine ⟨old, old, rfl, .inl rfl, ?_, by simpa using met, invalid⟩
                    rw [if_neg met, if_neg invalid]
                    exact found
          · simp only [meetConflict_of_pending none] at refused ⊢
            split at refused
            · cases refused
            · next met =>
                split at refused
                · cases refused
                · next invalid =>
                    refine ⟨old, old.bumped, rfl, .inr rfl, ?_, by simpa using met, invalid⟩
                    rw [if_neg met, if_neg invalid, find?_put]
                    exact if_pos named.symm

/-! ## Sound workspaces -/

/-- No switch of a workspace stands for the refusal of a record. -/
structure Workspace.Unrigged (workspace : Workspace) : Prop where
  store : ∀ reason, workspace.store.failure ≠ some (.invalidRecord reason)
  updates : ∀ reason, workspace.updateFailure ≠ some (.invalidRecord reason)
  sessions : ∀ reason, workspace.sessions.failure ≠ some (.invalidRecord reason)
  results : ∀ reason, workspace.results.failure ≠ some (.invalidRecord reason)

/-- A workspace in which every record is valid, to which no rival writes and which is not
rigged. -/
structure Workspace.Sound (workspace : Workspace) : Prop where
  alone : workspace.rivals = []
  valid : ∀ id point, workspace.record? id = some point → point.Valid
  unrigged : workspace.Unrigged

/-- A disturbance that leaves a workspace unrigged. -/
structure Workspace.Outage (old new : Workspace) : Prop where
  disturbed : old.Disturbed new
  unrigged : new.Unrigged

theorem BreakingPointStore.failure_update (store : BreakingPointStore) (id : Uuid)
    (expected : UInt64) (patch : Patch) :
    (store.update id expected patch).2.failure = store.failure := by
  unfold update
  cases failing : store.failure with
  | some failure => exact failing
  | none =>
      cases store.find? id with
      | none => exact failing
      | some point =>
          by_cases none : store.pendingConflicts = 0
          · simp only [meetConflict_of_none none]
            split
            · exact failing
            · split <;> exact failing
          · simp only [meetConflict_of_pending none]
            split
            · exact failing
            · split <;> exact failing

namespace Workspace

variable {workspace : Workspace} {id : Uuid} {expected : UInt64} {patch : Patch}

/-- The switches stay as they are when a call is answered. -/
theorem Unrigged.perform (unrigged : workspace.Unrigged) (alone : workspace.rivals = [])
    (request : Call) : (workspace.perform request).2.Unrigged := by
  cases request with
  | get | list | count | latest => exact unrigged
  | update id expected patch =>
      cases writable : workspace.updateFailure with
      | some failure =>
          simpa only [Workspace.perform, meetRival_of_none alone, writable] using unrigged
      | none =>
          rw [perform_update_of_writable alone writable]
          exact ⟨workspace.store.failure_update id expected patch ▸ unrigged.store,
            unrigged.updates, unrigged.sessions, unrigged.results⟩

/-- A call leaves a workspace sound. -/
theorem Sound.perform (sound : workspace.Sound) (request : Call) :
    (workspace.perform request).2.Sound where
  alone := rivals_perform sound.alone request
  unrigged := sound.unrigged.perform sound.alone request
  valid := by
    cases request with
    | get | list | count | latest => exact sound.valid
    | update id expected patch =>
        intro other point found
        rcases (perform_update_updated sound.alone id expected patch).becomes other with
          ⟨-, absent⟩ | ⟨old, new, before, after, becomes⟩
        · rw [absent] at found
          cases found
        · obtain rfl := Option.some.inj (after.symm.trans found)
          exact becomes.valid (sound.valid other old before)

/-- A read of an unrigged workspace is never answered that a record is invalid. -/
theorem Unrigged.reads (unrigged : workspace.Unrigged) {request : Call}
    (reads : ∀ id expected patch, request ≠ .update id expected patch) :
    ¬ MeetsInvalid (workspace.perform request).1 := by
  rintro ⟨reason, refused⟩
  cases request with
  | update id expected patch => exact reads _ _ _ rfl
  | get id =>
      change workspace.store.get id = _ at refused
      unfold BreakingPointStore.get at refused
      split at refused
      · next failing => exact unrigged.store reason (Except.error.inj refused ▸ failing)
      · cases refused
  | list player =>
      change workspace.store.listForPlayer player = _ at refused
      unfold BreakingPointStore.listForPlayer at refused
      split at refused
      · next failing => exact unrigged.store reason (Except.error.inj refused ▸ failing)
      · cases refused
  | count scope since =>
      change workspace.sessions.count scope since = _ at refused
      unfold SessionLog.count at refused
      split at refused
      · next failing => exact unrigged.sessions reason (Except.error.inj refused ▸ failing)
      · cases refused
  | latest player test start finish =>
      change workspace.results.findLatest player test start finish = _ at refused
      unfold ResultLog.findLatest at refused
      split at refused
      · next failing => exact unrigged.results reason (Except.error.inj refused ▸ failing)
      · cases refused

/-- A write to an unrigged workspace is refused as invalid only where the version is the
expected one, perhaps by a bump, and the patched record breaks rules. -/
theorem Unrigged.update_of_invalid (unrigged : workspace.Unrigged)
    (alone : workspace.rivals = [])
    (refused : MeetsInvalid (workspace.perform (.update id expected patch)).1) :
    ∃ old new, workspace.record? id = some old ∧ (new = old ∨ new = old.bumped) ∧
      (workspace.perform (.update id expected patch)).2.record? id = some new ∧
      new.version = expected ∧ ¬ (patch.landing new).Valid := by
  cases writable : workspace.updateFailure with
  | some failure =>
      obtain ⟨reason, refused⟩ := refused
      simp only [Workspace.perform, meetRival_of_none alone, writable] at refused
      exact absurd (Except.error.inj refused ▸ writable) (unrigged.updates reason)
  | none =>
      rw [perform_update_of_writable alone writable] at refused ⊢
      exact BreakingPointStore.update_of_invalid unrigged.store refused

end Workspace

/-- **A write that is decided about the stored record is never refused as invalid.** -/
theorem Workspace.Sound.update {workspace : Workspace} (sound : workspace.Sound) {id : Uuid}
    {point : BreakingPoint} {patch : Patch} (found : workspace.record? id = some point)
    (valid : (patch.landing point).Valid) :
    ¬ MeetsInvalid (workspace.perform (.update id point.version patch)).1 := by
  intro refused
  obtain ⟨old, new, before, change, -, version, invalid⟩ :=
    sound.unrigged.update_of_invalid sound.alone refused
  obtain rfl := Option.some.inj (found.symm.trans before)
  rcases change with rfl | rfl
  · exact invalid valid
  · exact point.version_bumped_ne version

/-! ## Honest programs -/

/-- A program whose result is as it should be as long as no call is answered that a record
is invalid. -/
inductive Program.Honest {Result : Type} (ends : Result → Prop) : Program Result → Prop where
  | done {result : Result} (fair : ends result) : Honest ends (.done result)
  | call {request : Call} {next : request.Reply → Program Result}
      (rest : ∀ reply, ¬ MeetsInvalid reply → (next reply).Honest ends) :
      Honest ends (.call request next)

namespace Program

variable {First Second : Type} {ends : First → Prop} {whole : Second → Prop}

theorem Honest.andThen {program : Program First} {rest : First → Program Second}
    (honest : program.Honest ends) (goesOn : ∀ result, ends result → (rest result).Honest whole) :
    (program.andThen rest).Honest whole := by
  induction honest with
  | done fair => exact goesOn _ fair
  | call _ ih => exact .call ih

theorem Honest.map {program : Program First} {change : First → Second}
    (honest : program.Honest ends) (kept : ∀ result, ends result → whole (change result)) :
    (program.map change).Honest whole :=
  honest.andThen fun result fair => .done (kept result fair)

/-- A report of what a program came to is as honest as the program. -/
theorem Honest.report {program : Program (Except Failure First)} {change : First → Second}
    (honest : program.Honest fun result => ¬ TellsInvalid result) :
    (program.map (Except.map change)).Honest fun result => ¬ TellsInvalid result :=
  honest.map fun _ => not_tellsInvalid_map

/-- A call with an honest reply leaves a program honest. -/
theorem Honest.step {program after : Program First} {workspace later : Workspace}
    {request : Call} (honest : program.Honest ends) (calls : program.request? = some request)
    (steps : program.step? workspace = some (after, later))
    (accepted : ¬ MeetsInvalid (workspace.perform request).1) : after.Honest ends := by
  cases honest with
  | done fair => cases calls
  | call rest =>
      cases calls
      cases steps
      exact rest _ accepted

end Program

/-- A plan that gives up for no invalid record. -/
def Plan.Honest {Outcome : Type} (plan : Plan Outcome) : Prop :=
  ∀ failure, plan = .refuse failure → ¬ TellsInvalid (.error failure : Except Failure Outcome)

namespace Tracker

variable {Outcome : Type} {id : Uuid} {point : BreakingPoint} {plan : BreakingPoint → Plan Outcome}

theorem honest_commit (decision : Decision Outcome)
    {again : Program (Except Failure (Written Outcome))}
    (honest : again.Honest fun written => ¬ TellsInvalid written) :
    (commit id point decision again).Honest fun written => ¬ TellsInvalid written := by
  unfold commit
  split
  · exact .done (not_tellsInvalid_ok _)
  · refine .call fun reply accepted => ?_
    rcases reply with failure | record
    · cases failure with
      | versionConflict => exact honest
      | notFound => exact .done (by rintro ⟨_, ⟨⟩⟩)
      | unavailable => exact .done (not_tellsInvalid_store accepted)
      | invalidRecord => exact .done (not_tellsInvalid_store accepted)
    · exact .done (not_tellsInvalid_ok _)

theorem honest_follow (honestPlan : (plan point).Honest)
    {again : Program (Except Failure (Written Outcome))}
    (honest : again.Honest fun written => ¬ TellsInvalid written) :
    (follow id point (plan point) again).Honest fun written => ¬ TellsInvalid written := by
  unfold follow
  cases planned : plan point with
  | refuse failure =>
      have silent := honestPlan failure planned
      refine .done ?_
      rintro ⟨reason, same⟩
      exact silent ⟨reason, congrArg _ (Except.error.inj same)⟩
  | decided decision => exact honest_commit decision honest
  | counted decide =>
      refine .call fun reply accepted => ?_
      cases reply with
      | ok sessions => exact honest_commit (decide sessions) honest
      | error failure => exact .done (not_tellsInvalid_store accepted)

theorem honest_attempt (honest : ∀ point, (plan point).Honest) (attempts : UInt32) (left : Nat) :
    (attempt attempts id plan left).Honest fun written => ¬ TellsInvalid written := by
  induction left with
  | zero => exact .done (by rintro ⟨_, ⟨⟩⟩)
  | succ left ih =>
      refine .call fun reply accepted => ?_
      rcases reply with failure | _ | point
      · exact .done (not_tellsInvalid_store accepted)
      · exact .done (by rintro ⟨_, ⟨⟩⟩)
      · exact honest_follow (honest point) ih

end Tracker

/-- No edit gives up for an invalid record that it has made up. -/
theorem Edit.honest_plan (tracker : Tracker) (edit : Edit) (point : BreakingPoint) :
    ((edit.loop tracker).plan point).Honest := by
  intro failure refuses
  cases edit with
  | recordEffort id => cases refuses
  | evaluateBenchmark id benchmark =>
      change tracker.benchmarkPlan id benchmark point = _ at refuses
      unfold Tracker.benchmarkPlan Tracker.direction at refuses
      rintro ⟨reason, told⟩
      cases told
      split at refuses
      · cases refuses
      · next missing =>
          cases refuses
          split at missing <;> cases missing
  | applyTransition id transition today =>
      change tracker.transitionPlan transition today point = _ at refuses
      unfold Tracker.transitionPlan at refuses
      split at refuses <;> cases refuses

theorem Edit.honest_program (tracker : Tracker) (edit : Edit) :
    (edit.program tracker).Honest fun result => ¬ TellsInvalid result := by
  have reported {Outcome : Type} {plan : BreakingPoint → Plan Outcome} {id : Uuid}
      (honest : ∀ point, (plan point).Honest) :
      ((tracker.write id plan).map Tracker.reported).Honest fun result => ¬ TellsInvalid result :=
    (Tracker.honest_attempt honest _ _).report
  cases edit with
  | recordEffort id =>
      exact (reported (Edit.honest_plan tracker (.recordEffort id))).report
  | evaluateBenchmark id benchmark =>
      unfold Edit.program Tracker.evaluateBenchmark
      refine .report ?_
      split
      · exact reported (Edit.honest_plan tracker (.evaluateBenchmark id benchmark))
      · exact .done (by rintro ⟨_, ⟨⟩⟩)
  | applyTransition id transition today =>
      exact (Tracker.honest_attempt
        (Edit.honest_plan tracker (.applyTransition id transition today)) _ _).report.report

/-- **No operation tells of an invalid record unless it is answered so.** -/
theorem Operation.honest (tracker : Tracker) (operation : Operation) :
    (operation.program tracker).Honest fun result => ¬ TellsInvalid result := by
  have passes {Answer Result : Type} {failure : StoreFailure}
      (accepted : ¬ MeetsInvalid (.error failure : Except StoreFailure Answer)) :
      (Program.done (.error (.store failure) : Except Failure Result)).Honest
        fun result => ¬ TellsInvalid result :=
    .done (not_tellsInvalid_store accepted)
  have misses {Result : Type} {id : Uuid} :
      (Program.done (.error (Tracker.missing id) : Except Failure Result)).Honest
        fun result => ¬ TellsInvalid result :=
    .done (by rintro ⟨_, ⟨⟩⟩)
  have reports {Result : Type} (result : Result) :
      (Program.done (.ok result : Except Failure Result)).Honest
        fun result => ¬ TellsInvalid result :=
    .done (not_tellsInvalid_ok result)
  cases operation with
  | edit edit => exact edit.honest_program tracker
  | recordBenchmark player test metric value date =>
      refine .report (.call fun reply accepted => ?_)
      cases reply with
      | ok points => exact reports _
      | error failure => exact passes accepted
  | viewStatus id =>
      refine .report (.call fun reply accepted => ?_)
      rcases reply with failure | _ | point
      · exact passes accepted
      · exact misses
      · exact reports _
  | dueTransition id =>
      refine .report (.call fun reply accepted => ?_)
      rcases reply with failure | _ | point
      · exact passes accepted
      · exact reports _
      · dsimp only
        split
        · exact reports _
        · refine .call fun reply accepted => ?_
          cases reply with
          | ok sessions => exact reports _
          | error failure => exact passes accepted
  | evaluate id asOf =>
      refine .report (.call fun reply accepted => ?_)
      rcases reply with failure | _ | point
      · exact passes accepted
      · exact misses
      · refine .call fun reply accepted => ?_
        cases reply with
        | error failure => exact passes accepted
        | ok sessions =>
            refine .call fun reply accepted => ?_
            cases reply with
            | error failure => exact passes accepted
            | ok latest => exact reports _

end GolfProgress
