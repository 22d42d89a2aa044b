import GolfProgress.Tracker.Operations

/-!
# The phases of a write loop

A loop that reads, plans and writes is at any time in one of four phases: about to
read, about to count sessions, about to write, or ended.  `Phase.program` gives the
program of a phase, `Phase.after` the phase that the reply to its next call leads
to, and `step?_program` says that the program of a phase takes exactly these steps.
What the loop does in any company can so be told from its phase alone.

A phase that is about to write carries the record it has read and a decision that
the plan makes of this record, so a write never rests on anything else.
-/

set_option autoImplicit false

namespace GolfProgress

/-! ## Programs -/

namespace Program

variable {First Second Third : Type}

theorem map_map (program : Program First) (change : First → Second) (other : Second → Third) :
    (program.map change).map other = program.map (other ∘ change) := by
  unfold map
  induction program with
  | done result => rfl
  | call request next ih =>
      simp only [andThen]
      exact congrArg _ (funext ih)

/-- The next call of a program; none when it has ended. -/
def request? : Program First → Option Call
  | .done _ => none
  | .call request _ => some request

end Program

/-- A decision that a plan makes, with some number of sessions where it counts
them. -/
inductive Plan.Yields {Outcome : Type} : Plan Outcome → Decision Outcome → Prop where
  | decided (decision : Decision Outcome) : Yields (.decided decision) decision
  | counted (decide : UInt32 → Decision Outcome) (sessions : UInt32) :
      Yields (.counted decide) (decide sessions)

/-- A loop that reads, plans and writes one record, and reports. -/
structure WriteLoop (Result : Type) where
  Outcome : Type
  id : Uuid
  /-- How many attempts there are. -/
  attempts : UInt32
  plan : BreakingPoint → Plan Outcome
  report : Written Outcome → Result

namespace WriteLoop

variable {Result : Type} {loop : WriteLoop Result}

/-- The program of the loop with some attempts left. -/
def remaining (loop : WriteLoop Result) (left : Nat) : Program (Except Failure Result) :=
  (Tracker.attempt loop.attempts loop.id loop.plan left).map (Except.map loop.report)

/-- Where a loop stands; `left` counts the attempts after the one under way. -/
inductive Phase (loop : WriteLoop Result) where
  /-- The record is to be read. -/
  | reading (left : Nat)
  /-- A record was read, and its sessions are to be counted. -/
  | counting (left : Nat) (point : BreakingPoint) (decide : UInt32 → Decision loop.Outcome)
      (planned : loop.plan point = .counted decide)
  /-- A record was read, and what was decided about it is to be written. -/
  | writing (left : Nat) (point : BreakingPoint) (decision : Decision loop.Outcome)
      (yields : (loop.plan point).Yields decision) (changes : decision.patch.isEmpty = false)
  /-- The loop has ended. -/
  | ended (result : Except Failure Result)

/-- The phase after an attempt that met a newer version. -/
def resumed (loop : WriteLoop Result) : Nat → loop.Phase
  | 0 => .ended (.error (.conflict loop.id.toText loop.attempts))
  | left + 1 => .reading left

/-- The phase after a decision: without anything to write the loop ends. -/
def decided (left : Nat) (point : BreakingPoint) (decision : Decision loop.Outcome)
    (yields : (loop.plan point).Yields decision) : loop.Phase :=
  if changes : decision.patch.isEmpty = false then .writing left point decision yields changes
  else .ended (.ok (loop.report ⟨decision.outcome, none⟩))

/-- The phase after a record was read. -/
def planned (loop : WriteLoop Result) (left : Nat) (point : BreakingPoint) : loop.Phase :=
  match plan : loop.plan point with
  | .refuse failure => .ended (.error failure)
  | .decided decision => decided left point decision (plan ▸ .decided decision)
  | .counted decide => .counting left point decide plan

/-- The phase after a write was answered. -/
def answered (left : Nat) (decision : Decision loop.Outcome) :
    Except StoreFailure BreakingPoint → loop.Phase
  | .ok record => .ended (.ok (loop.report ⟨decision.outcome, some record⟩))
  | .error (.versionConflict ..) => loop.resumed left
  | .error (.notFound _) => .ended (.error (Tracker.missing loop.id))
  | .error failure => .ended (.error (.store failure))

namespace Phase

/-- The program that is left in a phase. -/
def program : loop.Phase → Program (Except Failure Result)
  | .reading left => loop.remaining (left + 1)
  | .counting left point decide _ =>
    (Tracker.follow loop.id point (.counted decide)
      (Tracker.attempt loop.attempts loop.id loop.plan left)).map (Except.map loop.report)
  | .writing left point decision _ _ =>
    (Tracker.commit loop.id point decision
      (Tracker.attempt loop.attempts loop.id loop.plan left)).map (Except.map loop.report)
  | .ended result => .done result

/-- The next call of a phase. -/
def request? : loop.Phase → Option Call
  | .reading _ => some (.get loop.id)
  | .counting _ point _ _ => some (Tracker.countCall point)
  | .writing _ point decision _ _ => some (.update loop.id point.version decision.patch)
  | .ended _ => none

/-- The phase that the reply to the next call leads to. -/
def after (workspace : Workspace) : loop.Phase → loop.Phase
  | .reading left =>
    match workspace.store.get loop.id with
    | .ok (some point) => loop.planned left point
    | .ok none => .ended (.error (Tracker.missing loop.id))
    | .error failure => .ended (.error (.store failure))
  | .counting left point decide plan =>
    match workspace.sessions.count (.point point.id) point.createdAt with
    | .ok sessions => decided left point (decide sessions) (plan ▸ .counted decide sessions)
    | .error failure => .ended (.error (.store failure))
  | .writing left point decision _ _ =>
    answered left decision (workspace.perform (.update loop.id point.version decision.patch)).1
  | .ended result => .ended result

/-- The record that a phase has read and not yet written. -/
def point? : loop.Phase → Option BreakingPoint
  | .counting _ point _ _ | .writing _ point _ _ _ => some point
  | .reading _ | .ended _ => none

end Phase

/-! ## Phases and programs agree -/

theorem program_resumed (left : Nat) : (loop.resumed left).program = loop.remaining left := by
  cases left <;> rfl

theorem program_decided (left : Nat) (point : BreakingPoint) (decision : Decision loop.Outcome)
    (yields : (loop.plan point).Yields decision) :
    (decided left point decision yields).program =
      (Tracker.commit loop.id point decision
        (Tracker.attempt loop.attempts loop.id loop.plan left)).map (Except.map loop.report) := by
  unfold decided
  split
  · rfl
  · next unchanged => simp [Phase.program, Tracker.commit, unchanged, Program.map,
      Program.andThen, Except.map]

theorem program_planned (left : Nat) (point : BreakingPoint) :
    (loop.planned left point).program =
      (Tracker.follow loop.id point (loop.plan point)
        (Tracker.attempt loop.attempts loop.id loop.plan left)).map (Except.map loop.report) := by
  unfold planned
  split
  · next failure plan => simp only [plan]; rfl
  · next decision plan => simp only [program_decided, plan]; rfl
  · next decide plan => simp only [plan]; rfl

theorem request?_program (phase : loop.Phase) : phase.program.request? = phase.request? := by
  cases phase with
  | reading left => rfl
  | counting left point decide plan => rfl
  | writing left point decision yields changes =>
      simp [Phase.program, Tracker.commit, changes, Program.map, Program.andThen,
        Program.request?, Phase.request?]
  | ended result => rfl

/-- A phase calls for a write of what it has decided, or for no write. -/
theorem writing_or_reads {phase : loop.Phase} {request : Call}
    (calls : phase.request? = some request) :
    (∃ left point decision yields changes,
      phase = .writing left point decision yields changes ∧
      request = .update loop.id point.version decision.patch) ∨
    ∀ id expected patch, request ≠ .update id expected patch := by
  cases phase with
  | reading left =>
      cases calls
      exact .inr (by simp)
  | counting left point decide planned =>
      cases calls
      exact .inr (by simp [Tracker.countCall])
  | writing left point decision yields changes =>
      cases calls
      exact .inl ⟨left, point, decision, yields, changes, rfl, rfl⟩
  | ended result => cases calls

/-- **A program in a phase steps as the phase does.** -/
theorem step?_program (phase : loop.Phase) (workspace : Workspace) :
    phase.program.step? workspace =
      phase.request?.map fun request =>
        ((phase.after workspace).program, (workspace.perform request).2) := by
  cases phase with
  | reading left =>
      have performed : workspace.perform (.get loop.id) =
          (workspace.store.get loop.id, workspace) := rfl
      cases read : workspace.store.get loop.id with
      | error failure =>
          simp [Phase.program, remaining, Tracker.attempt, Program.map, Program.andThen,
            Program.step?, Phase.after, Phase.request?, performed, read, Except.map]
      | ok point? =>
          cases point? with
          | none =>
              simp [Phase.program, remaining, Tracker.attempt, Program.map, Program.andThen,
                Program.step?, Phase.after, Phase.request?, performed, read, Except.map]
          | some point =>
              simp only [Phase.after, Phase.request?, Option.map_some, performed, read,
                program_planned]
              simp only [Phase.program, remaining, Tracker.attempt, Program.map,
                Program.andThen, Program.step?, performed, read]
  | counting left point decide plan =>
      have performed : workspace.perform (Tracker.countCall point) =
          (workspace.sessions.count (.point point.id) point.createdAt, workspace) := rfl
      cases counted : workspace.sessions.count (.point point.id) point.createdAt with
      | error failure =>
          simp [Phase.program, Tracker.follow, Program.map, Program.andThen, Program.step?,
            Phase.after, Phase.request?, performed, counted, Except.map]
      | ok sessions =>
          simp only [Phase.after, Phase.request?, Option.map_some, performed, counted,
            program_decided]
          simp only [Phase.program, Tracker.follow, Program.map, Program.andThen, Program.step?,
            performed, counted]
  | writing left point decision yields changes =>
      simp only [Phase.after, Phase.request?, Option.map_some]
      conv =>
        lhs
        simp only [Phase.program, Tracker.commit, changes, Program.map, Program.andThen,
          Program.step?, Bool.false_eq_true, if_false]
      cases (workspace.perform (.update loop.id point.version decision.patch)).1 with
      | ok record => rfl
      | error failure =>
          cases failure with
          | versionConflict =>
              exact congrArg (fun program => some (program, _)) (program_resumed left).symm
          | _ => rfl
  | ended result => rfl

theorem program_eq_done {phase : loop.Phase} {result : Except Failure Result}
    (done : phase.program = .done result) : phase = .ended result := by
  have silent : phase.request? = none := by rw [← request?_program, done]; rfl
  cases phase with
  | ended result' => cases done; rfl
  | reading | counting | writing => cases silent

/-! ## The record that a phase carries -/

theorem point?_resumed (left : Nat) : (loop.resumed left).point? = none := by
  cases left <;> rfl

theorem point?_answered (left : Nat) (decision : Decision loop.Outcome)
    (reply : Except StoreFailure BreakingPoint) : (answered left decision reply).point? = none := by
  cases reply with
  | ok record => rfl
  | error failure =>
      cases failure with
      | versionConflict => exact point?_resumed left
      | _ => rfl

theorem point?_decided {left : Nat} {point carried : BreakingPoint}
    {decision : Decision loop.Outcome} {yields : (loop.plan point).Yields decision}
    (carries : (decided left point decision yields).point? = some carried) : carried = point := by
  unfold decided at carries
  split at carries <;> cases carries
  rfl

theorem point?_planned {left : Nat} {point carried : BreakingPoint}
    (carries : (loop.planned left point).point? = some carried) : carried = point := by
  unfold planned at carries
  split at carries
  · cases carries
  · exact point?_decided carries
  · cases carries
    rfl

/-- A phase carries the record that it carried before its last call, or has just read
it. -/
theorem point?_after {phase : loop.Phase} {workspace : Workspace} {point : BreakingPoint}
    (carries : (phase.after workspace).point? = some point) :
    phase.point? = some point ∨
      (phase.point? = none ∧ workspace.store.get loop.id = .ok (some point)) := by
  cases phase with
  | reading left =>
      simp only [Phase.after] at carries
      split at carries
      · next read => exact .inr ⟨rfl, point?_planned carries ▸ read⟩
      · cases carries
      · cases carries
  | counting left read decide planned =>
      simp only [Phase.after] at carries
      split at carries
      · exact .inl (congrArg some (point?_decided carries).symm)
      · cases carries
  | writing left read decision yields changes =>
      have dropped : ((Phase.writing left read decision yields changes).after workspace).point? =
          none := point?_answered left decision _
      rw [dropped] at carries
      cases carries
  | ended result => cases carries

theorem ended_of_request? {phase : loop.Phase} (silent : phase.request? = none) :
    ∃ result, phase = .ended result := by
  cases phase with
  | ended result => exact ⟨result, rfl⟩
  | reading | counting | writing => cases silent

theorem carries_decided {left : Nat} {point : BreakingPoint} {decision : Decision loop.Outcome}
    {yields : (loop.plan point).Yields decision} {request : Call}
    (calls : (decided left point decision yields).request? = some request) :
    (decided left point decision yields).point? = some point := by
  unfold decided at calls ⊢
  split at calls
  · next changes => simp only [changes, dif_pos]; rfl
  · cases calls

theorem carries_planned {left : Nat} {point : BreakingPoint} {request : Call}
    (calls : (loop.planned left point).request? = some request) :
    (loop.planned left point).point? = some point := by
  revert calls
  unfold planned
  split
  · simp [Phase.request?]
  · exact carries_decided
  · exact fun _ => rfl

/-- A phase that goes on after a read or a count carries a record. -/
theorem carries_after {phase : loop.Phase} {workspace : Workspace} {request next : Call}
    (calls : phase.request? = some request)
    (reads : ∀ id expected patch, request ≠ .update id expected patch)
    (goesOn : (phase.after workspace).request? = some next) :
    ∃ point, (phase.after workspace).point? = some point := by
  cases phase with
  | reading left =>
      simp only [Phase.after] at goesOn ⊢
      split at goesOn
      · exact ⟨_, carries_planned goesOn⟩
      · cases goesOn
      · cases goesOn
  | counting left point decide planned =>
      simp only [Phase.after] at goesOn ⊢
      split at goesOn
      · exact ⟨point, carries_decided goesOn⟩
      · cases goesOn
  | writing left point decision yields changes =>
      cases calls
      exact absurd rfl (reads _ _ _)
  | ended result => cases calls

end WriteLoop

end GolfProgress
