import GolfProgress.Proofs.Versions

/-!
# How records evolve

`BreakingPoint.Evolves` is what holds between a record at one time and the same record
at any later time: what identifies it stays, progress and status never fall, and what
is resolved stays as it is but for its version.  It is reflexive and transitive, and
holds across every write of an edit about the record that the edit has read
(`Edit.Writes.evolves`); together with the versions it holds across every run.

`Explains` is what a single step adds to this: which operation is behind the
change of which field.  `records_evolve` states both.
-/

set_option autoImplicit false

namespace GolfProgress

/-! ## Evolution -/

/-- The fields of a record that no operation writes are the same in another. -/
structure BreakingPoint.Identifies (old new : BreakingPoint) : Prop where
  id : new.id = old.id
  player : new.player = old.player
  domain : new.domain = old.domain
  test : new.test = old.test
  window : new.window = old.window
  baseline : new.baseline = old.baseline
  target : new.target = old.target
  rule : new.rule = old.rule
  createdAt : new.createdAt = old.createdAt

/-- What holds between a record and the same record later on. -/
structure BreakingPoint.Evolves (old new : BreakingPoint) : Prop where
  identifies : old.Identifies new
  progress : old.progress ≤ new.progress
  status : old.status.rank ≤ new.status.rank
  dated : ∀ date, old.resolvedOn = some date → new.resolvedOn = some date
  final : old.status = .resolved → new = { old with version := new.version }

section Order

variable {first second third : BreakingPoint}

theorem BreakingPoint.Identifies.trans (early : first.Identifies second)
    (late : second.Identifies third) : first.Identifies third where
  id := late.id.trans early.id
  player := late.player.trans early.player
  domain := late.domain.trans early.domain
  test := late.test.trans early.test
  window := late.window.trans early.window
  baseline := late.baseline.trans early.baseline
  target := late.target.trans early.target
  rule := late.rule.trans early.rule
  createdAt := late.createdAt.trans early.createdAt

theorem Landing.identifies {expected : UInt64} {patch : Patch}
    (landing : Landing expected patch first second) : first.Identifies second := by
  obtain ⟨-, rfl, -⟩ := landing
  exact ⟨rfl, rfl, rfl, rfl, rfl, rfl, rfl, rfl, rfl⟩

theorem BreakingPoint.Evolves.of_version (point : BreakingPoint) (version : UInt64) :
    point.Evolves { point with version } where
  identifies := ⟨rfl, rfl, rfl, rfl, rfl, rfl, rfl, rfl, rfl⟩
  progress := UInt8.le_refl _
  status := Nat.le_refl _
  dated := fun _ dated => dated
  final := fun _ => rfl

theorem BreakingPoint.Evolves.refl (point : BreakingPoint) : point.Evolves point :=
  .of_version point point.version

/-- A record stays identified by what becomes of it. -/
theorem BreakingPoint.Becomes.identifies (becomes : first.Becomes second) :
    first.Identifies second := by
  cases becomes with
  | kept => exact (BreakingPoint.Evolves.refl first).identifies
  | bumped => exact (BreakingPoint.Evolves.of_version first _).identifies
  | landed landing => exact landing.identifies

theorem BreakingPoint.Evolves.trans (early : first.Evolves second)
    (late : second.Evolves third) : first.Evolves third where
  identifies := early.identifies.trans late.identifies
  progress := UInt8.le_trans early.progress late.progress
  status := Nat.le_trans early.status late.status
  dated := fun date dated => late.dated date (early.dated date dated)
  final := by
    intro resolved
    have kept := early.final resolved
    have same : second.status = first.status := by rw [kept]
    rw [late.final (same.trans resolved), kept]

end Order

/-- The step forward is one step up. -/
theorem Status.rank_next {status goal : Status} (forward : status.next = some goal) :
    goal.rank = status.rank + 1 := by
  cases status <;> cases forward <;> rfl

theorem Status.rank_le (status : Status) : status.rank ≤ Status.resolved.rank := by
  cases status <;> decide

section Writes

variable {tracker : Tracker} {edit : Edit} {point new : BreakingPoint} {patch : Patch}
  {report : BreakingPoint → Report} {expected : UInt64}

/-- A record evolves by a write that was decided about it. -/
theorem Edit.Writes.evolves (writes : edit.Writes tracker point patch report)
    (valid : point.Valid) (landing : Landing expected patch point new) : point.Evolves new := by
  have identifies := landing.identifies
  have unresolved := writes.unresolved
  have undated := valid.undated unresolved
  have dated : ∀ date, point.resolvedOn = some date → new.resolvedOn = some date := by
    simp [undated]
  have final : point.status = .resolved → new = { point with version := new.version } :=
    fun resolved => absurd resolved (BreakingPoint.isResolved_eq_false_iff.mp unresolved)
  obtain ⟨-, rfl, -⟩ := landing
  cases writes with
  | effort => exact ⟨identifies, UInt8.le_refl _, Nat.le_refl _, dated, final⟩
  | proof => exact ⟨identifies, valid.progress_le, point.status.rank_le, dated, final⟩
  | shortfall id benchmark =>
      refine ⟨identifies, ?_, Nat.le_refl _, dated, final⟩
      simp only [Benchmark.shortfall, Patch.apply]
      split
      · exact UInt8.le_refl _
      · exact le_unresolvedProgress _ _ _
  | transition id transition today forward =>
      refine ⟨identifies, UInt8.le_refl _, ?_, dated, final⟩
      have rank := Status.rank_next forward
      exact Nat.le_trans (Nat.le_succ _) (Nat.le_of_eq rank.symm)

end Writes

/-! ## Which operation is behind a change -/

/-- The fields of a record change from one step to the next only by the write of the
operation that they belong to, and the status goes exactly one step forward where no
passing benchmark resolves the record. -/
structure Explains (event? : Option Event) (next : System) (id : Uuid)
    (old new : BreakingPoint) : Prop where
  effort : new.effort ≠ old.effort → ∃ event, event? = some event ∧
    event.operation = .edit (.recordEffort id) ∧ event.written? = some new
  measured : new.progress ≠ old.progress ∨ new.current ≠ old.current →
    ∃ event benchmark, event? = some event ∧
      event.operation = .edit (.evaluateBenchmark id benchmark) ∧ event.written? = some new
  status : new.status ≠ old.status → old.status.next = some new.status ∨
    ∃ event benchmark, event? = some event ∧ event.Proves next id benchmark new

variable {tracker : Tracker} {system next start finish : System} {event? : Option Event}
  {events : List Event} {id : Uuid} {old new point : BreakingPoint}

/-- A write that was decided about the record that it replaces explains its changes. -/
theorem Edit.Writes.explains {edit : Edit} {patch : Patch} {report : BreakingPoint → Report}
    {expected : UInt64} {event : Event} (writes : edit.Writes tracker point patch report)
    (landing : Landing expected patch point new) (acts : event.operation = .edit edit)
    (written : event.written? = some new)
    (reported : next.threads[event.thread]? =
      some ⟨event.operation, .done (.ok (report new))⟩) :
    Explains (some event) next edit.id point new := by
  have replaced := landing.written
  cases writes with
  | effort id =>
      refine ⟨fun _ => ⟨event, rfl, acts, written⟩, ?_, ?_⟩ <;> subst replaced <;>
        simp [Patch.apply]
  | proof id benchmark outcome _ passed =>
      refine ⟨?_, fun _ => ⟨event, benchmark, rfl, acts, written⟩,
        fun _ => .inr ⟨event, benchmark, rfl, acts, written, outcome, passed, reported⟩⟩
      subst replaced
      simp [Patch.apply, Benchmark.resolution]
  | shortfall id benchmark =>
      refine ⟨?_, fun _ => ⟨event, benchmark, rfl, acts, written⟩, ?_⟩ <;> subst replaced <;>
        simp [Patch.apply, Benchmark.shortfall]
  | transition id transition today forward =>
      refine ⟨?_, ?_, fun _ => .inl ?_⟩ <;> subst replaced
      · simp [Patch.apply, Tracker.transitionPatch]
      · simp [Patch.apply, Tracker.transitionPatch]
      · exact forward

/-! ## Steps and runs -/

/-- In a current system a valid record evolves with a step, which explains what it
changes, and stays valid. -/
theorem System.Current.evolves (current : system.Current tracker)
    (step : Step tracker Workspace.Disturbed system event? next)
    (unwrapped : ∀ event, event? = some event → event.KeepsVersions)
    (before : system.record? id = some old) (valid : old.Valid) :
    ∃ new, next.record? id = some new ∧ old.Evolves new ∧ Explains event? next id old new ∧
      new.Valid := by
  have disturbs : ∀ old new : Workspace, old.Disturbed new → old.Disturbed new :=
    fun _ _ disturbed => disturbed
  obtain ⟨new, after, change⟩ := step.becomes current.stand current.alone disturbs before
  have ordered := step.version_le disturbs unwrapped before after
  refine ⟨new, after, ?_⟩
  cases change with
  | kept => exact ⟨.refl _, ⟨by simp, by simp, by simp⟩, valid⟩
  | bumped =>
      exact ⟨.of_version _ _, ⟨fun changed => absurd rfl changed,
        fun changed => changed.elim (absurd rfl) (absurd rfl),
        fun changed => absurd rfl changed⟩, valid⟩
  | landed occurs operation named holds reads writes landing written reported =>
      subst named
      -- what was written was decided about this record, not about an earlier one
      obtain ⟨stored, has⟩ := holds _ reads
      obtain rfl := Option.some.inj (has.found.symm.trans before)
      obtain rfl := landing.basis has ordered
      subst occurs
      exact ⟨writes.evolves valid landing,
        writes.explains landing operation written (operation ▸ reported), landing.valid⟩

/-- Between two states of a run in which no version goes back every valid record
evolves, and stays valid. -/
theorem System.Current.evolves_run (current : system.Current tracker)
    (run : Run tracker Workspace.Disturbed system events finish)
    (unwrapped : ∀ event ∈ events, event.KeepsVersions)
    (before : system.record? id = some old) (valid : old.Valid) :
    ∃ new, finish.record? id = some new ∧ old.Evolves new ∧ new.Valid := by
  induction run with
  | refl => exact ⟨old, before, .refl old, valid⟩
  | step run last ih =>
      obtain ⟨early, late⟩ := Event.forall_append unwrapped
      obtain ⟨between, found, evolved, stillValid⟩ := ih early
      obtain ⟨new, after, evolves, -, finallyValid⟩ :=
        (run.current current (fun _ _ disturbed => disturbed) early).evolves last late found
          stillValid
      exact ⟨new, after, evolved.trans evolves, finallyValid⟩

/-- Every record of a system that is reached from valid records is valid. -/
theorem System.Current.valid_run (current : system.Current tracker)
    (run : Run tracker Workspace.Disturbed system events finish)
    (unwrapped : ∀ event ∈ events, event.KeepsVersions)
    (valid : ∀ id point, system.record? id = some point → point.Valid)
    (after : finish.record? id = some new) : new.Valid := by
  cases before : system.record? id with
  | none =>
      rw [current.absent_run run (fun _ _ disturbed => disturbed) unwrapped before] at after
      cases after
  | some old =>
      obtain ⟨_, found, -, stillValid⟩ :=
        current.evolves_run run unwrapped before (valid id old before)
      obtain rfl := Option.some.inj (found.symm.trans after)
      exact stillValid

/-- **Every record evolves over every stretch of every run, and every step explains what
it changes**, when all records are valid at the start and no version goes back.  Rivals
would write without an operation. -/
theorem records_evolve {workspace : Workspace} (alone : workspace.rivals = [])
    (valid : ∀ id point, workspace.record? id = some point → point.Valid)
    (run : Run tracker Workspace.Disturbed (.idle workspace) events finish)
    (unwrapped : ∀ event ∈ events, event.KeepsVersions) :
    (∀ later last, Run tracker Workspace.Disturbed finish later last →
      (∀ event ∈ later, event.KeepsVersions) →
      ∀ id old, finish.record? id = some old →
        ∃ new, last.record? id = some new ∧ old.Evolves new) ∧
    ∀ event? next, Step tracker Workspace.Disturbed finish event? next →
      (∀ event, event? = some event → event.KeepsVersions) →
      ∀ id old new, finish.record? id = some old → next.record? id = some new →
        Explains event? next id old new := by
  have disturbs : ∀ old new : Workspace, old.Disturbed new → old.Disturbed new :=
    fun _ _ disturbed => disturbed
  have initial : (System.idle workspace).Current tracker := .idle alone
  have current := run.current initial disturbs unwrapped
  refine ⟨fun later last rest kept id old before => ?_,
    fun event? next step kept id old new before after => ?_⟩
  · obtain ⟨new, after, evolves, -⟩ := current.evolves_run rest kept before
      (initial.valid_run run unwrapped valid before)
    exact ⟨new, after, evolves⟩
  · obtain ⟨_, found, -, explains, -⟩ := current.evolves step kept before
      (initial.valid_run run unwrapped valid before)
    obtain rfl := Option.some.inj (found.symm.trans after)
    exact explains

/-- Over the race the record evolves, and the last call, the second try of the effort,
explains what it changes. -/
theorem evolves_in_race :
    (∃ new, (Race.play 3 Race.moves).2.record? Race.carry = some new ∧
      Race.record.Evolves new ∧ new.effort = 40 ∧ new.progress = 75) ∧
    ∃ event next old new,
      (Race.play 3 (Race.outrun ++ [.call 0, .call 0])).2.call? (Race.tracker 3) 0 =
        some (event, next) ∧
      old.effort = 0 ∧ new.effort = 40 ∧ Explains (some event) next Race.carry old new := by
  constructor
  · have evolves := (records_evolve Race.available.noRivals
      (fun id point found => Race.eq_record found ▸ (by decide +kernel : Race.record.Valid))
      .refl (by simp)).1 _ _ (Race.run Workspace.Disturbed 3 Race.moves) (by decide +kernel)
      Race.carry Race.record rfl
    obtain ⟨new, after, evolves⟩ := evolves
    have landed : ((Race.play 3 Race.moves).2.record? Race.carry).map
        (fun point => (point.effort, point.progress)) = some (40, 75) := by
      decide +kernel
    rw [after] at landed
    simp only [Option.map_some, Option.some.injEq, Prod.mk.injEq] at landed
    exact ⟨new, after, evolves, landed.1, landed.2⟩
  · let moves := Race.outrun ++ [.call 0, .call 0]
    have writes : (((Race.play 3 moves).2.call? (Race.tracker 3) 0).bind
        fun result => (result.2.record? Race.carry).map (·.effort)) = some 40 := by
      decide +kernel
    have kept : ((Race.play 3 moves).2.call? (Race.tracker 3) 0).all
        (fun result => result.1.KeepsVersions) = true := by
      decide +kernel
    obtain ⟨⟨event, next⟩, called, writes⟩ := Option.bind_eq_some_iff.mp writes
    obtain ⟨new, after, written⟩ := Option.map_eq_some_iff.mp writes
    have unwritten : ((Race.play 3 moves).2.record? Race.carry).map (·.effort) = some 0 := by
      decide +kernel
    obtain ⟨old, before, unwritten⟩ := Option.map_eq_some_iff.mp unwritten
    have explains := (records_evolve Race.available.noRivals
      (fun id point found => Race.eq_record found ▸ (by decide +kernel : Race.record.Valid))
      (Race.run Workspace.Disturbed 3 moves) (by decide +kernel)).2 (some event) next
      (.of_call? called) (by rw [called] at kept; rintro _ ⟨⟩; simpa using kept) Race.carry old new
      before after
    exact ⟨event, next, old, new, called, unwritten, written, explains⟩

end GolfProgress
