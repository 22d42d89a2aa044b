import GolfProgress.Proofs.Evolution
import GolfProgress.Proofs.Solo

/-!
# Two paths to one evaluation

A stored rule is evaluated on two paths.  The engine looks up the latest result in a
window of dates, takes the direction of the test, and judges the stored value with the
stored pass flag.  The tracker is handed a fresh value, takes the direction of the
metric that comes with it, or else of the test, and works the pass flag out from the
record's target.

`evaluation_paths_agree` says when the two give one evaluation.  Three facts carry it:
a rule that is no pass rule does not look at the pass flag (`ofReading_congr`), the
tracker's direction is that of the test (`direction_of_same`), and whatever other
writes come between, the record that the tracker at last decides about has the
baseline, the target and the test of the record that it was called on
(`evaluation_of_attempt`).
-/

set_option autoImplicit false

namespace GolfProgress

/-! ## Readings -/

theorem Binary64.finite?_eq_some {value finite : Binary64} :
    value.finite? = some finite ↔ value.isFinite = true ∧ value = finite := by
  simp [finite?]

/-- What is recorded stands for a finite number or for none. -/
theorem RecordedValue.isFinite_of_finite? {recorded : RecordedValue} {value : Binary64}
    (stands : recorded.finite? = some value) : value.isFinite = true := by
  cases recorded with
  | number read =>
      obtain ⟨finite, rfl⟩ := Binary64.finite?_eq_some.mp stands
      exact finite
  | text written =>
      obtain ⟨read, -, stands⟩ := Option.bind_eq_some_iff.mp stands
      obtain ⟨finite, rfl⟩ := Binary64.finite?_eq_some.mp stands
      exact finite

/-- Only a pass rule looks at the pass flag of a reading. -/
theorem RuleEvaluation.ofReading_congr {rule : SuccessRule} {first second : Reading}
    (value : first.value = second.value)
    (passed : ∀ test, rule = .testPass test → first.passed = second.passed)
    (baseline : Option Binary64) (direction : Direction) :
    ofReading rule first baseline direction = ofReading rule second baseline direction := by
  cases rule with
  | testPass test => simp only [ofReading, value, passed test rfl]
  | metricThreshold metric comparison threshold => simp only [ofReading, value]
  | improvementPercent percent => simp only [ofReading, value]

section Evaluation

variable {benchmark : Benchmark} {direction : Direction} {point other : BreakingPoint}

/-- An evaluation looks at the baseline and the target of a record alone. -/
theorem Benchmark.evaluation_congr (baseline : other.baseline = point.baseline)
    (target : other.target = point.target) :
    benchmark.evaluation direction other = benchmark.evaluation direction point := by
  simp only [evaluation, baseline, target]

/-- The evaluation of a finite value by a rule is that of a stored reading with this value
when the stored pass flag, if it counts, says whether the value meets the target. -/
theorem Benchmark.evaluation_of_stored {rule : SuccessRule} {passed : Option Bool}
    (finite : benchmark.value.isFinite = true)
    (parsed : SuccessRule.ofText? benchmark.rule = some rule)
    (flag : ∀ test, rule = .testPass test →
      passed = point.target.map fun target => direction.meets benchmark.value target) :
    benchmark.evaluation direction point =
      { RuleEvaluation.ofReading rule ⟨some benchmark.value, passed⟩ point.baseline direction with
        date := some benchmark.date } := by
  let met? := point.target.map fun target => direction.meets benchmark.value target
  have judged : RuleEvaluation.ofReading rule
      { Reading.ofValue benchmark.value with passed := met? } point.baseline direction =
      RuleEvaluation.ofReading rule ⟨some benchmark.value, passed⟩ point.baseline direction :=
    RuleEvaluation.ofReading_congr (Binary64.finite?_eq_some.mpr ⟨finite, rfl⟩)
      (fun test pass => (flag test pass).symm) _ _
  simp only [evaluation, parsed]
  rw [judged]

/-- The outcome that is decided about a record reports the evaluation for this record. -/
theorem Benchmark.evaluation_decision (settings : Settings) (id : Uuid) :
    (benchmark.decision settings id direction point).outcome.evaluation =
      benchmark.evaluation direction point := by
  unfold decision
  dsimp only
  split
  · rfl
  · split <;> rfl

end Evaluation

/-- The tracker takes the direction of the test when the metric is unknown or has the same
direction. -/
theorem Tracker.direction_of_same {tracker : Tracker} {metric test : String} {known : Metric}
    (resolves : tracker.registry.find? test = some known)
    (same : ∀ found, tracker.registry.find? metric = some found →
      found.direction = known.direction) :
    tracker.direction metric test = .ok known.direction := by
  cases looked : tracker.registry.find? metric with
  | none => simp [direction, looked, resolves]
  | some found => simp [direction, looked, same found looked]

/-! ## What identifies a record stays -/

/-- A record that is found after an update stems from one that it identifies. -/
theorem Updated.identifies {before after : Uuid → Option BreakingPoint} {id other : Uuid}
    {expected : UInt64} {patch : Patch} {reply : Except StoreFailure BreakingPoint}
    {new : BreakingPoint} (updated : Updated before id expected patch reply after)
    (found : after other = some new) : ∃ old, before other = some old ∧ old.Identifies new := by
  rcases updated.becomes other with ⟨-, absent⟩ | ⟨old, record, stored, changed, becomes⟩
  · rw [absent] at found
    cases found
  · obtain rfl := Option.some.inj (changed.symm.trans found)
    exact ⟨old, stored, becomes.identifies⟩

namespace Workspace

variable {workspace : Workspace} {id : Uuid} {point new : BreakingPoint}

theorem identifies_meetRival (found : workspace.meetRival.record? id = some new) :
    ∃ old, workspace.record? id = some old ∧ old.Identifies new := by
  have kept (found : workspace.record? id = some new) :
      ∃ old, workspace.record? id = some old ∧ old.Identifies new :=
    ⟨new, found, (BreakingPoint.Evolves.refl new).identifies⟩
  unfold meetRival at found
  split at found
  · exact kept found
  · next rival patch rest rivals =>
      cases stored : workspace.store.find? rival with
      | none =>
          rw [stored] at found
          exact kept found
      | some point =>
          rw [stored] at found
          exact (workspace.store.update_updated rival point.version patch).identifies found

/-- A record that is found after a call stems from one that it identifies, whatever the
store meets on the way. -/
theorem identifies_perform (request : Call)
    (found : (workspace.perform request).2.record? id = some new) :
    ∃ old, workspace.record? id = some old ∧ old.Identifies new := by
  cases request with
  | get | list | count | latest => exact ⟨new, found, (BreakingPoint.Evolves.refl new).identifies⟩
  | update target expected patch =>
      simp only [perform] at found
      split at found
      · exact identifies_meetRival found
      · obtain ⟨middle, met, late⟩ :=
          (workspace.meetRival.store.update_updated target expected patch).identifies found
        obtain ⟨old, stored, early⟩ := identifies_meetRival met
        exact ⟨old, stored, early.trans late⟩

/-- Whatever record an identifier has, it is one that a given record identifies. -/
def Keeps (point : BreakingPoint) (workspace : Workspace) : Prop :=
  ∀ stored, workspace.record? point.id = some stored → point.Identifies stored

theorem Keeps.of_record? (found : workspace.record? point.id = some point) :
    workspace.Keeps point := by
  intro stored record
  obtain rfl := Option.some.inj (found.symm.trans record)
  exact (BreakingPoint.Evolves.refl point).identifies

theorem Keeps.perform (keeps : workspace.Keeps point) (request : Call) :
    (workspace.perform request).2.Keeps point := by
  intro stored found
  obtain ⟨old, before, identifies⟩ := identifies_perform request found
  exact (keeps old before).trans identifies

end Workspace

/-! ## Outcomes of a write -/

namespace Tracker

variable {Outcome : Type} {holds : Outcome → Prop} {point : BreakingPoint} {attempts : UInt32}
  {plan : BreakingPoint → Plan Outcome} {again : Program (Except Failure (Written Outcome))}

/-- A program that ends well in every workspace that keeps a record ends with an outcome
that has a property. -/
def Reaches (point : BreakingPoint) (holds : Outcome → Prop)
    (program : Program (Except Failure (Written Outcome))) : Prop :=
  ∀ workspace written, workspace.Keeps point → (program.run workspace).1 = .ok written →
    holds written.outcome

theorem reaches_commit {id : Uuid} {stored : BreakingPoint} {decision : Decision Outcome}
    (good : holds decision.outcome) (rest : Reaches point holds again) :
    Reaches point holds (commit id stored decision again) := by
  intro workspace written keeps ends
  unfold commit at ends
  split at ends
  · cases ends
    exact good
  · simp only [Program.run] at ends
    split at ends
    · cases ends
      exact good
    · -- another write came between
      exact rest _ written (keeps.perform _) ends
    · cases ends
    · cases ends

theorem reaches_follow {id : Uuid} {stored : BreakingPoint} {followed : Plan Outcome}
    (good : ∀ decision, followed.Yields decision → holds decision.outcome)
    (rest : Reaches point holds again) :
    Reaches point holds (follow id stored followed again) := by
  cases followed with
  | refuse failure =>
      intro workspace written keeps ends
      cases ends
  | decided decision => exact reaches_commit (good decision (.decided decision)) rest
  | counted decide =>
      intro workspace written keeps ends
      simp only [follow, Program.run] at ends
      split at ends
      · next sessions _ =>
          exact reaches_commit (good _ (.counted decide sessions)) rest _ written
            (keeps.perform _) ends
      · cases ends

/-- **A write ends with an outcome that its plan yields of a record that the first one
identifies**, however many attempts it takes. -/
theorem reaches_attempt
    (good : ∀ stored, point.Identifies stored → ∀ decision, (plan stored).Yields decision →
      holds decision.outcome) (left : Nat) :
    Reaches point holds (attempt attempts point.id plan left) := by
  induction left with
  | zero =>
      intro workspace written keeps ends
      cases ends
  | succ left ih =>
      intro workspace written keeps ends
      simp only [attempt, Program.run] at ends
      split at ends
      · next stored read =>
          have identifies := keeps stored (Workspace.record?_of_get read)
          exact reaches_follow (good stored identifies) ih _ written (keeps.perform _) ends
      · cases ends
      · cases ends

/-- A benchmark that ends well evaluates the reading for the record that it was called on. -/
theorem evaluation_of_run {tracker : Tracker} {benchmark : Benchmark} {direction : Direction}
    {workspace : Workspace} {outcome : BenchmarkOutcome}
    (directed : tracker.direction benchmark.metric point.test = .ok direction)
    (found : workspace.record? point.id = some point)
    (ends : ((tracker.evaluateBenchmark point.id benchmark).run workspace).1 = .ok outcome) :
    outcome.evaluation = benchmark.evaluation direction point := by
  have reaches : Reaches point
      (fun outcome => outcome.evaluation = benchmark.evaluation direction point)
      (tracker.write point.id (tracker.benchmarkPlan point.id benchmark)) := by
    refine reaches_attempt (fun stored identifies decision yields => ?_) _
    simp only [benchmarkPlan, identifies.test, directed] at yields
    cases yields
    rw [Benchmark.evaluation_decision,
      Benchmark.evaluation_congr identifies.baseline identifies.target]
  unfold evaluateBenchmark at ends
  split at ends
  · rw [Program.run_map] at ends
    obtain ⟨written, ended, rfl⟩ : ∃ written,
        ((tracker.write point.id (tracker.benchmarkPlan point.id benchmark)).run workspace).1 =
          .ok written ∧ written.outcome = outcome := by
      cases ended : ((tracker.write point.id
          (tracker.benchmarkPlan point.id benchmark)).run workspace).1 with
      | ok written =>
          rw [ended] at ends
          exact ⟨written, rfl, Except.ok.inj ends⟩
      | error failure =>
          rw [ended] at ends
          cases ends
    exact reaches workspace written (.of_record? found) ended
  · cases ends

/-- A benchmark of a finite value about a valid record ends well in an available workspace
when the direction is known. -/
theorem run_evaluateBenchmark_ok {tracker : Tracker} {benchmark : Benchmark}
    {direction : Direction} {workspace : Workspace} (finite : benchmark.value.isFinite = true)
    (directed : tracker.direction benchmark.metric point.test = .ok direction)
    (available : workspace.Available) (found : workspace.record? point.id = some point)
    (valid : point.Valid) :
    ∃ outcome, ((tracker.evaluateBenchmark point.id benchmark).run workspace).1 = .ok outcome := by
  obtain ⟨left, count⟩ := Nat.exists_eq_add_one.mpr tracker.maxAttempts_pos
  let decision := benchmark.decision tracker.settings point.id direction point
  have planned : tracker.benchmarkPlan point.id benchmark point = .decided decision := by
    simp only [benchmarkPlan, directed, decision]
  simp only [evaluateBenchmark, finite, if_true, Program.run_map, write, count, attempt,
    Program.run, available.perform_get, found, planned, follow, commit]
  split
  · exact ⟨_, rfl⟩
  · next changes =>
      -- what is written to a valid record is valid
      have yields : (((Edit.evaluateBenchmark point.id benchmark).loop tracker).plan point).Yields
          decision := by
        change (tracker.benchmarkPlan point.id benchmark point).Yields decision
        rw [planned]
        exact .decided decision
      have landing := (Edit.writes_of_yields yields (by simpa using changes)).valid_landing valid
      have performed := available.perform_update found point.version decision.patch
      simp only [ne_eq, not_true_eq_false, if_false, landing, if_true] at performed
      simp only [Program.run, performed]
      exact ⟨_, rfl⟩

end Tracker

/-! ## The two paths -/

/-- The windowed request about a record, by a rule and up to a date. -/
def BreakingPoint.request (point : BreakingPoint) (rule : String) (asOf : Date) : RuleRequest where
  player := point.player
  rule
  test := point.test
  window := point.window
  asOf
  baseline := point.baseline

/-- **The engine and the tracker give one evaluation**, when the engine finds a result with
a finite value and the tracker is called with this value and its date: for every rule but a
pass rule, and for a pass rule when the stored flag says whether the value meets the target
of the record, if it has one.  The tracker does so whatever else is written to the record
in between, and it does end well when nothing stands in its way. -/
theorem evaluation_paths_agree (tracker : Tracker) (log : ResultLog) (point : BreakingPoint)
    (metric text : String) (asOf : Date) {result : TestResult} {value : Binary64} {known : Metric}
    {rule : SuccessRule}
    (latest : log.findLatest point.player point.test (point.request text asOf).start asOf =
      .ok (some result))
    (finite : result.value.finite? = some value)
    (resolves : tracker.registry.find? point.test = some known)
    (same : ∀ found, tracker.registry.find? metric = some found →
      found.direction = known.direction)
    (parsed : SuccessRule.ofText? text = some rule)
    (flag : ∀ test, rule = .testPass test →
      result.passed = point.target.map fun target => known.direction.meets value target) :
    ∃ evaluation, (point.request text asOf).evaluate tracker.registry log = .ok evaluation ∧
      ∀ workspace : Workspace, workspace.record? point.id = some point →
        (∀ outcome, ((tracker.evaluateBenchmark point.id
            ⟨metric, value, result.date, text⟩).run workspace).1 = .ok outcome →
          outcome.evaluation = evaluation) ∧
        (workspace.Available → point.Valid →
          ∃ outcome, ((tracker.evaluateBenchmark point.id
            ⟨metric, value, result.date, text⟩).run workspace).1 = .ok outcome) := by
  let benchmark : Benchmark := ⟨metric, value, result.date, text⟩
  have directed : tracker.direction metric point.test = .ok known.direction :=
    Tracker.direction_of_same resolves same
  have isFinite : value.isFinite = true := RecordedValue.isFinite_of_finite? finite
  have judged : benchmark.evaluation known.direction point =
      { RuleEvaluation.ofReading rule ⟨some value, result.passed⟩ point.baseline
          known.direction with date := some result.date } :=
    Benchmark.evaluation_of_stored isFinite parsed flag
  refine ⟨benchmark.evaluation known.direction point, ?_, fun workspace found => ⟨?_, ?_⟩⟩
  · have direction : (point.request text asOf).direction tracker.registry = known.direction := by
      simp [RuleRequest.direction, BreakingPoint.request, resolves]
    unfold RuleRequest.evaluate
    rw [direction]
    simp only [BreakingPoint.request] at latest ⊢
    simp only [parsed, latest, finite, judged]
  · exact fun outcome ends => Tracker.evaluation_of_run directed found ends
  · exact fun available valid =>
      Tracker.run_evaluateBenchmark_ok isFinite directed available found valid

/-- A carry that was written down as 215 metres and not passed is evaluated by its pass flag
on both paths. -/
theorem evaluation_paths_agree_carry :
    ∃ evaluation outcome, (Race.record.request "CARRY:pass" Race.today).evaluate
        (Race.tracker 3).registry
        ⟨[⟨⟨2⟩, "CARRY", .text "215,0", some false, Race.today⟩], none⟩ = .ok evaluation ∧
      (((Race.tracker 3).evaluateBenchmark Race.carry
        ⟨"SPEED", .ofNat 215, Race.today, "CARRY:pass"⟩).run Race.workspace).1 = .ok outcome ∧
      outcome.evaluation = evaluation := by
  let log : ResultLog := ⟨[⟨⟨2⟩, "CARRY", .text "215,0", some false, Race.today⟩], none⟩
  have latest : log.findLatest Race.record.player Race.record.test
      (Race.record.request "CARRY:pass" Race.today).start Race.today =
        .ok (some ⟨⟨2⟩, "CARRY", .text "215,0", some false, Race.today⟩) := by
    decide +kernel
  have finite : (RecordedValue.text "215,0").finite? = some (.ofNat 215) := by decide +kernel
  have resolves : (Race.tracker 3).registry.find? Race.record.test =
      some ⟨"CARRY", "Carry", "m", .higherBetter, 1, .teeShots, ⟨[], []⟩⟩ := by
    decide +kernel
  have unknown : (Race.tracker 3).registry.find? "SPEED" = none := by decide +kernel
  have parsed : SuccessRule.ofText? "CARRY:pass" = some (.testPass "CARRY") := by decide +kernel
  obtain ⟨evaluation, engine, tracked⟩ :=
    evaluation_paths_agree (Race.tracker 3) log Race.record "SPEED" "CARRY:pass" Race.today latest
      finite resolves (by simp [unknown]) parsed (fun _ _ => by decide +kernel)
  obtain ⟨agrees, ends⟩ := tracked Race.workspace rfl
  obtain ⟨outcome, ended⟩ := ends Race.available (by decide +kernel)
  exact ⟨evaluation, outcome, engine, ended, agrees outcome ended⟩

end GolfProgress
