import GolfProgress.Tracker.Program
import GolfProgress.Tracker.Curves
import GolfProgress.Tracker.Decision
import GolfProgress.Rules.Window

/-!
# The operations of the tracker

Effort recording, benchmark evaluation and status transitions all write by the
same loop: read the record, plan, and write the plan's patch to the version that
was read; when another write came between, read and plan again, as often as the
settings allow.  A plan whose patch is empty ends the operation without a write.

Effort is written only by effort recording and progress only by benchmark
evaluation, and only a passing benchmark resolves.
-/

set_option autoImplicit false

namespace GolfProgress

/-- Everything that operations know beside what they call. -/
structure Tracker where
  registry : Registry
  settings : Settings := {}
deriving Inhabited

/-! ## The write loop -/

/-- What an operation makes of a record: a patch, which is empty when there is
nothing to write, and the outcome to report once it has landed. -/
structure Decision (Outcome : Type) where
  patch : Patch
  outcome : Outcome

/-- How an operation makes up its mind about a record. -/
inductive Plan (Outcome : Type) where
  /-- The operation fails. -/
  | refuse (failure : Failure)
  /-- The record alone decides. -/
  | decided (decision : Decision Outcome)
  /-- The number of sessions linked to the record since it was created decides. -/
  | counted (decide : UInt32 → Decision Outcome)

/-- A written operation: its outcome, and the record as written if it was. -/
structure Written (Outcome : Type) where
  outcome : Outcome
  record : Option BreakingPoint

namespace Tracker

/-- The failure that there is no such breaking point. -/
def missing (id : Uuid) : Failure := .notFound "breaking point" id.toText

/-- The call that counts the sessions linked to a record since it was created. -/
def countCall (point : BreakingPoint) : Call := .count (.point point.id) point.createdAt

/-- Write what was decided about a record; `again` runs when another write came
between. -/
def commit {Outcome : Type} (id : Uuid) (point : BreakingPoint) (decision : Decision Outcome)
    (again : Program (Except Failure (Written Outcome))) :
    Program (Except Failure (Written Outcome)) :=
  if decision.patch.isEmpty then .done (.ok ⟨decision.outcome, none⟩)
  else
    .call (.update id point.version decision.patch) fun
      | .ok record => .done (.ok ⟨decision.outcome, some record⟩)
      | .error (.versionConflict ..) => again
      | .error (.notFound _) => .done (.error (missing id))
      | .error failure => .done (.error (.store failure))

/-- Carry out a plan about a record. -/
def follow {Outcome : Type} (id : Uuid) (point : BreakingPoint) (plan : Plan Outcome)
    (again : Program (Except Failure (Written Outcome))) :
    Program (Except Failure (Written Outcome)) :=
  match plan with
  | .refuse failure => .done (.error failure)
  | .decided decision => commit id point decision again
  | .counted decide =>
    .call (countCall point) fun
      | .ok sessions => commit id point (decide sessions) again
      | .error failure => .done (.error (.store failure))

/-- The attempts that are left of a write; `attempts` is how many there were. -/
def attempt {Outcome : Type} (attempts : UInt32) (id : Uuid)
    (plan : BreakingPoint → Plan Outcome) : Nat → Program (Except Failure (Written Outcome))
  | 0 => .done (.error (.conflict id.toText attempts))
  | left + 1 =>
    .call (.get id) fun
      | .ok (some point) => follow id point (plan point) (attempt attempts id plan left)
      | .ok none => .done (.error (missing id))
      | .error failure => .done (.error (.store failure))

/-- How often a write is tried; at least once. -/
def maxAttempts (tracker : Tracker) : UInt32 := max tracker.settings.store.maxAttempts 1

/-- Read, plan and write a record, again after each conflict. -/
def write {Outcome : Type} (tracker : Tracker) (id : Uuid) (plan : BreakingPoint → Plan Outcome) :
    Program (Except Failure (Written Outcome)) :=
  attempt tracker.maxAttempts id plan tracker.maxAttempts.toNat

/-- The outcome of a write, whether the record was written or not. -/
def reported {Outcome : Type} (written : Except Failure (Written Outcome)) :
    Except Failure Outcome :=
  written.map (·.outcome)

end Tracker

/-! ## Recording effort -/

/-- What effort recording reports. -/
structure EffortUpdate where
  id : Uuid
  previous : UInt8
  new : UInt8
  sessions : UInt32
deriving DecidableEq, Inhabited

namespace EffortUpdate

/-- The report as JSON. -/
def toJson (update : EffortUpdate) : Json :=
  .object [("breaking_point_id", .text update.id.toText),
    ("previous_effort", .nat update.previous.toNat), ("new_effort", .nat update.new.toNat),
    ("sessions_counted", .nat update.sessions.toNat)]

/-- The report in a document. -/
def read? {Node : Type} [Source Node] (node : Node) : Option EffortUpdate := do
  let fields ← Source.fields?
    ["breaking_point_id", "previous_effort", "new_effort", "sessions_counted"] node
  return {
    id := ← fields.required "breaking_point_id" Uuid.read?
    previous := ← fields.required "previous_effort" Source.uint8?
    new := ← fields.required "new_effort" Source.uint8?
    sessions := ← fields.required "sessions_counted" Source.uint32? }

end EffortUpdate

namespace Tracker

/-- The decision about a record's effort, given its sessions; a resolved record
is left as it is. -/
def effortDecision (tracker : Tracker) (id : Uuid) (point : BreakingPoint) (sessions : UInt32) :
    Decision EffortUpdate :=
  let new := if point.isResolved then point.effort else tracker.settings.effort.effort sessions
  { patch := if new = point.effort then {} else { effort := some new }
    outcome := ⟨id, point.effort, new, sessions⟩ }

/-- Write the effort that the sessions linked to a breaking point amount to. -/
def recordEffort (tracker : Tracker) (id : Uuid) : Program (Except Failure EffortUpdate) :=
  (tracker.write id fun point => .counted (tracker.effortDecision id point)).map reported

end Tracker

/-! ## Evaluating benchmarks -/

/-- What benchmark evaluation reports. -/
structure BenchmarkOutcome where
  id : Uuid
  meetsTarget : Bool
  previousProgress : UInt8
  newProgress : UInt8
  /-- The share of the way from baseline to target that the reading covers. -/
  improvement : Option Binary64
  isResolved : Bool
  evaluation : RuleEvaluation
deriving DecidableEq, Inhabited

namespace BenchmarkOutcome

/-- The report as JSON. -/
def toJson (outcome : BenchmarkOutcome) : Json :=
  .object [
    ("breaking_point_id", .text outcome.id.toText),
    ("meets_target", .bool outcome.meetsTarget),
    ("previous_progress", .nat outcome.previousProgress.toNat),
    ("new_progress", .nat outcome.newProgress.toNat),
    ("improvement_percent", Json.ofOption .float outcome.improvement),
    ("is_resolved", .bool outcome.isResolved),
    ("benchmark_result", outcome.evaluation.toJson)]

/-- The report in a document. -/
def read? {Node : Type} [Source Node] (node : Node) : Option BenchmarkOutcome := do
  let fields ← Source.fields?
    ["breaking_point_id", "meets_target", "previous_progress", "new_progress",
      "improvement_percent", "is_resolved", "benchmark_result"] node
  return {
    id := ← fields.required "breaking_point_id" Uuid.read?
    meetsTarget := ← fields.required "meets_target" Source.bool?
    previousProgress := ← fields.required "previous_progress" Source.uint8?
    newProgress := ← fields.required "new_progress" Source.uint8?
    improvement := ← fields.optional "improvement_percent" Source.number?
    isResolved := ← fields.required "is_resolved" Source.bool?
    evaluation := ← fields.required "benchmark_result" RuleEvaluation.read? }

end BenchmarkOutcome

/-- A benchmark reading that was just taken. -/
structure Benchmark where
  /-- The metric that tells which way values improve. -/
  metric : String
  value : Binary64
  date : Date
  /-- The stored text of the rule to judge by. -/
  rule : String
deriving Inhabited

namespace Benchmark

/-- What a rule says of the reading for a record.  The pass flag of a direct
reading is whether it meets the record's target. -/
def evaluation (benchmark : Benchmark) (direction : Direction) (point : BreakingPoint) :
    RuleEvaluation :=
  let judged := match SuccessRule.ofText? benchmark.rule with
    | none => RuleEvaluation.rejected .invalidRuleFormat
    | some rule =>
      RuleEvaluation.ofReading rule
        { Reading.ofValue benchmark.value with
          passed := point.target.map fun target => direction.meets benchmark.value target }
        point.baseline direction
  { judged with date := some benchmark.date }

/-- The share of the way from the record's baseline to its target that the
reading covers. -/
def improvement (benchmark : Benchmark) (point : BreakingPoint) : Option Binary64 := do
  gapClosed (← point.baseline) (← point.target) benchmark.value

/-- The patch that resolves a record. -/
def resolution (benchmark : Benchmark) : Patch :=
  { progress := some BreakingPoint.fullProgress, current := some benchmark.value,
    status := some .resolved, resolvedOn := some benchmark.date }

/-- The patch of a reading that does not pass: progress and measurement where
they change. -/
def shortfall (benchmark : Benchmark) (point : BreakingPoint) (progress : UInt8) : Patch :=
  { progress := if progress = point.progress then none else some progress
    current :=
      if (point.current.map fun value => value.equals benchmark.value).getD false then none
      else some benchmark.value }

/-- The decision about a record; a resolved record is left as it is. -/
def decision (settings : Settings) (id : Uuid) (benchmark : Benchmark) (direction : Direction)
    (point : BreakingPoint) : Decision BenchmarkOutcome :=
  let evaluation := benchmark.evaluation direction point
  let improvement := benchmark.improvement point
  let outcome (progress : UInt8) (resolved : Bool) : BenchmarkOutcome :=
    ⟨id, evaluation.passed, point.progress, progress, improvement, resolved, evaluation⟩
  if point.isResolved then ⟨{}, outcome point.progress true⟩
  else if evaluation.passed then
    ⟨benchmark.resolution, outcome BreakingPoint.fullProgress true⟩
  else
    let progress :=
      unresolvedProgress point.progress improvement settings.progress.unresolvedCap
    ⟨benchmark.shortfall point progress, outcome progress false⟩

end Benchmark

namespace Tracker

/-- The direction of a metric, or else of the test that measures a record. -/
def direction (tracker : Tracker) (metric test : String) : Except Failure Direction :=
  match tracker.registry.find? metric |>.or (tracker.registry.find? test) with
  | some found => .ok found.direction
  | none => .error (.notFound "proof metric" metric)

/-- The plan of a benchmark about a record. -/
def benchmarkPlan (tracker : Tracker) (id : Uuid) (benchmark : Benchmark)
    (point : BreakingPoint) : Plan BenchmarkOutcome :=
  match tracker.direction benchmark.metric point.test with
  | .ok direction => .decided (benchmark.decision tracker.settings id direction point)
  | .error failure => .refuse failure

/-- Evaluate a reading for a breaking point and write what it proves.  A reading
that is not finite is refused before the record is read. -/
def evaluateBenchmark (tracker : Tracker) (id : Uuid) (benchmark : Benchmark) :
    Program (Except Failure BenchmarkOutcome) :=
  if benchmark.value.isFinite then
    (tracker.write id (tracker.benchmarkPlan id benchmark)).map reported
  else .done (.error (.invalidReading benchmark.value))

/-- The records that a reading of a player on a test is about. -/
def isBenchmarked (test : String) (point : BreakingPoint) : Bool :=
  !point.isResolved && point.test = test

/-- Evaluate a reading for one of a player's records by the record's own rule. -/
def evaluateOwn (tracker : Tracker) (metric : String) (value : Binary64) (date : Date)
    (point : BreakingPoint) : Program (Uuid × Except Failure BenchmarkOutcome) :=
  (tracker.evaluateBenchmark point.id ⟨metric, value, date, point.rule⟩).map
    fun outcome => (point.id, outcome)

/-- Evaluate a reading for every unresolved breaking point of a player that a
test measures; a failure on one does not touch the others. -/
def recordBenchmark (tracker : Tracker) (player : Uuid) (test metric : String)
    (value : Binary64) (date : Date) :
    Program (Except Failure (List (Uuid × Except Failure BenchmarkOutcome))) :=
  .call (.list player) fun
    | .ok points =>
      (Program.inTurn ((points.filter (isBenchmarked test)).map
        (tracker.evaluateOwn metric value date))).map .ok
    | .error failure => .done (.error (.store failure))

/-! ## Status transitions -/

/-- The transition whose guard holds now; none for an unknown record. -/
def dueTransition (tracker : Tracker) (id : Uuid) : Program (Except Failure (Option Transition)) :=
  .call (.get id) fun
    | .ok (some point) =>
      if point.isResolved then .done (.ok none)
      else
        .call (countCall point) fun
          | .ok sessions => .done (.ok (tracker.settings.transitions.decide point sessions))
          | .error failure => .done (.error (.store failure))
    | .ok none => .done (.ok none)
    | .error failure => .done (.error (.store failure))

/-- The patch of a transition; resolving sets the date where there is none. -/
def transitionPatch (transition : Transition) (today : Date) (point : BreakingPoint) : Patch :=
  { status := some transition.goal
    resolvedOn :=
      if transition.goal = .resolved ∧ point.resolvedOn = none then some today else none }

/-- The plan of a transition about a record: nothing when the record stands
elsewhere or the guard does not hold. -/
def transitionPlan (tracker : Tracker) (transition : Transition) (today : Date)
    (point : BreakingPoint) : Plan Unit :=
  if point.status ≠ transition.start then .decided ⟨{}, ()⟩
  else
    .counted fun sessions =>
      if tracker.settings.transitions.decide point sessions = some transition then
        ⟨transitionPatch transition today point, ()⟩
      else ⟨{}, ()⟩

/-- Apply a transition if its guard still holds; none when it was not applied. -/
def applyTransition (tracker : Tracker) (id : Uuid) (transition : Transition) (today : Date) :
    Program (Except Failure (Option BreakingPoint)) :=
  (tracker.write id (tracker.transitionPlan transition today)).map fun written =>
    written.map (·.record)

end Tracker

end GolfProgress
