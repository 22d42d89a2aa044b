import GolfProgress.BreakingPoint.Status
import GolfProgress.Registry.Domain
import GolfProgress.Document.Stamps
import GolfProgress.Violation

/-!
# Breaking points

A breaking point is a weakness of a player that is being worked on.  Effort
comes from training and progress from benchmarks, and neither stands in for the
other: a breaking point is resolved exactly when a benchmark has proved it, on a
date and with full progress.  `BreakingPoint.violations` lists what a record
breaks of this.
-/

set_option autoImplicit false

namespace GolfProgress

/-- A weakness of a player, with the evidence gathered about it. -/
structure BreakingPoint where
  id : Uuid
  player : Uuid
  domain : Domain
  status : Status
  /-- Training done, in percent of the plan. -/
  effort : UInt8
  /-- Proven progress, in percent of the way to the target. -/
  progress : UInt8
  /-- The test that measures the weakness. -/
  test : String
  /-- How many days a benchmark stays recent. -/
  window : UInt32
  baseline : Option Binary64
  target : Option Binary64
  /-- The latest measurement. -/
  current : Option Binary64
  /-- The stored text of the success rule. -/
  rule : String
  createdAt : Instant
  resolvedOn : Option Date
  /-- Counts the writes to the record. -/
  version : UInt64
deriving DecidableEq, Inhabited

namespace BreakingPoint

/-- The highest effort. -/
def effortCeiling : UInt8 := 150

/-- The progress that only a passing benchmark reaches. -/
def fullProgress : UInt8 := 100

/-- A breaking point as it is first identified. -/
def identified (id player : Uuid) (domain : Domain) (test : String) (window : UInt32)
    (rule : String) (createdAt : Instant) : BreakingPoint :=
  { id, player, domain, status := .notStarted, effort := 0, progress := 0, test, window,
    baseline := none, target := none, current := none, rule, createdAt, resolvedOn := none,
    version := 0 }

def withMeasurements (point : BreakingPoint) (baseline target : Binary64) : BreakingPoint :=
  { point with baseline := some baseline, target := some target }

def isResolved (point : BreakingPoint) : Bool := point.status.isTerminal

/-! ## Validation -/

/-- What is wrong with how a breaking point is resolved: it may lack its proof,
or bear a date too early. -/
def resolutionViolations (point : BreakingPoint) : List Violation :=
  if point.isResolved then
    Violation.ifNot (point.resolvedOn.isSome && point.progress == fullProgress)
      (.across "resolved_without_proof")
  else
    Violation.ifNot point.resolvedOn.isNone (.across "resolved_date_before_resolution")

/-- What is wrong with a breaking point, in ascending order of the texts. -/
def violations (point : BreakingPoint) : List Violation :=
  point.resolutionViolations ++
  Violation.ifNot (!point.test.toList.isEmpty) ⟨"benchmark_test_id", "length"⟩ ++
  Violation.ifNot (1 ≤ point.window.toNat && point.window.toNat ≤ 365)
    (.range "benchmark_window_days") ++
  Violation.ifNot (point.effort.toNat ≤ 150) (.range "effort_percent") ++
  Violation.ifNot (point.progress.toNat ≤ 100) (.range "progress_percent")

/-- A breaking point with nothing wrong. -/
def Valid (point : BreakingPoint) : Prop := point.violations = []

instance (point : BreakingPoint) : Decidable point.Valid :=
  inferInstanceAs (Decidable (_ = _))

/-! ## Documents -/

def toJson (point : BreakingPoint) : Json :=
  .object [
    ("id", .text point.id.toText),
    ("player_id", .text point.player.toText),
    ("domain", .text point.domain.code),
    ("status", .text point.status.code),
    ("effort_percent", .nat point.effort.toNat),
    ("progress_percent", .nat point.progress.toNat),
    ("benchmark_test_id", .text point.test),
    ("benchmark_window_days", .nat point.window.toNat),
    ("baseline_measurement", Json.ofOption .float point.baseline),
    ("target_measurement", Json.ofOption .float point.target),
    ("current_measurement", Json.ofOption .float point.current),
    ("success_rule", .text point.rule),
    ("created_at", .text point.createdAt.toText),
    ("resolved_date", Json.ofOption (fun date => .text date.toText) point.resolvedOn),
    ("version", .nat point.version.toNat)]

/-- The breaking point in a document; the version starts at zero. -/
def read? {Node : Type} [Source Node] (node : Node) : Option BreakingPoint := do
  let fields ← Source.fields?
    ["id", "player_id", "domain", "status", "effort_percent", "progress_percent",
      "benchmark_test_id", "benchmark_window_days", "baseline_measurement",
      "target_measurement", "current_measurement", "success_rule", "created_at",
      "resolved_date", "version"] node
  return {
    id := ← fields.required "id" Uuid.read?
    player := ← fields.required "player_id" Uuid.read?
    domain := ← fields.required "domain" Domain.read?
    status := ← fields.required "status" Status.read?
    effort := ← fields.required "effort_percent" Source.uint8?
    progress := ← fields.required "progress_percent" Source.uint8?
    test := ← fields.required "benchmark_test_id" Source.text?
    window := ← fields.required "benchmark_window_days" Source.uint32?
    baseline := ← fields.optional "baseline_measurement" Source.number?
    target := ← fields.optional "target_measurement" Source.number?
    current := ← fields.optional "current_measurement" Source.number?
    rule := ← fields.required "success_rule" Source.text?
    createdAt := ← fields.required "created_at" Instant.read?
    resolvedOn := ← fields.optional "resolved_date" Date.read?
    version := ← fields.defaulting "version" 0 Source.uint64? }

end BreakingPoint

end GolfProgress
