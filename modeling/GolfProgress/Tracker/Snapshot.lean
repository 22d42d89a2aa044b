import GolfProgress.Tracker.Operations

/-!
# Looking at breaking points

Two views that write nothing: the status of a breaking point, and a snapshot of
all the evidence about it on a date.
-/

set_option autoImplicit false

namespace GolfProgress

/-- The status of a breaking point. -/
structure StatusView where
  id : Uuid
  domain : Domain
  status : Status
  effort : UInt8
  progress : UInt8
  isResolved : Bool
deriving DecidableEq, Inhabited

namespace StatusView

def toJson (view : StatusView) : Json :=
  .object [("breaking_point_id", .text view.id.toText), ("domain", .text view.domain.code),
    ("status", .text view.status.code), ("effort_percent", .nat view.effort.toNat),
    ("progress_percent", .nat view.progress.toNat), ("is_resolved", .bool view.isResolved)]

/-- The view in a document. -/
def read? {Node : Type} [Source Node] (node : Node) : Option StatusView := do
  let fields ← Source.fields?
    ["breaking_point_id", "domain", "status", "effort_percent", "progress_percent",
      "is_resolved"] node
  return {
    id := ← fields.required "breaking_point_id" Uuid.read?
    domain := ← fields.required "domain" Domain.read?
    status := ← fields.required "status" Status.read?
    effort := ← fields.required "effort_percent" Source.uint8?
    progress := ← fields.required "progress_percent" Source.uint8?
    isResolved := ← fields.required "is_resolved" Source.bool? }

end StatusView

/-- The evidence about a breaking point on a date. -/
structure Snapshot where
  id : Uuid
  player : Uuid
  domain : Domain
  component : Component
  status : Status
  effort : UInt8
  progress : UInt8
  sessions : UInt32
  baseline : Option Binary64
  target : Option Binary64
  current : Option Binary64
  latestBenchmark : Option Date
  benchmarkInWindow : Bool
  confidence : Confidence
  stalled : Bool
  recommended : Option Transition
  asOf : Date
deriving DecidableEq, Inhabited

namespace Snapshot

/-- The progress below which an old benchmark means that work is stalled. -/
def stalledCeiling : Nat := 50

/-- The snapshot of a record, given its sessions and the date of its latest
benchmark. -/
def ofRecord (settings : Settings) (id : Uuid) (point : BreakingPoint) (sessions : UInt32)
    (latest : Option Date) (asOf : Date) : Snapshot :=
  let inWindow := latest.any fun date =>
    decide (RuleRequest.windowStart asOf point.window ≤ date)
  { id, player := point.player, domain := point.domain, component := point.domain.component,
    status := point.status, effort := point.effort, progress := point.progress, sessions,
    baseline := point.baseline, target := point.target, current := point.current,
    latestBenchmark := latest, benchmarkInWindow := inWindow,
    confidence := settings.confidence.confidence sessions inWindow
    stalled := !point.isResolved && decide (point.progress.toNat < stalledCeiling) &&
      latest.any fun date =>
        decide ((settings.confidence.stalledDays.toNat : Int) < asOf.dayNumber - date.dayNumber)
    recommended :=
      if point.isResolved then none else settings.transitions.decide point sessions
    asOf }

def toJson (snapshot : Snapshot) : Json :=
  .object [
    ("breaking_point_id", .text snapshot.id.toText),
    ("player_id", .text snapshot.player.toText),
    ("domain", .text snapshot.domain.code),
    ("component", .text snapshot.component.code),
    ("status", .text snapshot.status.code),
    ("effort_percent", .nat snapshot.effort.toNat),
    ("progress_percent", .nat snapshot.progress.toNat),
    ("sessions_counted", .nat snapshot.sessions.toNat),
    ("baseline_measurement", Json.ofOption .float snapshot.baseline),
    ("target_measurement", Json.ofOption .float snapshot.target),
    ("current_measurement", Json.ofOption .float snapshot.current),
    ("latest_benchmark_date",
      Json.ofOption (fun date => .text date.toText) snapshot.latestBenchmark),
    ("benchmark_in_window", .bool snapshot.benchmarkInWindow),
    ("confidence", .text snapshot.confidence.code),
    ("stalled", .bool snapshot.stalled),
    ("recommended_transition", Json.ofOption Transition.toJson snapshot.recommended),
    ("evaluated_on", .text snapshot.asOf.toText)]

/-- The snapshot in a document. -/
def read? {Node : Type} [Source Node] (node : Node) : Option Snapshot := do
  let fields ← Source.fields?
    ["breaking_point_id", "player_id", "domain", "component", "status", "effort_percent",
      "progress_percent", "sessions_counted", "baseline_measurement", "target_measurement",
      "current_measurement", "latest_benchmark_date", "benchmark_in_window", "confidence",
      "stalled", "recommended_transition", "evaluated_on"] node
  return {
    id := ← fields.required "breaking_point_id" Uuid.read?
    player := ← fields.required "player_id" Uuid.read?
    domain := ← fields.required "domain" Domain.read?
    component := ← fields.required "component" Component.read?
    status := ← fields.required "status" Status.read?
    effort := ← fields.required "effort_percent" Source.uint8?
    progress := ← fields.required "progress_percent" Source.uint8?
    sessions := ← fields.required "sessions_counted" Source.uint32?
    baseline := ← fields.optional "baseline_measurement" Source.number?
    target := ← fields.optional "target_measurement" Source.number?
    current := ← fields.optional "current_measurement" Source.number?
    latestBenchmark := ← fields.optional "latest_benchmark_date" Date.read?
    benchmarkInWindow := ← fields.required "benchmark_in_window" Source.bool?
    confidence := ← fields.required "confidence" Confidence.read?
    stalled := ← fields.required "stalled" Source.bool?
    recommended := ← fields.optional "recommended_transition" Transition.read?
    asOf := ← fields.required "evaluated_on" Date.read? }

end Snapshot

namespace Tracker

/-- The status of a breaking point. -/
def viewStatus (id : Uuid) : Program (Except Failure StatusView) :=
  .call (.get id) fun
    | .ok (some point) =>
      .done (.ok ⟨id, point.domain, point.status, point.effort, point.progress,
        point.isResolved⟩)
    | .ok none => .done (.error (missing id))
    | .error failure => .done (.error (.store failure))

/-- The call that finds the latest benchmark of a record since it was created,
or on the date itself when it was created later. -/
def latestCall (point : BreakingPoint) (asOf : Date) : Call :=
  .latest point.player point.test (point.createdAt.date.earlier asOf) asOf

/-- The evidence about a breaking point on a date. -/
def evaluate (tracker : Tracker) (id : Uuid) (asOf : Date) : Program (Except Failure Snapshot) :=
  .call (.get id) fun
    | .ok (some point) =>
      .call (countCall point) fun
        | .ok sessions =>
          .call (latestCall point asOf) fun
            | .ok latest =>
              .done (.ok (.ofRecord tracker.settings id point sessions
                (latest.map (·.date)) asOf))
            | .error failure => .done (.error (.store failure))
        | .error failure => .done (.error (.store failure))
    | .ok none => .done (.error (missing id))
    | .error failure => .done (.error (.store failure))

end Tracker

end GolfProgress
