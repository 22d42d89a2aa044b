import GolfProgress.Failure
import GolfProgress.Json.Source

/-!
# Settings

Every tunable constant of the tracker and of the constraint analysis, in
sections.  A document of settings names only the fields that it changes; the
others keep their defaults.  `Settings.violations` lists what is out of range,
in ascending order of the texts.
-/

set_option autoImplicit false

namespace GolfProgress

/-! ## Effort -/

/-- The effort curve: so much for each session, up to a ceiling. -/
structure EffortSettings where
  /-- Effort points for each completed session. -/
  perSession : UInt32 := 5
  /-- Where effort saturates; beyond 100 it exceeds the plan. -/
  ceiling : UInt8 := 150
deriving DecidableEq, Inhabited

namespace EffortSettings

/-- What is out of range. -/
def violations (settings : EffortSettings) : List Violation :=
  Violation.ifNot (1 ≤ settings.perSession.toNat && settings.perSession.toNat ≤ 150)
    (.range "effort_per_session") ++
  Violation.ifNot (1 ≤ settings.ceiling.toNat && settings.ceiling.toNat ≤ 150)
    (.range "max_effort_percent")

/-- The section as JSON. -/
def toJson (settings : EffortSettings) : Json :=
  .object [("effort_per_session", .nat settings.perSession.toNat),
    ("max_effort_percent", .nat settings.ceiling.toNat)]

/-- The section in a document. -/
def read? {Node : Type} [Source Node] (node : Node) : Option EffortSettings := do
  let fields ← Source.fields? ["effort_per_session", "max_effort_percent"] node
  return {
    perSession := ← fields.defaulting "effort_per_session" 5 Source.uint32?
    ceiling := ← fields.defaulting "max_effort_percent" 150 Source.uint8? }

end EffortSettings

/-! ## Progress -/

/-- The progress curve. -/
structure ProgressSettings where
  /-- The highest progress of a reading that does not pass. -/
  unresolvedCap : UInt8 := 99
deriving DecidableEq, Inhabited

namespace ProgressSettings

/-- What is out of range. -/
def violations (settings : ProgressSettings) : List Violation :=
  Violation.ifNot (settings.unresolvedCap.toNat ≤ 99) (.range "unresolved_progress_cap")

/-- The section as JSON. -/
def toJson (settings : ProgressSettings) : Json :=
  .object [("unresolved_progress_cap", .nat settings.unresolvedCap.toNat)]

/-- The section in a document. -/
def read? {Node : Type} [Source Node] (node : Node) : Option ProgressSettings := do
  let fields ← Source.fields? ["unresolved_progress_cap"] node
  return { unresolvedCap := ← fields.defaulting "unresolved_progress_cap" 99 Source.uint8? }

end ProgressSettings

/-! ## Transitions -/

/-- The guards of the status machine. -/
structure TransitionSettings where
  /-- The effort at which proof is asked for. -/
  highEffort : UInt8 := 50
  /-- The sessions needed beside that effort. -/
  minSessions : UInt32 := 10
deriving DecidableEq, Inhabited

namespace TransitionSettings

/-- What is out of range. -/
def violations (settings : TransitionSettings) : List Violation :=
  Violation.ifNot (1 ≤ settings.highEffort.toNat && settings.highEffort.toNat ≤ 150)
    (.range "high_effort_threshold")

/-- The section as JSON. -/
def toJson (settings : TransitionSettings) : Json :=
  .object [("high_effort_threshold", .nat settings.highEffort.toNat),
    ("min_sessions_for_proof", .nat settings.minSessions.toNat)]

/-- The section in a document. -/
def read? {Node : Type} [Source Node] (node : Node) : Option TransitionSettings := do
  let fields ← Source.fields? ["high_effort_threshold", "min_sessions_for_proof"] node
  return {
    highEffort := ← fields.defaulting "high_effort_threshold" 50 Source.uint8?
    minSessions := ← fields.defaulting "min_sessions_for_proof" 10 Source.uint32? }

end TransitionSettings

/-! ## Confidence -/

/-- How much evidence makes a picture trustworthy, and when it is stale. -/
structure ConfidenceSettings where
  forHigh : UInt32 := 10
  forMedium : UInt32 := 3
  /-- Days since the latest benchmark after which a breaking point is stalled. -/
  stalledDays : UInt32 := 30
deriving DecidableEq, Inhabited

namespace ConfidenceSettings

/-- What is out of range or out of order.  The order is checked whether or not a field is
out of range. -/
def violations (settings : ConfidenceSettings) : List Violation :=
  Violation.ifNot (settings.forMedium.toNat ≤ settings.forHigh.toNat)
    (.across "medium_above_high") ++
  Violation.ifNot (1 ≤ settings.stalledDays.toNat) (.range "stalled_threshold_days")

/-- The section as JSON. -/
def toJson (settings : ConfidenceSettings) : Json :=
  .object [("min_sessions_for_high", .nat settings.forHigh.toNat),
    ("min_sessions_for_medium", .nat settings.forMedium.toNat),
    ("stalled_threshold_days", .nat settings.stalledDays.toNat)]

/-- The section in a document. -/
def read? {Node : Type} [Source Node] (node : Node) : Option ConfidenceSettings := do
  let fields ← Source.fields?
    ["min_sessions_for_high", "min_sessions_for_medium", "stalled_threshold_days"] node
  return {
    forHigh := ← fields.defaulting "min_sessions_for_high" 10 Source.uint32?
    forMedium := ← fields.defaulting "min_sessions_for_medium" 3 Source.uint32?
    stalledDays := ← fields.defaulting "stalled_threshold_days" 30 Source.uint32? }

end ConfidenceSettings

/-! ## Constraints -/

/-- How binding constraints are ranked and scored. -/
structure ConstraintSettings where
  /-- How many constraints a report lists. -/
  maxBinding : UInt32 := 4
  /-- The penalty on readiness for each unit of gap of a hard requirement. -/
  hardWeight : Binary64 := 2
  /-- The penalty on readiness for each unit of gap of a soft requirement. -/
  softWeight : Binary64 := 1
deriving DecidableEq, Inhabited

namespace ConstraintSettings

/-- What is out of range or out of order.  A weight is refused only when a
comparison says so, and not-a-number compares with nothing.  The order of the weights
is checked whether or not one of them is out of range. -/
def violations (settings : ConstraintSettings) : List Violation :=
  Violation.ifNot (!decide (settings.hardWeight ≤ settings.softWeight))
    (.across "hard_weight_not_above_soft") ++
  Violation.ifNot (!decide (settings.hardWeight < 0)) (.range "hard_weight") ++
  Violation.ifNot (1 ≤ settings.maxBinding.toNat && settings.maxBinding.toNat ≤ 50)
    (.range "max_binding_constraints") ++
  Violation.ifNot (!decide (settings.softWeight < 0)) (.range "soft_weight")

/-- A negative hard weight is out of range and out of order. -/
example : ({ hardWeight := -3 } : ConstraintSettings).violations =
    [.across "hard_weight_not_above_soft", .range "hard_weight"] := by decide +kernel

/-- The section as JSON. -/
def toJson (settings : ConstraintSettings) : Json :=
  .object [("max_binding_constraints", .nat settings.maxBinding.toNat),
    ("hard_weight", .float settings.hardWeight), ("soft_weight", .float settings.softWeight)]

/-- The section in a document. -/
def read? {Node : Type} [Source Node] (node : Node) : Option ConstraintSettings := do
  let fields ← Source.fields? ["max_binding_constraints", "hard_weight", "soft_weight"] node
  return {
    maxBinding := ← fields.defaulting "max_binding_constraints" 4 Source.uint32?
    hardWeight := ← fields.defaulting "hard_weight" 2 Source.number?
    softWeight := ← fields.defaulting "soft_weight" 1 Source.number? }

end ConstraintSettings

/-! ## Writes -/

/-- How often a write is tried. -/
structure WriteSettings where
  /-- Attempts to read, plan and write before a version conflict is given up. -/
  maxAttempts : UInt32 := 3
deriving DecidableEq, Inhabited

namespace WriteSettings

/-- What is out of range. -/
def violations (settings : WriteSettings) : List Violation :=
  Violation.ifNot (1 ≤ settings.maxAttempts.toNat && settings.maxAttempts.toNat ≤ 20)
    (.range "max_write_attempts")

/-- The section as JSON. -/
def toJson (settings : WriteSettings) : Json :=
  .object [("max_write_attempts", .nat settings.maxAttempts.toNat)]

/-- The section in a document. -/
def read? {Node : Type} [Source Node] (node : Node) : Option WriteSettings := do
  let fields ← Source.fields? ["max_write_attempts"] node
  return { maxAttempts := ← fields.defaulting "max_write_attempts" 3 Source.uint32? }

end WriteSettings

/-! ## All sections -/

/-- The settings of the whole engine. -/
structure Settings where
  effort : EffortSettings := {}
  progress : ProgressSettings := {}
  transitions : TransitionSettings := {}
  confidence : ConfidenceSettings := {}
  constraints : ConstraintSettings := {}
  store : WriteSettings := {}
deriving DecidableEq, Inhabited

namespace Settings

/-- Settings that ask for more effort and volume before a benchmark. -/
def strict : Settings :=
  { transitions := { highEffort := 70, minSessions := 14 },
    confidence := { forHigh := 14, forMedium := 5 } }

/-- Everything out of range or out of order, sections and fields in ascending
order of their names. -/
def violations (settings : Settings) : List Violation :=
  settings.confidence.violations.map (.within "confidence") ++
  settings.constraints.violations.map (.within "constraints") ++
  settings.effort.violations.map (.within "effort") ++
  settings.progress.violations.map (.within "progress") ++
  settings.store.violations.map (.within "store") ++
  settings.transitions.violations.map (.within "transitions")

/-- The settings themselves when nothing is out of range. -/
def check (settings : Settings) : Except Failure Settings :=
  if settings.violations = [] then .ok settings
  else .error (.settings (.violations settings.violations))

def toJson (settings : Settings) : Json :=
  .object [("effort", settings.effort.toJson), ("progress", settings.progress.toJson),
    ("transitions", settings.transitions.toJson), ("confidence", settings.confidence.toJson),
    ("constraints", settings.constraints.toJson), ("store", settings.store.toJson)]

/-- The settings in a document, whatever their ranges. -/
def read? {Node : Type} [Source Node] (node : Node) : Option Settings := do
  let fields ← Source.fields?
    ["effort", "progress", "transitions", "confidence", "constraints", "store"] node
  return {
    effort := ← fields.defaulting "effort" {} EffortSettings.read?
    progress := ← fields.defaulting "progress" {} ProgressSettings.read?
    transitions := ← fields.defaulting "transitions" {} TransitionSettings.read?
    confidence := ← fields.defaulting "confidence" {} ConfidenceSettings.read?
    constraints := ← fields.defaulting "constraints" {} ConstraintSettings.read?
    store := ← fields.defaulting "store" {} WriteSettings.read? }

end Settings

end GolfProgress
