import GolfProgress.BreakingPoint.Basic

/-!
# Patches

A patch names the fields of a breaking point that one write changes.
-/

set_option autoImplicit false

namespace GolfProgress

/-- The fields that a write changes. -/
structure Patch where
  effort : Option UInt8 := none
  progress : Option UInt8 := none
  current : Option Binary64 := none
  status : Option Status := none
  resolvedOn : Option Date := none
deriving DecidableEq, Inhabited

namespace Patch

/-- A patch that changes nothing. -/
def isEmpty (patch : Patch) : Bool :=
  patch.effort.isNone && patch.progress.isNone && patch.current.isNone &&
    patch.status.isNone && patch.resolvedOn.isNone

/-- A breaking point with the fields of a patch written over its own. -/
def apply (patch : Patch) (point : BreakingPoint) : BreakingPoint :=
  { point with
    effort := patch.effort.getD point.effort
    progress := patch.progress.getD point.progress
    current := patch.current.or point.current
    status := patch.status.getD point.status
    resolvedOn := patch.resolvedOn.or point.resolvedOn }

/-- The patch as JSON, without the fields that it leaves alone. -/
def toJson (patch : Patch) : Json :=
  .object (
    (patch.effort.map fun value => ("effort_percent", Json.nat value.toNat)).toList ++
    (patch.progress.map fun value => ("progress_percent", Json.nat value.toNat)).toList ++
    (patch.current.map fun value => ("current_measurement", Json.float value)).toList ++
    (patch.status.map fun status => ("status", Json.text status.code)).toList ++
    (patch.resolvedOn.map fun date => ("resolved_date", Json.text date.toText)).toList)

/-- The patch in a document. -/
def read? {Node : Type} [Source Node] (node : Node) : Option Patch := do
  let fields ← Source.fields?
    ["effort_percent", "progress_percent", "current_measurement", "status",
      "resolved_date"] node
  return {
    effort := ← fields.optional "effort_percent" Source.uint8?
    progress := ← fields.optional "progress_percent" Source.uint8?
    current := ← fields.optional "current_measurement" Source.number?
    status := ← fields.optional "status" Status.read?
    resolvedOn := ← fields.optional "resolved_date" Date.read? }

end Patch

end GolfProgress
