import GolfProgress.Json.Source

/-!
# The life of a breaking point

A breaking point moves from not started through in progress and awaiting proof
to resolved, one step at a time, and stays there.
-/

set_option autoImplicit false

namespace GolfProgress

/-- Where a breaking point stands. -/
inductive Status where
  | notStarted | inProgress | awaitingProof | resolved
deriving DecidableEq, Repr, Inhabited

namespace Status

/-- Every status, in the order of the life of a breaking point. -/
def all : List Status := [.notStarted, .inProgress, .awaitingProof, .resolved]

/-- The stored code. -/
def code : Status → String
  | .notStarted => "not_started"
  | .inProgress => "in_progress"
  | .awaitingProof => "awaiting_proof"
  | .resolved => "resolved"

/-- The place of a status in the order of life. -/
def rank : Status → Nat
  | .notStarted => 0
  | .inProgress => 1
  | .awaitingProof => 2
  | .resolved => 3

/-- Whether nothing follows a status. -/
def isTerminal (status : Status) : Bool := status = .resolved

/-- The one step forward out of a status. -/
def next : Status → Option Status
  | .notStarted => some .inProgress
  | .inProgress => some .awaitingProof
  | .awaitingProof => some .resolved
  | .resolved => none

/-- The status in a document. -/
def read? {Node : Type} [Source Node] (node : Node) : Option Status :=
  Source.choiceOf? (all.map fun status => (status, [status.code])) node

end Status

/-- A move from one status to another. -/
structure Transition where
  start : Status
  goal : Status
deriving DecidableEq, Repr, Inhabited

namespace Transition

/-- Whether a move is the one step forward out of its start. -/
def isForward (transition : Transition) : Bool := transition.start.next = some transition.goal

/-- The move as JSON. -/
def toJson (transition : Transition) : Json :=
  .object [("from", .text transition.start.code), ("to", .text transition.goal.code)]

/-- The move in a document. -/
def read? {Node : Type} [Source Node] (node : Node) : Option Transition := do
  let fields ← Source.fields? ["from", "to"] node
  return ⟨← fields.required "from" Status.read?, ← fields.required "to" Status.read?⟩

end Transition

end GolfProgress
