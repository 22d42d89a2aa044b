import GolfProgress.Registry.Metric

/-!
# Comparisons

A rule compares a reading with a required value by `>=` or `<=`.  Each direction
has the comparison that means "meets the target".
-/

set_option autoImplicit false

namespace GolfProgress

/-- How an actual value is compared with a required one. -/
inductive Comparison where
  | atLeast | atMost
deriving DecidableEq, Repr, Inhabited

namespace Comparison

/-- The written sign. -/
def symbol : Comparison → String
  | .atLeast => ">="
  | .atMost => "<="

/-- The comparison of a written sign. -/
def ofSymbol? (symbol : String) : Option Comparison :=
  if symbol = ">=" then some .atLeast else if symbol = "<=" then some .atMost else none

/-- Whether an actual value stands in the comparison to a required one. -/
def holds (comparison : Comparison) (actual required : Binary64) : Bool :=
  match comparison with
  | .atLeast => decide (required ≤ actual)
  | .atMost => decide (actual ≤ required)

/-- The comparison that means "meets the target". -/
def ofDirection : Direction → Comparison
  | .higherBetter => .atLeast
  | .lowerBetter => .atMost

/-- The comparison in a document. -/
def read? {Node : Type} [Source Node] (node : Node) : Option Comparison :=
  Source.choiceOf? [(.atLeast, [">="]), (.atMost, ["<="])] node

end Comparison

end GolfProgress
