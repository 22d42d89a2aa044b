/-!
# Violations

A validated record lists what is wrong with it: the field at fault, or
`__all__` for a check across fields, and the rule that it breaks.
-/

set_option autoImplicit false

namespace GolfProgress

/-- A field and the rule that it breaks. -/
structure Violation where
  field : String
  rule : String
deriving DecidableEq, Inhabited

namespace Violation

def toText (violation : Violation) : String := violation.field ++ ":" ++ violation.rule

/-- The violation of a check across fields. -/
def across (rule : String) : Violation := ⟨"__all__", rule⟩

def range (field : String) : Violation := ⟨field, "range"⟩

/-- A violation inside a section of a larger record. -/
def within (group : String) (violation : Violation) : Violation :=
  ⟨group ++ "." ++ violation.field, violation.rule⟩

/-- One violation when a check fails, none when it holds. -/
def ifNot (holds : Bool) (violation : Violation) : List Violation :=
  if holds then [] else [violation]

end Violation

end GolfProgress
