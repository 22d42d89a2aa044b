import GolfProgress.Binary64.Basic

/-!
# JSON values

The tree of a JSON document.  A number written without a point or an exponent
is an integer as long as it fits 64 bits, signed or not; every other number is a
double-precision one.  The members of an object keep their order.
-/

set_option autoImplicit false

namespace GolfProgress

/-- A JSON value. -/
inductive Json where
  | null
  | bool (value : Bool)
  | int (value : Int)
  | float (value : Binary64)
  | text (value : String)
  | list (items : List Json)
  | object (members : List (String × Json))

namespace Json

instance : Inhabited Json := ⟨.null⟩

/-- A natural number as a JSON integer. -/
def nat (value : Nat) : Json := .int value

/-- The value of an optional part, `null` when there is none. -/
def ofOption {α : Type} (write : α → Json) : Option α → Json
  | some value => write value
  | none => .null

/-- The list of the JSON forms of some values. -/
def ofList {α : Type} (write : α → Json) (values : List α) : Json := .list (values.map write)

/-- The member of an object with a name, the last of several. -/
def member? (name : String) : Json → Option Json
  | .object members => (members.reverse.find? fun entry => entry.1 = name).map (·.2)
  | _ => none

/-- An object with further members. -/
def extend (value : Json) (added : List (String × Json)) : Json :=
  match value with
  | .object members => .object (members ++ added)
  | other => other

end Json

end GolfProgress
