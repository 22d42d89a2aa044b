import GolfProgress.Json.Basic
import GolfProgress.Document.Source

/-!
# Reading typed values from JSON

Whole numbers must be written without a point or an exponent; any number reads
as a double-precision one.  A choice is its name, or an object with that name
for its only member and `null` for the value.  A record is an object, whose
other members are passed over, or a list of its fields in order.
-/

set_option autoImplicit false

namespace GolfProgress.Json

/-- The place of a name among choices with one or more names. -/
def placeOf? (choices : List (List String)) (name : String) : Option Nat :=
  choices.findIdx? fun names => names.contains name

instance : Source Json where
  isAbsent
    | .null => true
    | _ => false
  bool?
    | .bool value => some value
    | _ => none
  natural?
    | .int value => if 0 ≤ value then some value.toNat else none
    | _ => none
  number?
    | .int value => some (Binary64.ofInt value)
    | .float value => some value
    | _ => none
  text?
    | .text value => some value
    | _ => none
  items?
    | .list items => some items
    | _ => none
  choice? choices
    | .text name => placeOf? choices name
    | .object [(name, .null)] => placeOf? choices name
    | _ => none
  fields? names
    | .object members => Source.namedFields? names members
    | .list items => Source.positionalFields? names items
    | _ => none

end GolfProgress.Json
