import GolfProgress.Document.Source
import GolfProgress.MessagePack.Basic

/-!
# Reading typed values from MessagePack

Numbers of either form read as whole and as double-precision numbers.  Texts may
be kept as bytes without a meaning, and such bytes are also a list of numbers.
The name of a choice or a field is a text,
such bytes, or its place among the names; a choice may also be a map from its
name to nothing.  A record is a map, whose other entries are passed over, or a
list of its fields in order.
-/

set_option autoImplicit false

namespace GolfProgress.MessagePack

/-- What names a choice or a field. -/
inductive Label where
  | name (bytes : List UInt8)
  | place (value : Nat)
deriving DecidableEq

def label? : MessagePack → Option Label
  | .text content => some (.name content)
  | .binary content => some (.name content)
  | .natural value => some (.place value)
  | _ => none

/-- The place that a label stands for among choices with one or more names. -/
def Label.placeIn? (choices : List (List String)) : Label → Option Nat
  | .name content => do
    let name ← Bytes.toText? content
    choices.findIdx? fun names => names.contains name
  | .place value => if value < choices.length then some value else none

/-- The entries of a map under the names that their labels stand for, without
those of other labels; none if a key is no label. -/
def entries? (names : List String) (entries : List (MessagePack × MessagePack)) :
    Option (List (String × MessagePack)) := do
  let labelled ← entries.mapM fun (key, value) => do return (← label? key, value)
  return labelled.filterMap fun (label, value) => do
    let place ← label.placeIn? (names.map ([·]))
    return (← names[place]?, value)

instance : Source MessagePack where
  isAbsent
    | .null => true
    | _ => false
  bool?
    | .bool value => some value
    | _ => none
  natural?
    | .natural value => some value
    | .signed value => if 0 ≤ value then some value.toNat else none
    | _ => none
  number?
    | .natural value => some (Binary64.ofInt value)
    | .signed value => some (Binary64.ofInt value)
    | .float value => some value
    | _ => none
  text?
    | .text content => Bytes.toText? content
    | .binary content => Bytes.toText? content
    | _ => none
  items?
    | .list items => some items
    | .binary content => some (content.map fun byte => .natural byte.toNat)
    | _ => none
  choice? choices
    | .map [(key, .null)] => (label? key).bind (Label.placeIn? choices)
    | node => (label? node).bind (Label.placeIn? choices)
  fields? names
    | .map entries => (entries? names entries).bind (Source.namedFields? names)
    | .list items => Source.positionalFields? names items
    | _ => none

end GolfProgress.MessagePack
