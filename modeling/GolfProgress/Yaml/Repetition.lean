import GolfProgress.Yaml.Source

/-!
# Repetition in YAML documents

A reference repeats the node of its anchor, and that node may hold references
again, so that a short document can stand for a long one.  A document is read
only as long as the references followed are not too many for its size.

Only references that are read are followed: what stands under a field that the
record does not know is passed over.
-/

set_option autoImplicit false

namespace GolfProgress.Yaml

/-! ## The size of a document -/

mutual

/-- How many marks a node consists of: one for a scalar or a reference, and one at
either end of a collection. -/
def Node.size : Node → Nat
  | .scalar .. => 1
  | .list items => 2 + itemsSize items
  | .map entries => 2 + entriesSize entries
  | .reference _ => 1

/-- The size of some items together. -/
def itemsSize : List Node → Nat
  | [] => 0
  | item :: items => item.size + itemsSize items

/-- The size of some entries together. -/
def entriesSize : List (Node × Node) → Nat
  | [] => 0
  | (key, value) :: entries => key.size + value.size + entriesSize entries

end

namespace Document

/-- How many marks a document consists of; an empty one counts as one mark. -/
def size (document : Document) : Nat := (document.root.map Node.size).getD 1

/-! ## The references followed -/

/-- How many references are followed for a node, given how many are followed for
what it stands for. -/
def followed (document : Document) (inner : Node → Nat) : Node → Nat
  | .reference number => 1 + inner (document.resolve (.reference number))
  | node => inner node

/-- The same for a node that is read without looking into it. -/
def followedInScalar (document : Document) : Node → Nat := document.followed fun _ => 0

/-- The same for a list whose items are read alike. -/
def followedInList (document : Document) (item : Node → Nat) : Node → Nat :=
  document.followed fun
    | .list items => items.foldl (fun count node => count + item node) 0
    | _ => 0

/-- The same for a record, given how many references are followed for the value of
a field.  The key of every entry is read. -/
def followedInRecord (document : Document) (field : String → Node → Nat) : Node → Nat :=
  document.followed fun
    | .map entries =>
      entries.foldl (fun count (key, value) =>
        count + document.followedInScalar key +
          (((document.view key).text?.map fun name => field name value).getD 0)) 0
    | _ => 0

/-- Whether a document may be read when that follows so many references. -/
def allows (document : Document) (count : Nat) : Bool := count ≤ 100 * document.size

end Document

end GolfProgress.Yaml
