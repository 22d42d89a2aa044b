import GolfProgress.Binary64.Basic

/-!
# Reading typed values from documents

Settings, catalogs, tables and records are read from documents of several
notations.  A notation is a type of nodes with the views collected in `Source`;
every reader of a domain type is written once against these views.

A record is read by the names of its fields.  Some notations also accept its
fields by position; then a field may be left out only when it has a default and
every field after it is left out too.
-/

set_option autoImplicit false

namespace GolfProgress

/-- The fields of a record found in a document. -/
structure Fields (Node : Type) where
  /-- Whether the fields were given by name. -/
  named : Bool
  /-- The nodes of the fields that are present. -/
  present : List (String × Node)

/-- The views of a node of some document notation.  A view is `none` when the
node is not of the kind asked for. -/
class Source (Node : Type) where
  /-- Whether the node stands for a missing optional value. -/
  isAbsent : Node → Bool
  /-- A truth value. -/
  bool? : Node → Option Bool
  /-- A whole number that is not negative. -/
  natural? : Node → Option Nat
  /-- A double-precision number. -/
  number? : Node → Option Binary64
  /-- A text. -/
  text? : Node → Option String
  /-- The items of a list. -/
  items? : Node → Option (List Node)
  /-- The place of a named choice among choices with one or more names. -/
  choice? : List (List String) → Node → Option Nat
  /-- The fields of a record with the given field names. -/
  fields? : List String → Node → Option (Fields Node)

namespace Fields

variable {Node : Type} [Source Node] {α : Type}

def find? (fields : Fields Node) (name : String) : Option Node :=
  (fields.present.find? fun entry => entry.1 = name).map (·.2)

/-- A field that must be present. -/
def required (fields : Fields Node) (name : String) (read : Node → Option α) : Option α := do
  read (← fields.find? name)

/-- A field that may be missing, in a record of named fields, or absent. -/
def optional (fields : Fields Node) (name : String) (read : Node → Option α) :
    Option (Option α) :=
  match fields.find? name with
  | none => if fields.named then some none else none
  | some node => if Source.isAbsent node then some none else (read node).map some

/-- A field with a default for when it is missing. -/
def defaulting (fields : Fields Node) (name : String) (default : α)
    (read : Node → Option α) : Option α :=
  match fields.find? name with
  | none => some default
  | some node => read node

end Fields

namespace Source

variable {Node : Type} [Source Node]

/-- A whole number of eight bits. -/
def uint8? (node : Node) : Option UInt8 := do
  let value ← natural? node
  if value < UInt8.size then some (UInt8.ofNat value) else none

/-- A whole number of thirty-two bits. -/
def uint32? (node : Node) : Option UInt32 := do
  let value ← natural? node
  if value < UInt32.size then some (UInt32.ofNat value) else none

/-- A whole number of sixty-four bits. -/
def uint64? (node : Node) : Option UInt64 := do
  let value ← natural? node
  if value < UInt64.size then some (UInt64.ofNat value) else none

/-- A list whose items are all read alike. -/
def listOf? {α : Type} (read : Node → Option α) (node : Node) : Option (List α) := do
  (← items? node).mapM read

/-- One of the values listed beside their names. -/
def choiceOf? {α : Type} (choices : List (α × List String)) (node : Node) : Option α := do
  (choices[← choice? (choices.map (·.2)) node]?).map (·.1)

/-- The fields of a record found among named entries; no field may come twice. -/
def namedFields? (names : List String) (entries : List (String × Node)) :
    Option (Fields Node) :=
  let known := entries.filter fun entry => names.contains entry.1
  if (known.map (·.1)).Nodup then some ⟨true, known⟩ else none

/-- The fields of a record given by position; there may not be more than its
names. -/
def positionalFields? (names : List String) (items : List Node) : Option (Fields Node) :=
  if items.length ≤ names.length then some ⟨false, names.zip items⟩ else none

end Source

end GolfProgress
