import GolfProgress.Binary64.Bits
import GolfProgress.Bytes.Order
import GolfProgress.Bytes.Utf8

/-!
# MessagePack values

The tree of a MessagePack document, its bytes, and reading it back.  Writing
uses the shortest form that holds a length or a natural number, and eight bytes
for a double-precision number; reading takes every form.  Texts are kept as
bytes, since a document may hold some that are not UTF-8.
-/

set_option autoImplicit false

namespace GolfProgress

/-- A MessagePack value. -/
inductive MessagePack where
  | null
  | bool (value : Bool)
  /-- A number in one of the forms for natural numbers. -/
  | natural (value : Nat)
  /-- A number in one of the forms for whole numbers with a sign. -/
  | signed (value : Int)
  | float (value : Binary64)
  | text (bytes : List UInt8)
  | binary (bytes : List UInt8)
  | list (items : List MessagePack)
  | map (entries : List (MessagePack × MessagePack))
  /-- Bytes of a kind that the format leaves open. -/
  | extension (kind : UInt8) (bytes : List UInt8)
deriving Inhabited

namespace MessagePack

def ofText (text : String) : MessagePack := .text (Bytes.ofText text)

/-- A record with fields by name. -/
def record (fields : List (String × MessagePack)) : MessagePack :=
  .map (fields.map fun (name, value) => (ofText name, value))

/-! ## Writing -/

/-- A byte with a number of that byte's width added. -/
def mark (first offset : Nat) : UInt8 := UInt8.ofNat (first + offset)

/-- A form mark and a number in some bytes, highest first. -/
def marked (form : UInt8) (width value : Nat) : List UInt8 := form :: Bytes.big width value

/-- The bytes of a natural number. -/
def naturalBytes (value : Nat) : List UInt8 :=
  if value < 128 then [mark 0 value]
  else if value < UInt8.size then marked 0xcc 1 value
  else if value < UInt16.size then marked 0xcd 2 value
  else if value < UInt32.size then marked 0xce 4 value
  else marked 0xcf 8 value

/-- The bytes before a text of a length. -/
def textHead (length : Nat) : List UInt8 :=
  if length < 32 then [mark 0xa0 length]
  else if length < UInt8.size then marked 0xd9 1 length
  else if length < UInt16.size then marked 0xda 2 length
  else marked 0xdb 4 length

/-- The bytes before some bytes without a meaning. -/
def binaryHead (length : Nat) : List UInt8 :=
  if length < UInt8.size then marked 0xc4 1 length
  else if length < UInt16.size then marked 0xc5 2 length
  else marked 0xc6 4 length

/-- The bytes before a collection of a size: a short form with its mark, and the
marks of the forms with two and four bytes. -/
def collectionHead (short : Nat) (medium long : UInt8) (size : Nat) : List UInt8 :=
  if size < 16 then [mark short size]
  else if size < UInt16.size then marked medium 2 size
  else marked long 4 size

/-- The bytes before a list. -/
def listHead (size : Nat) : List UInt8 := collectionHead 0x90 0xdc 0xdd size

/-- The bytes before a map. -/
def mapHead (size : Nat) : List UInt8 := collectionHead 0x80 0xde 0xdf size

mutual

def bytes : MessagePack → List UInt8
  | .null => [0xc0]
  | .bool value => [if value then 0xc3 else 0xc2]
  | .natural value => naturalBytes value
  | .signed value => marked 0xd3 8 (value % UInt64.size).toNat
  | .float value => marked 0xcb 8 value.toBits.toNat
  | .text content => textHead content.length ++ content
  | .binary content => binaryHead content.length ++ content
  | .list items => listHead items.length ++ itemsBytes items
  | .map entries => mapHead entries.length ++ entriesBytes entries
  | .extension kind content => marked 0xc9 4 content.length ++ kind :: content

def itemsBytes : List MessagePack → List UInt8
  | [] => []
  | item :: rest => bytes item ++ itemsBytes rest

/-- The bytes of the entries of a map. -/
def entriesBytes : List (MessagePack × MessagePack) → List UInt8
  | [] => []
  | (key, value) :: rest => bytes key ++ (bytes value ++ entriesBytes rest)

end

/-! ## Reading -/

/-- A count of things read one after the other. -/
def many? {α : Type} (read : List UInt8 → Option (α × List UInt8)) :
    Nat → List UInt8 → Option (List α × List UInt8)
  | 0, bytes => some ([], bytes)
  | count + 1, bytes => do
    let (item, bytes) ← read bytes
    let (items, bytes) ← many? read count bytes
    return (item :: items, bytes)

/-- Two things read one after the other. -/
def pair? {α : Type} (read : List UInt8 → Option (α × List UInt8)) (bytes : List UInt8) :
    Option ((α × α) × List UInt8) := do
  let (first, bytes) ← read bytes
  let (second, bytes) ← read bytes
  return ((first, second), bytes)

/-- A whole number with a sign in some bytes, highest first. -/
def takeSigned? (width : Nat) (bytes : List UInt8) : Option (MessagePack × List UInt8) :=
  (Bytes.takeBig? width bytes).map fun (value, rest) =>
    (.signed (Int.bmod value (Nat.pow 256 width)), rest)

/-- A natural number in some bytes, highest first. -/
def takeNatural? (width : Nat) (bytes : List UInt8) : Option (MessagePack × List UInt8) :=
  (Bytes.takeBig? width bytes).map fun (value, rest) => (.natural value, rest)

def takeText? (length : Nat) (bytes : List UInt8) : Option (MessagePack × List UInt8) :=
  (Bytes.take? length bytes).map fun (content, rest) => (.text content, rest)

/-- Bytes of a length without a meaning. -/
def takeBinary? (length : Nat) (bytes : List UInt8) : Option (MessagePack × List UInt8) :=
  (Bytes.take? length bytes).map fun (content, rest) => (.binary content, rest)

/-- Bytes of a length and their kind. -/
def takeExtension? (length : Nat) (bytes : List UInt8) : Option (MessagePack × List UInt8) :=
  match bytes with
  | [] => none
  | kind :: bytes => (Bytes.take? length bytes).map fun (content, rest) =>
    (.extension kind content, rest)

/-- What follows a length in some bytes. -/
def sized? (width : Nat) (bytes : List UInt8)
    (read : Nat → List UInt8 → Option (MessagePack × List UInt8)) :
    Option (MessagePack × List UInt8) := do
  let (length, bytes) ← Bytes.takeBig? width bytes
  read length bytes

/-- A value without parts of its own, whose form mark is behind. -/
def takeLeaf? (form : Nat) (bytes : List UInt8) : Option (MessagePack × List UInt8) :=
  if form < 0x80 then some (.natural form, bytes)
  else if 0xe0 ≤ form then some (.signed (form - 0x100), bytes)
  else if form < 0xc0 then takeText? (form - 0xa0) bytes
  else
    match form with
    | 0xc0 => some (.null, bytes)
    | 0xc2 => some (.bool false, bytes)
    | 0xc3 => some (.bool true, bytes)
    | 0xc4 => sized? 1 bytes takeBinary?
    | 0xc5 => sized? 2 bytes takeBinary?
    | 0xc6 => sized? 4 bytes takeBinary?
    | 0xc7 => sized? 1 bytes takeExtension?
    | 0xc8 => sized? 2 bytes takeExtension?
    | 0xc9 => sized? 4 bytes takeExtension?
    | 0xca => (Bytes.takeBig? 4 bytes).map fun (word, rest) =>
      (.float (Binary64.ofSingleBits (UInt32.ofNat word)), rest)
    | 0xcb => (Bytes.takeBig? 8 bytes).map fun (word, rest) =>
      (.float (Binary64.ofBits (UInt64.ofNat word)), rest)
    | 0xcc => takeNatural? 1 bytes
    | 0xcd => takeNatural? 2 bytes
    | 0xce => takeNatural? 4 bytes
    | 0xcf => takeNatural? 8 bytes
    | 0xd0 => takeSigned? 1 bytes
    | 0xd1 => takeSigned? 2 bytes
    | 0xd2 => takeSigned? 4 bytes
    | 0xd3 => takeSigned? 8 bytes
    | 0xd4 => takeExtension? 1 bytes
    | 0xd5 => takeExtension? 2 bytes
    | 0xd6 => takeExtension? 4 bytes
    | 0xd7 => takeExtension? 8 bytes
    | 0xd8 => takeExtension? 16 bytes
    | 0xd9 => sized? 1 bytes takeText?
    | 0xda => sized? 2 bytes takeText?
    | 0xdb => sized? 4 bytes takeText?
    | _ => none

/-- The size of a list whose form mark is behind; none if it is no list. -/
def listSize? (form : Nat) (bytes : List UInt8) : Option (Option Nat × List UInt8) :=
  if 0x90 ≤ form ∧ form < 0xa0 then some (some (form - 0x90), bytes)
  else if form = 0xdc then (Bytes.takeBig? 2 bytes).map fun (size, rest) => (some size, rest)
  else if form = 0xdd then (Bytes.takeBig? 4 bytes).map fun (size, rest) => (some size, rest)
  else some (none, bytes)

/-- The size of a map whose form mark is behind; none if it is no map. -/
def mapSize? (form : Nat) (bytes : List UInt8) : Option (Option Nat × List UInt8) :=
  if 0x80 ≤ form ∧ form < 0x90 then some (some (form - 0x80), bytes)
  else if form = 0xde then (Bytes.takeBig? 2 bytes).map fun (size, rest) => (some size, rest)
  else if form = 0xdf then (Bytes.takeBig? 4 bytes).map fun (size, rest) => (some size, rest)
  else some (none, bytes)

/-- Whether a form mark stands before bytes of a kind that the format leaves open. -/
def isExtension (form : UInt8) : Bool :=
  (0xc7 ≤ form && form ≤ 0xc9) || (0xd4 ≤ form && form ≤ 0xd8)

/-- A value off the head of some bytes, with collections nested at most `depth` deep;
an extension counts as a collection. -/
def take? : Nat → List UInt8 → Option (MessagePack × List UInt8)
  | _, [] => none
  | 0, form :: bytes =>
    match listSize? form.toNat bytes, mapSize? form.toNat bytes with
    | some (none, _), some (none, _) =>
      if isExtension form then none else takeLeaf? form.toNat bytes
    | _, _ => none
  | depth + 1, form :: bytes => do
    match ← listSize? form.toNat bytes with
    | (some size, bytes) =>
      let (items, bytes) ← many? (take? depth) size bytes
      return (.list items, bytes)
    | (none, bytes) =>
      match ← mapSize? form.toNat bytes with
      | (some size, bytes) =>
        let (entries, bytes) ← many? (pair? (take? depth)) size bytes
        return (.map entries, bytes)
      | (none, bytes) => takeLeaf? form.toNat bytes

/-- How deep collections and extensions may be nested in a document. -/
def maxDepth : Nat := 1023

/-- The value at the head of some bytes. -/
def ofBytes? (bytes : List UInt8) : Option MessagePack := (take? maxDepth bytes).map (·.1)

end MessagePack

end GolfProgress
