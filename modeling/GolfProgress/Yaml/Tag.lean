import GolfProgress.Bytes.Utf8
import GolfProgress.Text.Digits
import GolfProgress.Yaml.Spot

/-!
# YAML tags, anchors and directives

The names that a stream attaches to nodes, and the lines before a document that
say how to read it.  A tag is a handle and a suffix; a document may say what its
handles stand for.

Tags are octets.  Escapes must look like the octets of characters, but need not
spell a text, and what comes after a zero octet is no part of a tag.
-/

set_option autoImplicit false

namespace GolfProgress.Yaml

/-- A tag as written. -/
structure Tag where
  /-- The handle, empty for a tag written out in full. -/
  handle : String
  suffix : List UInt8
deriving DecidableEq, Repr, Inhabited

/-- A line before a document that says how to read it. -/
inductive Directive where
  | version (major minor : Nat)
  /-- What a tag handle stands for. -/
  | handle (name : String) (expansion : List UInt8)
deriving DecidableEq, Repr, Inhabited

/-- The characters of tags that stand for themselves. -/
def isTagChar (c : Char) : Bool :=
  isWord c || [';', '/', '?', ':', '@', '&', '=', '+', '$', '.', '!', '~', '*', '\'', '(',
    ')'].contains c

/-- Whether octets have the shape of characters when some octets of one are still
to come. -/
def isShaped : Nat → List UInt8 → Bool
  | pending, [] => pending == 0
  | 0, octet :: rest =>
    match Bytes.followers? octet with
    | none => false
    | some pending => isShaped pending rest
  | pending + 1, octet :: rest => 0x80 ≤ octet && octet < 0xC0 && isShaped pending rest

/-- A part of a tag whose percent signs introduce octets, up to a character that
no tag holds. -/
def tagOctets? (test : Char → Bool) : Nat → List UInt8 → List Spot →
    Option (List UInt8 × List Spot)
  | 0, _, _ => none
  | _, octets, [] => some (octets.reverse, [])
  | fuel + 1, octets, spot :: rest =>
    if spot.char == '%' then do
      let digits := (rest.take 2).map (·.char)
      let octet ← Text.hexValueOf? digits
      if digits.length = 2 then tagOctets? test fuel (UInt8.ofNat octet :: octets) (rest.drop 2)
      else none
    else if test spot.char then
      tagOctets? test fuel (UInt8.ofNat spot.char.toNat :: octets) rest
    else some (octets.reverse, spot :: rest)

/-- A part of a tag, which may be empty. -/
def tagPart? (test : Char → Bool) (spots : List Spot) : Option (List UInt8 × List Spot) := do
  let (octets, rest) ← tagOctets? test (spots.length + 1) [] spots
  if isShaped 0 octets then some (octets, rest) else none

/-- A part of a tag in which something is written. -/
def writtenPart? (test : Char → Bool) (spots : List Spot) :
    Option (List UInt8 × List Spot) := do
  let (octets, rest) ← tagPart? test spots
  if octets = [] then none else some (octets, rest)

/-- The octets before the first zero. -/
def beforeZero (octets : List UInt8) : List UInt8 := octets.takeWhile (· ≠ 0)

/-- A part of a tag that may hold the two brackets and the comma too. -/
def fullPart? (spots : List Spot) : Option (List UInt8 × List Spot) := do
  let (octets, rest) ←
    writtenPart? (fun c => isTagChar c || [',', '[', ']'].contains c) spots
  return (beforeZero octets, rest)

/-- The tag that is only an exclamation mark. -/
def Tag.lone : Tag := ⟨"", Bytes.ofText "!"⟩

/-- A tag whose exclamation mark is behind. -/
def tag? (flow : Bool) (spots : List Spot) : Option (Tag × List Spot) := do
  let (tag, rest) ←
    if startsWith '<' spots then do
      let (suffix, rest) ← fullPart? (spots.drop 1)
      if startsWith '>' rest then some (⟨"", suffix⟩, rest.drop 1) else none
    else do
      let (name, rest) := takeChars isWord spots
      if startsWith '!' rest then do
        let (suffix, rest) ← writtenPart? isTagChar (rest.drop 1)
        some (⟨"!" ++ String.ofList name ++ "!", beforeZero suffix⟩, rest)
      else do
        let (suffix, rest) ← tagPart? isTagChar spots
        let suffix := beforeZero suffix
        some (if suffix = [] then Tag.lone else ⟨"!", suffix⟩, rest)
  if atGap rest || (flow && startsWith ',' rest) then some (tag, rest) else none

/-- The name of an anchor or of a reference to one. -/
def anchorName? (spots : List Spot) : Option (String × List Spot) :=
  let (name, rest) := takeChars isWord spots
  let ended := atGap rest ||
    ['?', ':', ',', ']', '\x7d', '%', '@', '\x60'].any fun c => startsWith c rest
  if name ≠ [] ∧ ended then some (String.ofList name, rest) else none

/-- A part of a version number, nine digits at most. -/
def versionPart? (spots : List Spot) : Option (Nat × List Spot) :=
  let (digits, rest) := takeChars Char.isDigit spots
  if digits ≠ [] ∧ digits.length ≤ 9 then some (Text.valueOf digits, rest) else none

/-- A directive whose percent sign is behind. -/
def directive? (spots : List Spot) : Option (Directive × List Spot) := do
  let (name, rest) := takeChars isWord spots
  if !atGap rest then none
  match String.ofList name with
  | "YAML" =>
    let (major, rest) ← versionPart? (skipBlanks rest)
    if !startsWith '.' rest then none
    let (minor, rest) ← versionPart? (rest.drop 1)
    return (.version major minor, ← skipLine? rest)
  | "TAG" =>
    let rest := skipBlanks rest
    if !startsWith '!' rest then none
    let (word, rest) := takeChars isWord (rest.drop 1)
    let (handle, rest) ←
      if startsWith '!' rest then some ("!" ++ String.ofList word ++ "!", rest.drop 1)
      else if word = [] then some ("!", rest)
      else none
    if !(rest.head?.any fun spot => isBlank spot.char) then none
    let (expansion, rest) ← fullPart? (skipBlanks rest)
    if !atGap rest then none
    return (.handle handle expansion, ← skipLine? rest)
  | _ => none

end GolfProgress.Yaml
