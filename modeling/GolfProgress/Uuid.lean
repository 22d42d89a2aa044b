import GolfProgress.Text.Digits

/-!
# Universally unique identifiers

Players and breaking points are identified by 128-bit values.  They are written
in small hexadecimal digits in groups of 8, 4, 4, 4 and 12; they are read in that
form with digits of either case, and also without hyphens, in braces, or after
`urn:uuid:` in letters of either case.
-/

set_option autoImplicit false

namespace GolfProgress

/-- A universally unique identifier. -/
structure Uuid where
  value : BitVec 128
deriving DecidableEq

namespace Uuid

/-- The identifier with every bit clear. -/
def nil : Uuid := ⟨0⟩

instance : Inhabited Uuid := ⟨nil⟩

/-- The written form in hyphenated groups. -/
def toText (id : Uuid) : String :=
  let digits := Text.hexPadded 32 id.value.toNat
  let group (start length : Nat) := (digits.drop start).take length
  String.ofList (group 0 8 ++ '-' :: group 8 4 ++ '-' :: group 12 4 ++ '-' :: group 16 4 ++
    '-' :: group 20 12)

/-- The identifier of thirty-two hexadecimal digits. -/
def ofDigits? (digits : List Char) : Option Uuid :=
  if digits.length = 32 then (Text.hexValueOf? digits).map fun value => ⟨BitVec.ofNat 128 value⟩
  else none

/-- The identifier of five hyphenated groups. -/
def ofGroups? (text : List Char) : Option Uuid :=
  let hyphen (place : Nat) := text[place]? == some '-'
  let group (start length : Nat) := (text.drop start).take length
  if text.length = 36 && hyphen 8 && hyphen 13 && hyphen 18 && hyphen 23 then
    ofDigits? (group 0 8 ++ group 9 4 ++ group 14 4 ++ group 19 4 ++ group 24 12)
  else none

/-- What stands between two braces. -/
def inBraces? (text : List Char) : Option (List Char) :=
  if 2 ≤ text.length ∧ text.head? = some '\x7b' ∧ text.getLast? = some '\x7d' then
    some (text.drop 1).dropLast
  else none

/-- The name of the scheme that an identifier may follow. -/
def scheme : List Char := "urn:uuid:".toList

/-- What follows the name of the scheme. -/
def afterScheme? (text : List Char) : Option (List Char) :=
  if (text.take scheme.length).map Char.toLower = scheme then some (text.drop scheme.length)
  else none

/-- The identifier that a string writes. -/
def ofText? (text : String) : Option Uuid :=
  let chars := text.toList
  if chars.length = 32 then ofDigits? chars
  else if chars.length = 38 then (inBraces? chars).bind ofGroups?
  else if chars.length = 45 then (afterScheme? chars).bind ofGroups?
  else ofGroups? chars

end Uuid

end GolfProgress
