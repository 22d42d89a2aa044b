import GolfProgress.Text.Fields
import GolfProgress.Uuid

/-!
# Why a text is no identifier

`Uuid.faultOf` explains a text that `Uuid.ofText?` refuses: a character that no
identifier has, or a count or length that does not fit.  Places and lengths are
counted in bytes, the groups from zero.

A text of the length of a written form is judged as that form, with places
counted from its first digit.  A longer text than any form is only too long.  In
every other text braces or the scheme may stand in front, and places count them.
-/

set_option autoImplicit false

namespace GolfProgress

/-- What is wrong with a text that should be an identifier. -/
inductive UuidFault where
  /-- A character that is neither a hexadecimal digit nor a hyphen. -/
  | character (found : Char) (place : Nat)
  /-- Digits without hyphens but not thirty-two, or a text longer than any form. -/
  | length (found : Nat)
  /-- Groups that are not five. -/
  | groups (found : Nat)
  /-- A group of another length. -/
  | group (place expected found : Nat)
deriving DecidableEq, Repr, Inhabited

/-- The text of a fault. -/
def UuidFault.message : UuidFault → String
  | .character found place =>
    "invalid character: found \x60" ++ String.ofList [found] ++ "\x60 at " ++ toString place
  | .length found => "invalid length: found " ++ toString found
  | .groups found => "invalid group count: expected 5, found " ++ toString found
  | .group place expected found =>
    "invalid group length in group " ++ toString place ++ ": expected " ++
      toString expected ++ ", found " ++ toString found

namespace Uuid

/-- The part of a text that should hold digits and hyphens. -/
structure Body where
  text : List Char
  /-- The place of its first character. -/
  start : Nat := 0
  /-- Whether it may do without hyphens. -/
  simple : Bool := false

def bodyOf (text : List Char) (size : Nat) : Body :=
  let written :=
    if size = 32 then some { text, simple := true }
    else if size = 36 then some { text }
    else if size = 38 then (inBraces? text).map fun text => { text }
    else if size = 45 then (afterScheme? text).map fun text => { text }
    else none
  let framed := ((inBraces? text).map fun text => { text, start := 1 }).or
    ((afterScheme? text).map fun text => { text, start := scheme.length })
  (written.or framed).getD { text, simple := true }

/-- The first character that no identifier has, and its place counted from `place`. -/
def stray? (place : Nat) : List Char → Option (Char × Nat)
  | [] => none
  | c :: rest =>
    if c = '-' ∨ (Text.hexValue? c).isSome then stray? (place + 1) rest else some (c, place)

/-- The first of some groups, counted from `place`, whose length differs from the
expected one. -/
def misfit? (place : Nat) : List Nat → List (List Char) → Option UuidFault
  | expected :: lengths, group :: groups =>
    if group.length = expected then misfit? (place + 1) lengths groups
    else some (.group place expected group.length)
  | _, _ => none

/-- What is wrong with a text that is no identifier.  What follows the fourth
group counts as the last group to the end of the text, with what stands in front
of the body. -/
def faultOf (text : String) : UuidFault :=
  let size := text.utf8ByteSize
  let body := bodyOf text.toList size
  if 45 < size then .length size
  else
    match stray? body.start body.text with
    | some (found, place) => .character found place
    | none =>
      let groups := Text.fieldsBy '-' body.text
      if groups.length = 1 ∧ body.simple then .length size
      else if groups.length ≠ 5 then .groups groups.length
      else (misfit? 0 [8, 4, 4, 4] groups).getD (.group 4 12 (size - 24))

end Uuid

end GolfProgress
