import GolfProgress.Text.Fields

/-!
# Paths

A path is a text whose parts are divided by slashes; it is absolute when it
begins with one.  Empty parts stand for nothing, and neither do single points
except in front of a relative path.

A path that is too long, or holds a zero character, leads nowhere, and nothing
can be given a name that is too long.
-/

set_option autoImplicit false

namespace GolfProgress.Path

/-- The parts of a path, with those that stand for nothing. -/
def parts (path : String) : List String :=
  (Text.fieldsBy '/' path.toList).map String.ofList

/-- Whether a path may lead anywhere: it is shorter than 4096 bytes and holds no
zero character. -/
def isUsable (path : String) : Bool :=
  decide (path.utf8ByteSize < 4096) && !path.toList.contains '\x00'

/-- Whether a part may name something new. -/
def isName (part : String) : Bool := part.utf8ByteSize ≤ 255

/-- Whether a path begins at the root. -/
def isAbsolute (path : String) : Bool := path.toList.head? == some '/'

/-- Whether the part at a place of a path stands for something. -/
def isReal (place : Nat) (part : String) : Bool :=
  part ≠ "" && (part ≠ "." || place == 0)

/-- How many of some leading parts are left when those at the end that stand for
nothing are dropped. -/
def realLength (parts : List String) : Nat → Nat
  | 0 => 0
  | count + 1 =>
    if (parts[count]?).any (isReal count) then count + 1 else realLength parts count

/-- The path of the directory that holds what a path names; none when the path
names nothing that is held. -/
def parent? (path : String) : Option String :=
  let parts := parts path
  match realLength parts parts.length with
  | 0 => none
  | last + 1 =>
    match realLength parts last with
    | 0 => some (if isAbsolute path then "/" else "")
    | count => some (String.intercalate "/" (parts.take count))

end GolfProgress.Path
