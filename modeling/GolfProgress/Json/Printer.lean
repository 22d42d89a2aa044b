import GolfProgress.Json.Basic
import GolfProgress.Binary64.Decimal

/-!
# Writing JSON text

`compact` writes a value on one line without blanks, `pretty` with one member or
item a line and two blanks of indentation.  Numbers that are not finite become
`null`.  A double-precision number keeps a point or an exponent, so that it reads
back as one: positional from `1e-5` up to below `1e16`, and otherwise with one
digit before the point and an exponent.
-/

set_option autoImplicit false

namespace GolfProgress.Json

/-- The layout of the fewest digits of a positive number. -/
def floatDigits (value : Decimal) : List Char :=
  let digits := Text.digitsOf value.digits
  let point : Int := digits.length + value.exponent
  if 0 ≤ value.exponent ∧ point ≤ 16 then Binary64.positional value ++ ['.', '0']
  else if -5 < point ∧ point ≤ 16 then Binary64.positional value
  else
    let exponent := (toString (point - 1)).toList
    match digits with
    | [] => []
    | [digit] => digit :: 'e' :: exponent
    | digit :: rest => digit :: '.' :: (rest ++ 'e' :: exponent)

/-- The text of a double-precision number. -/
def floatText : Binary64 → String
  | .finite negative quanta _ =>
    String.ofList ((if negative then ['-'] else []) ++
      (if quanta = 0 then ['0', '.', '0']
       else floatDigits (Binary64.shortest negative quanta)))
  | _ => "null"

/-- One character inside a string. -/
def escaped (c : Char) : List Char :=
  if c = '\x22' then ['\\', '\x22']
  else if c = '\\' then ['\\', '\\']
  else if c = '\x08' then ['\\', 'b']
  else if c = '\x0c' then ['\\', 'f']
  else if c = '\n' then ['\\', 'n']
  else if c = '\r' then ['\\', 'r']
  else if c = '\t' then ['\\', 't']
  else if c.toNat < 32 then '\\' :: 'u' :: Text.hexPadded 4 c.toNat
  else [c]

/-- A string between quotes. -/
def quoted (text : String) : String :=
  String.ofList ('\x22' :: (text.toList.flatMap escaped ++ ['\x22']))

mutual

/-- A value on one line. -/
def compact : Json → String
  | .null => "null"
  | .bool true => "true"
  | .bool false => "false"
  | .int value => toString value
  | .float value => floatText value
  | .text value => quoted value
  | .list items => "[" ++ String.intercalate "," (compactItems items) ++ "]"
  | .object members => "\x7b" ++ String.intercalate "," (compactMembers members) ++ "\x7d"

/-- The items of a list, each on one line. -/
def compactItems : List Json → List String
  | [] => []
  | item :: rest => compact item :: compactItems rest

/-- The members of an object, each on one line. -/
def compactMembers : List (String × Json) → List String
  | [] => []
  | (name, value) :: rest => (quoted name ++ ":" ++ compact value) :: compactMembers rest

end

/-- Parts one a line between brackets, indented by a level more than `level`. -/
def block (level : Nat) (opening closing : String) (parts : List String) : String :=
  if parts = [] then opening ++ closing
  else
    let indent (depth : Nat) := "\n" ++ String.ofList (List.replicate (2 * depth) ' ')
    opening ++ String.intercalate "," (parts.map (indent (level + 1) ++ ·)) ++
      indent level ++ closing

mutual

/-- A value spread over lines, its first line already indented. -/
def prettyAt (level : Nat) : Json → String
  | .list items => block level "[" "]" (prettyItems (level + 1) items)
  | .object members => block level "\x7b" "\x7d" (prettyMembers (level + 1) members)
  | .null => "null"
  | .bool true => "true"
  | .bool false => "false"
  | .int value => toString value
  | .float value => floatText value
  | .text value => quoted value

/-- The items of a list, spread over lines. -/
def prettyItems (level : Nat) : List Json → List String
  | [] => []
  | item :: rest => prettyAt level item :: prettyItems level rest

/-- The members of an object, spread over lines. -/
def prettyMembers (level : Nat) : List (String × Json) → List String
  | [] => []
  | (name, value) :: rest =>
    (quoted name ++ ": " ++ prettyAt level value) :: prettyMembers level rest

end

/-- A value spread over lines. -/
def pretty (value : Json) : String := prettyAt 0 value

end GolfProgress.Json
