import GolfProgress.Json.Basic
import GolfProgress.Binary64.Decimal

/-!
# Reading JSON text

`Json.parse?` reads one document and nothing after it but white space.  Each
reader consumes at least one character of its text before it calls another, so
the length of the text bounds the recursion.
-/

set_option autoImplicit false

namespace GolfProgress.Json

/-- The white space of JSON. -/
def isSpace (c : Char) : Bool := c == ' ' || c == '\t' || c == '\n' || c == '\r'

/-- A text without its leading white space. -/
def skipSpace (text : List Char) : List Char := text.dropWhile isSpace

/-- A number from its sign, whole digits and the part after them. -/
def numberValue? (negative : Bool) (whole rest : List Char) : Option Json :=
  let value := Text.valueOf whole
  let signedText := if negative then '-' :: (whole ++ rest) else whole ++ rest
  if rest = [] ∧ (value ≠ 0 ∨ !negative) ∧
      (if negative then 2 * value ≤ UInt64.size else value < UInt64.size) then
    some (.int (if negative then -(value : Int) else value))
  else (Binary64.ofChars? signedText).map .float

/-- A number at the head of a text. -/
def number? (text : List Char) : Option (Json × List Char) := do
  let (negative, text) := match text with
    | '-' :: rest => (true, rest)
    | _ => (false, text)
  let whole := text.takeWhile Char.isDigit
  let text := text.dropWhile Char.isDigit
  if whole = [] ∨ (whole.head? = some '0' ∧ whole.length ≠ 1) then none
  let rest := text.takeWhile fun c =>
    c.isDigit || c == '.' || c == 'e' || c == 'E' || c == '+' || c == '-'
  let value ← numberValue? negative whole rest
  return (value, text.drop rest.length)

/-- The character of a four-digit escape, with the second half of a pair when
the first stands for one, and the text after it. -/
def unicodeEscape? (text : List Char) : Option (Char × List Char) := do
  let unit ← Text.hexValueOf? (text.take 4)
  if (text.take 4).length ≠ 4 then none
  if 0xD800 ≤ unit ∧ unit < 0xDC00 then
    match text.drop 4 with
    | '\\' :: 'u' :: rest =>
      let low ← Text.hexValueOf? (rest.take 4)
      if (rest.take 4).length = 4 ∧ 0xDC00 ≤ low ∧ low < 0xE000 then
        return (Char.ofNat (0x10000 + (unit - 0xD800) * 0x400 + (low - 0xDC00)), rest.drop 4)
      else none
    | _ => none
  else if 0xDC00 ≤ unit ∧ unit < 0xE000 then none
  else return (Char.ofNat unit, text.drop 4)

/-- The character of a one-letter escape. -/
def letterEscape? (c : Char) : Option Char :=
  match c with
  | '\x22' => some '\x22'
  | '\\' => some '\\'
  | '/' => some '/'
  | 'b' => some '\x08'
  | 'f' => some '\x0c'
  | 'n' => some '\n'
  | 'r' => some '\r'
  | 't' => some '\t'
  | _ => none

/-- The rest of a string whose opening quote is behind, and the text after its
closing quote. -/
def stringRest? (fuel : Nat) (read : List Char) (text : List Char) :
    Option (String × List Char) :=
  match fuel, text with
  | 0, _ => none
  | _, [] => none
  | fuel + 1, c :: rest =>
    if c = '\x22' then some (String.ofList read.reverse, rest)
    else if c = '\\' then
      match rest with
      | 'u' :: rest => do
        let (character, rest) ← unicodeEscape? rest
        stringRest? fuel (character :: read) rest
      | letter :: rest => do
        stringRest? fuel ((← letterEscape? letter) :: read) rest
      | [] => none
    else if c.toNat < 32 then none
    else stringRest? fuel (c :: read) rest

mutual

/-- A value at the head of a text. -/
def value? (fuel : Nat) (text : List Char) : Option (Json × List Char) :=
  match fuel with
  | 0 => none
  | fuel + 1 =>
    match skipSpace text with
    | 'n' :: 'u' :: 'l' :: 'l' :: rest => some (.null, rest)
    | 't' :: 'r' :: 'u' :: 'e' :: rest => some (.bool true, rest)
    | 'f' :: 'a' :: 'l' :: 's' :: 'e' :: rest => some (.bool false, rest)
    | '\x22' :: rest =>
      (stringRest? (rest.length + 1) [] rest).map fun (value, rest) => (.text value, rest)
    | '[' :: rest =>
      match skipSpace rest with
      | ']' :: rest => some (.list [], rest)
      | rest => (items? fuel [] rest).map fun (items, rest) => (.list items, rest)
    | '\x7b' :: rest =>
      match skipSpace rest with
      | '\x7d' :: rest => some (.object [], rest)
      | rest => (members? fuel [] rest).map fun (members, rest) => (.object members, rest)
    | rest => number? rest

/-- The items of a list up to its closing bracket. -/
def items? (fuel : Nat) (read : List Json) (text : List Char) :
    Option (List Json × List Char) :=
  match fuel with
  | 0 => none
  | fuel + 1 => do
    let (item, rest) ← value? fuel text
    match skipSpace rest with
    | ',' :: rest => items? fuel (item :: read) rest
    | ']' :: rest => some ((item :: read).reverse, rest)
    | _ => none

/-- The members of an object up to its closing brace. -/
def members? (fuel : Nat) (read : List (String × Json)) (text : List Char) :
    Option (List (String × Json) × List Char) :=
  match fuel with
  | 0 => none
  | fuel + 1 =>
    match skipSpace text with
    | '\x22' :: rest => do
      let (name, rest) ← stringRest? (rest.length + 1) [] rest
      match skipSpace rest with
      | ':' :: rest =>
        let (value, rest) ← value? fuel rest
        match skipSpace rest with
        | ',' :: rest => members? fuel ((name, value) :: read) rest
        | '\x7d' :: rest => some (((name, value) :: read).reverse, rest)
        | _ => none
      | _ => none
    | _ => none

end

/-- The value that a text denotes. -/
def parse? (text : String) : Option Json := do
  let chars := text.toList
  let (value, rest) ← value? (2 * chars.length + 2) chars
  if skipSpace rest = [] then some value else none

end GolfProgress.Json
