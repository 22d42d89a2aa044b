/-!
# Decimal digits

Writing and reading natural numbers in decimal.  `valueOf` is the positional
value of a run of digits; the readers below refuse an empty run.
-/

set_option autoImplicit false

namespace GolfProgress.Text

/-- The digits of a natural number, without leading zeros. -/
def digitsOf (value : Nat) : List Char := Nat.toDigits 10 value

def digitValue (c : Char) : Nat := c.toNat - 48

/-- The positional value of a run of digits. -/
def valueOf (digits : List Char) : Nat :=
  digits.foldl (fun value c => 10 * value + digitValue c) 0

/-- The digits of a natural number, padded with zeros to a width. -/
def padded (width value : Nat) : List Char :=
  let digits := digitsOf value
  List.replicate (width - digits.length) '0' ++ digits

/-- A natural number written with digits alone. -/
def natOfDigits? (text : List Char) : Option Nat :=
  if text ≠ [] ∧ text.all Char.isDigit then some (valueOf text) else none

/-- A natural number at most `top`, written with digits and perhaps a plus sign. -/
def natAtMost? (top : Nat) (text : List Char) : Option Nat := do
  let value ← natOfDigits? (match text with | '+' :: rest => rest | _ => text)
  if value ≤ top then some value else none

/-- The value of a hexadecimal digit. -/
def hexValue? (c : Char) : Option Nat :=
  if c.isDigit then some (c.toNat - 48)
  else if 'a' ≤ c ∧ c ≤ 'f' then some (c.toNat - 87)
  else if 'A' ≤ c ∧ c ≤ 'F' then some (c.toNat - 55)
  else none

/-- The positional value of hexadecimal digits; `none` if one is not a digit. -/
def hexValueOf? (digits : List Char) : Option Nat :=
  digits.foldlM (fun value c => (hexValue? c).map (16 * value + ·)) 0

/-- The small hexadecimal digits of a natural number, padded to a width. -/
def hexPadded (width value : Nat) : List Char :=
  let digits := Nat.toDigits 16 value
  List.replicate (width - digits.length) '0' ++ digits

end GolfProgress.Text
