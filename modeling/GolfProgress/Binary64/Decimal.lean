import GolfProgress.Binary64.Basic
import GolfProgress.Text.Digits

/-!
# Decimal text of double-precision numbers

`shortest` picks the fewest decimal digits that read back to the same number,
the nearest such digits where there is a choice and the larger of two equally
near ones.  `toText` lays them out without an exponent, and `ofText?` reads the
decimal notation: a sign, digits with or without a point, an exponent, and the
names of the infinities and of not-a-number in any case.

The main statement is `ofDecimalValue_of_onGrid?`: digits accepted on a grid
read back to the number they were chosen for.
-/

set_option autoImplicit false

namespace GolfProgress

/-- `digits * 10 ^ exponent`. -/
structure Decimal where
  digits : Nat
  exponent : Int
deriving DecidableEq, Repr

namespace Binary64

/-! ## The fewest digits -/

/-- The number that a decimal reads as. -/
def ofDecimalValue (negative : Bool) (value : Decimal) : Binary64 :=
  ofDecimal negative value.digits value.exponent

/-- The quotient of a count of quanta by `10 ^ exponent` units. -/
def gridQuotient (quanta : Nat) (exponent : Int) : Nat × Nat :=
  if 0 ≤ exponent then (quanta, quantaPerUnit * Nat.pow 10 exponent.toNat)
  else (quanta * Nat.pow 10 (-exponent).toNat, quantaPerUnit)

/-- The multiple of `10 ^ exponent` that is nearest to a count of quanta among
the two that surround it and read back to it. -/
def onGrid? (negative : Bool) (quanta : Nat) (exponent : Int) : Option Decimal :=
  let (numerator, denominator) := gridQuotient quanta exponent
  let below : Decimal := ⟨numerator / denominator, exponent⟩
  let above : Decimal := ⟨numerator / denominator + 1, exponent⟩
  let number := ofQuotient negative quanta 1
  let lower := decide (ofDecimalValue negative below = number)
  let upper := decide (ofDecimalValue negative above = number)
  if lower && (!upper || decide (2 * (numerator % denominator) < denominator)) then
    some below
  else if upper then some above
  else none

/-- A decimal exponent above that of the leading digit of a count of quanta. -/
def coarsestExponent (quanta : Nat) : Int :=
  ((quanta.log2 : Int) - 1074) * 30103 / 100000 + 2

/-- Every decimal place of a count of quanta. -/
def exactDecimal (quanta : Nat) : Decimal := ⟨quanta * Nat.pow 5 1074, -1074⟩

/-- The fewest digits that read back to a signed count of quanta. -/
def shortest (negative : Bool) (quanta : Nat) : Decimal :=
  ((List.range 24).findSome? fun (step : Nat) =>
    onGrid? negative quanta (coarsestExponent quanta - step)).getD (exactDecimal quanta)

/-! ## Layout without an exponent -/

/-- Digits scaled by a power of ten, in positional notation. -/
def positional (value : Decimal) : List Char :=
  let digits := Text.digitsOf value.digits
  if 0 ≤ value.exponent then digits ++ List.replicate value.exponent.toNat '0'
  else
    let places := (-value.exponent).toNat
    if places < digits.length then
      digits.take (digits.length - places) ++ '.' :: digits.drop (digits.length - places)
    else '0' :: '.' :: (List.replicate (places - digits.length) '0' ++ digits)

/-- The text of a number: the fewest digits that read back, in positional
notation, a whole number without a point. -/
def toChars : Binary64 → List Char
  | .nan => ['N', 'a', 'N']
  | .infinite negative => (if negative then ['-'] else []) ++ ['i', 'n', 'f']
  | .finite negative quanta _ =>
    (if negative then ['-'] else []) ++
      (if quanta = 0 then ['0'] else positional (shortest negative quanta))

/-- The text of a number as a string. -/
def toText (value : Binary64) : String := String.ofList value.toChars

/-! ## Reading -/

/-- The exponent part of a decimal notation; an absent part counts as zero. -/
def readExponent? : List Char → Option Int
  | [] => some 0
  | c :: rest =>
    if c = 'e' ∨ c = 'E' then
      match rest with
      | '+' :: digits => (Text.natOfDigits? digits).map Int.ofNat
      | '-' :: digits => (Text.natOfDigits? digits).map fun value => -(value : Int)
      | digits => (Text.natOfDigits? digits).map Int.ofNat
    else none

/-- An unsigned decimal notation: digits, perhaps a point among or around them,
perhaps an exponent. -/
def readDecimal? (text : List Char) : Option Decimal :=
  let whole := text.takeWhile Char.isDigit
  let rest := text.dropWhile Char.isDigit
  let fraction := match rest with
    | '.' :: after => after.takeWhile Char.isDigit
    | _ => []
  let tail := match rest with
    | '.' :: after => after.dropWhile Char.isDigit
    | _ => rest
  if whole = [] ∧ fraction = [] then none
  else (readExponent? tail).map fun exponent =>
    ⟨Text.valueOf (whole ++ fraction), exponent - fraction.length⟩

/-- The number of an unsigned notation with the sign found before it. -/
def ofUnsigned? (negative : Bool) (text : List Char) : Option Binary64 :=
  match readDecimal? text with
  | some value => some (ofDecimalValue negative value)
  | none =>
    let name := text.map Char.toLower
    if name = ['i', 'n', 'f'] ∨ name = ['i', 'n', 'f', 'i', 'n', 'i', 't', 'y'] then
      some (.infinite negative)
    else if name = ['n', 'a', 'n'] then some .nan
    else none

/-- The number that a text denotes. -/
def ofChars? : List Char → Option Binary64
  | '+' :: rest => ofUnsigned? false rest
  | '-' :: rest => ofUnsigned? true rest
  | text => ofUnsigned? false text

/-- The number that a string denotes. -/
def ofText? (text : String) : Option Binary64 := ofChars? text.toList

/-- The finite number that a string denotes. -/
def finiteOfText? (text : String) : Option Binary64 := (ofText? text).bind finite?

/-! ## The chosen digits read back -/

/-- A decimal accepted on a grid reads back to the count of quanta. -/
theorem ofDecimalValue_of_onGrid? {negative : Bool} {quanta : Nat} {exponent : Int}
    {value : Decimal} (chosen : onGrid? negative quanta exponent = some value) :
    ofDecimalValue negative value = ofQuotient negative quanta 1 := by
  simp only [onGrid?] at chosen
  split at chosen
  · rename_i accepted
    simp only [Bool.and_eq_true, decide_eq_true_eq] at accepted
    simp only [Option.some.injEq] at chosen
    exact chosen ▸ accepted.1
  · split at chosen
    · rename_i accepted
      simp only [decide_eq_true_eq] at accepted
      simp only [Option.some.injEq] at chosen
      exact chosen ▸ accepted
    · simp at chosen

end Binary64

end GolfProgress
