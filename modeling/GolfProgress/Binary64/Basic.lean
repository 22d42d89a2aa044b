/-!
# Double-precision numbers

Measurements, thresholds and weights are IEEE 754 binary64 numbers.  A finite
number is kept as a sign and a count of *quanta*, the quantum being the least
positive number of the format, `2 ^ (-1074)`.  Every finite number is a whole
count of quanta, so sums and differences are exact integers before they are
rounded, and the order of finite numbers is the order of integers.

All arithmetic is "the exact result, rounded once": `ofQuotient` is the only
place where rounding happens, to the nearest number and to the even neighbour on
a tie.  Not-a-number carries no payload.
-/

set_option autoImplicit false

namespace GolfProgress

/-- The first count of quanta too large for the format. -/
def Binary64.limit : Nat := Nat.pow 2 2098

/-- A count of quanta fits the format when it has at most 53 significant bits
and stays below the limit. -/
def Binary64.Fits (quanta : Nat) : Prop :=
  Nat.pow 2 (quanta.log2 - 52) ∣ quanta ∧ quanta < Binary64.limit

instance (quanta : Nat) : Decidable (Binary64.Fits quanta) :=
  inferInstanceAs (Decidable (_ ∧ _))

/-- A double-precision number. -/
inductive Binary64 where
  /-- Not a number. -/
  | nan
  /-- A signed infinity. -/
  | infinite (negative : Bool)
  /-- A signed count of quanta; zero keeps its sign. -/
  | finite (negative : Bool) (quanta : Nat) (fits : Binary64.Fits quanta)
deriving DecidableEq

namespace Binary64

/-! ## Rounding -/

/-- How many quanta make up the number one. -/
def quantaPerUnit : Nat := Nat.pow 2 1074

/-- The integer nearest to `numerator / denominator`, a half going to the even
neighbour. -/
def roundHalfEven (numerator denominator : Nat) : Nat :=
  let quotient := numerator / denominator
  let rest := numerator % denominator
  if 2 * rest < denominator then quotient
  else if denominator < 2 * rest then quotient + 1
  else quotient + quotient % 2

/-- The count of quanta with at most 53 significant bits that is nearest to
`numerator / denominator`. -/
def nearestQuanta (numerator denominator : Nat) : Nat :=
  let step := Nat.pow 2 ((numerator / denominator).log2 - 52)
  roundHalfEven numerator (denominator * step) * step

/-- The number nearest to `numerator / denominator` quanta; too large a quotient
becomes infinite. -/
def ofQuotient (negative : Bool) (numerator denominator : Nat) : Binary64 :=
  if fits : Fits (nearestQuanta numerator denominator) then
    .finite negative (nearestQuanta numerator denominator) fits
  else .infinite negative

/-- Powers of two are positive. -/
theorem two_pow_pos (exponent : Nat) : 0 < Nat.pow 2 exponent := Nat.pow_pos (Nat.succ_pos 1)

/-- The limit is not zero. -/
theorem limit_pos : 0 < limit := by
  unfold limit
  generalize 2098 = width
  exact two_pow_pos width

/-- No quanta fit. -/
theorem fits_zero : Fits 0 := ⟨Nat.dvd_zero _, limit_pos⟩

/-- Zero with a sign. -/
def zero (negative : Bool) : Binary64 := .finite negative 0 fits_zero

/-- A count of quanta with its sign applied. -/
def signed (negative : Bool) (quanta : Nat) : Int :=
  if negative then -(quanta : Int) else quanta

/-- The number nearest to a signed count of quanta; an exact zero takes the sign
it is given. -/
def ofSigned (zeroNegative : Bool) (quanta : Int) : Binary64 :=
  if quanta = 0 then zero zeroNegative
  else ofQuotient (decide (quanta < 0)) quanta.natAbs 1

/-- The number nearest to a natural number. -/
def ofNat (value : Nat) : Binary64 := ofQuotient false (value * quantaPerUnit) 1

/-- The number nearest to an integer. -/
def ofInt (value : Int) : Binary64 :=
  ofQuotient (decide (value < 0)) (value.natAbs * quantaPerUnit) 1

/-- The number nearest to `digits * 10 ^ exponent`.  Exponents far outside the
range of the format are answered without forming the power. -/
def ofDecimal (negative : Bool) (digits : Nat) (exponent : Int) : Binary64 :=
  let magnitude : Int := (Nat.toDigits 10 digits).length + exponent
  if digits = 0 ∨ magnitude < -330 then zero negative
  else if 330 < magnitude then .infinite negative
  else if 0 ≤ exponent then
    ofQuotient negative (digits * Nat.pow 10 exponent.toNat * quantaPerUnit) 1
  else ofQuotient negative (digits * quantaPerUnit) (Nat.pow 10 (-exponent).toNat)

instance (value : Nat) : OfNat Binary64 value := ⟨ofNat value⟩

instance : OfScientific Binary64 where
  ofScientific digits exponentNegative exponent :=
    ofDecimal false digits (if exponentNegative then -(exponent : Int) else exponent)

instance : Inhabited Binary64 := ⟨zero false⟩

/-! ## Classes of numbers -/

/-- Neither infinite nor not-a-number. -/
def isFinite : Binary64 → Bool
  | .finite .. => true
  | _ => false

/-- Not-a-number. -/
def isNaN : Binary64 → Bool
  | .nan => true
  | _ => false

/-- The number itself when it is finite. -/
def finite? (value : Binary64) : Option Binary64 :=
  if value.isFinite then some value else none

/-- Either zero. -/
def isZero : Binary64 → Bool
  | .finite _ quanta _ => quanta == 0
  | _ => false

/-! ## Order -/

/-- Strictly less; false whenever a side is not a number. -/
def isLess : Binary64 → Binary64 → Bool
  | .finite s a _, .finite t b _ => decide (signed s a < signed t b)
  | .infinite s, .infinite t => s && !t
  | .infinite s, .finite .. => s
  | .finite .., .infinite t => !t
  | _, _ => false

/-- Less or equal, the two zeros being equal; false whenever a side is not a
number. -/
def isAtMost : Binary64 → Binary64 → Bool
  | .finite s a _, .finite t b _ => decide (signed s a ≤ signed t b)
  | .infinite s, .infinite t => s || !t
  | .infinite s, .finite .. => s
  | .finite .., .infinite t => !t
  | _, _ => false

instance : LT Binary64 := ⟨fun a b => isLess a b = true⟩
instance : LE Binary64 := ⟨fun a b => isAtMost a b = true⟩
instance (a b : Binary64) : Decidable (a < b) := inferInstanceAs (Decidable (_ = true))
instance (a b : Binary64) : Decidable (a ≤ b) := inferInstanceAs (Decidable (_ = true))

/-- Numeric equality: the two zeros are equal, not-a-number equals nothing. -/
def equals (a b : Binary64) : Bool := isAtMost a b && isAtMost b a

/-- A key for the total order that puts negative zero below zero and
not-a-number above everything. -/
def orderKey : Binary64 → Int
  | .nan => limit + 1
  | .infinite negative => if negative then -(limit : Int) - 1 else limit
  | .finite negative quanta _ => if negative then -(quanta : Int) - 1 else quanta

/-! ## Arithmetic -/

/-- The number with its sign turned. -/
def neg : Binary64 → Binary64
  | .nan => .nan
  | .infinite negative => .infinite !negative
  | .finite negative quanta fits => .finite (!negative) quanta fits

instance : Neg Binary64 := ⟨neg⟩

/-- The magnitude. -/
def abs : Binary64 → Binary64
  | .nan => .nan
  | .infinite _ => .infinite false
  | .finite _ quanta fits => .finite false quanta fits

/-- The sum; opposite numbers add to zero, and only two negative zeros add to
negative zero. -/
def add : Binary64 → Binary64 → Binary64
  | .finite s a _, .finite t b _ => ofSigned (s && t) (signed s a + signed t b)
  | .infinite s, .infinite t => if s == t then .infinite s else .nan
  | .infinite s, .finite .. => .infinite s
  | .finite .., .infinite t => .infinite t
  | _, _ => .nan

/-- The difference. -/
def sub (a b : Binary64) : Binary64 := add a (neg b)

/-- The product. -/
def mul : Binary64 → Binary64 → Binary64
  | .finite s a _, .finite t b _ => ofQuotient (s != t) (a * b) quantaPerUnit
  | .infinite s, .infinite t => .infinite (s != t)
  | .infinite s, .finite t b _ => if b = 0 then .nan else .infinite (s != t)
  | .finite s a _, .infinite t => if a = 0 then .nan else .infinite (s != t)
  | _, _ => .nan

/-- The quotient; a finite non-zero number over zero is infinite. -/
def div : Binary64 → Binary64 → Binary64
  | .finite s a _, .finite t b _ =>
    if b = 0 then (if a = 0 then .nan else .infinite (s != t))
    else ofQuotient (s != t) (a * quantaPerUnit) b
  | .infinite s, .finite t _ _ => .infinite (s != t)
  | .finite s _ _, .infinite t => zero (s != t)
  | _, _ => .nan

instance : Add Binary64 := ⟨add⟩
instance : Sub Binary64 := ⟨sub⟩
instance : Mul Binary64 := ⟨mul⟩
instance : Div Binary64 := ⟨div⟩

/-- The larger number; not-a-number gives way to the other side. -/
def max (a b : Binary64) : Binary64 :=
  if a.isNaN then b else if b < a then a else if b.isNaN then a else b

/-- The number moved into `[low, high]`; not-a-number stays. -/
def clamp (value low high : Binary64) : Binary64 :=
  if value < low then low else if high < value then high else value

/-- The nearest whole number, a half going away from zero. -/
def round : Binary64 → Binary64
  | .finite negative quanta _ =>
    ofQuotient negative
      ((2 * quanta + quantaPerUnit) / (2 * quantaPerUnit) * quantaPerUnit) 1
  | value => value

/-- The whole part of a number that is not negative, at most `top`; zero for
not-a-number and for negative numbers. -/
def toNatAtMost (value : Binary64) (top : Nat) : Nat :=
  match value with
  | .finite false quanta _ => min (quanta / quantaPerUnit) top
  | .infinite false => top
  | _ => 0

end Binary64

end GolfProgress
