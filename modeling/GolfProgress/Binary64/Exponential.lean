import GolfProgress.Binary64.Basic

/-!
# The exponential of a double-precision number

`exp` rounds the quotient of integers that stands for a Taylor sum of the magnitude of
its argument, or for its reciprocal when the argument is negative.  The sum is exact,
and its degree grows with the magnitude, so that what it leaves out is far less than
rounding does.  From `exponentialBound` on nothing is left to sum: the exponential lies
beyond the finite numbers, and that of the opposite is nearer to zero than to any other
number.
-/

set_option autoImplicit false

namespace GolfProgress.Binary64

/-- The magnitude from which exponentials overflow, and those of the opposite vanish. -/
def exponentialBound : Nat := 746

/-- The degree at which the Taylor sum of a magnitude below `exponentialBound` stops.
The sum then leaves out less than a part in `2 ^ 250`. -/
def taylorDegree (quanta : Nat) : Nat := 100 + 3 * (quanta / quantaPerUnit)

/-- `(numerator, denominator)` of `1 + x * (1 + x / 2 * (1 + x / 3 * …))` with
`x = n / d`, for the factors `step`, `step + 1`, …, `steps` of them. -/
def taylorSum (n d : Nat) (step : Nat) : Nat → Nat × Nat
  | 0 => (1, 1)
  | steps + 1 =>
    let (top, bottom) := taylorSum n d (step + 1) steps
    let scale := step * d * bottom
    (scale + n * top, scale)

/-- The Taylor sum of a magnitude in quanta, as a numerator and a denominator. -/
def exponentialSum (quanta : Nat) : Nat × Nat :=
  taylorSum quanta quantaPerUnit 1 (taylorDegree quanta)

/-- The exponential. -/
def exp : Binary64 → Binary64
  | .nan => .nan
  | .infinite negative => if negative then zero false else .infinite false
  | .finite negative quanta _ =>
    if exponentialBound * quantaPerUnit ≤ quanta then
      if negative then zero false else .infinite false
    else
      let sum := exponentialSum quanta
      if negative then ofQuotient false (sum.2 * quantaPerUnit) sum.1
      else ofQuotient false (sum.1 * quantaPerUnit) sum.2

end GolfProgress.Binary64
