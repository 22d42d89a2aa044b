import GolfProgress.Binary64.Basic
import GolfProgress.Text.Digits

/-!
# Numbers with a fixed count of decimals

The decimal of so many places that is nearest to a number; of two that are
equally near, the one whose last digit is even.
-/

set_option autoImplicit false

namespace GolfProgress.Binary64

/-- A count of units of a decimal place, with the point before the last `places`
digits. -/
def placed (places units : Nat) : List Char :=
  let digits := Text.padded (places + 1) units
  let point := digits.length - places
  if places = 0 then digits else digits.take point ++ '.' :: digits.drop point

/-- The text of a number with a fixed count of decimals. -/
def toFixed (places : Nat) : Binary64 → String
  | .nan => "NaN"
  | .infinite negative => if negative then "-inf" else "inf"
  | .finite negative quanta _ =>
    String.ofList ((if negative then ['-'] else []) ++
      placed places (roundHalfEven (quanta * Nat.pow 10 places) quantaPerUnit))

end GolfProgress.Binary64
