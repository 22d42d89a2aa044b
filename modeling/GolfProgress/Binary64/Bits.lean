import GolfProgress.Binary64.Basic

/-!
# Bit patterns of double-precision numbers

The interchange form of a number: a sign bit, eleven exponent bits and 52
fraction bits, as one word.  Counted in quanta, a number `q` whose last
significant place is `2 ^ e` has the pattern `e * 2 ^ 52 + q / 2 ^ e`, the
implicit leading bit carrying into the exponent field by itself.
-/

set_option autoImplicit false

namespace GolfProgress.Binary64

/-- The place of the least significant bit of a count of quanta. -/
def lastPlace (quanta : Nat) : Nat := quanta.log2 - 52

/-- The number of patterns of the fraction field. -/
def fractionSize : Nat := Nat.pow 2 52

/-- The sign bit as a number. -/
def signBit (negative : Bool) : Nat := if negative then Nat.pow 2 63 else 0

/-- The exponent and fraction fields of an infinity. -/
def infinityField : Nat := 2047 * fractionSize

/-- The interchange word. -/
def toBits : Binary64 → UInt64
  | .nan => 0x7FF8000000000000
  | .infinite negative =>
    UInt64.ofNat (signBit negative + infinityField)
  | .finite negative quanta _ =>
    UInt64.ofNat (signBit negative +
      (lastPlace quanta * fractionSize + quanta / Nat.pow 2 (lastPlace quanta)))

/-- The number of an interchange word; every not-a-number pattern reads alike. -/
def ofBits (word : UInt64) : Binary64 :=
  let bits := word.toNat
  let negative := decide (signBit true ≤ bits)
  let exponent := bits / fractionSize % 2048
  let fraction := bits % fractionSize
  if exponent = 2047 then
    if fraction = 0 then .infinite negative else .nan
  else if exponent = 0 then ofQuotient negative fraction 1
  else ofQuotient negative ((fractionSize + fraction) * Nat.pow 2 (exponent - 1)) 1

/-- The number of a single-precision interchange word, which is always exact. -/
def ofSingleBits (word : UInt32) : Binary64 :=
  let bits := word.toNat
  let negative := decide (Nat.pow 2 31 ≤ bits)
  let exponent := bits / Nat.pow 2 23 % 256
  let fraction := bits % Nat.pow 2 23
  if exponent = 255 then
    if fraction = 0 then .infinite negative else .nan
  else if exponent = 0 then ofQuotient negative (fraction * Nat.pow 2 925) 1
  else ofQuotient negative ((Nat.pow 2 23 + fraction) * Nat.pow 2 (924 + exponent)) 1

end GolfProgress.Binary64
