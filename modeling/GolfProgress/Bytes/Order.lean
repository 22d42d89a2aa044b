/-!
# Numbers as bytes

Natural numbers in a fixed count of bytes, the lowest byte first or last, and
cutting a fixed count of bytes off a sequence.  A number that is too large for
its bytes keeps its remainder, and reading gives exactly that back.
-/

set_option autoImplicit false

namespace GolfProgress.Bytes

/-- The lowest `width` bytes of a number, lowest first. -/
def little : Nat → Nat → List UInt8
  | 0, _ => []
  | width + 1, value => UInt8.ofNat (value % 256) :: little width (value / 256)

/-- The lowest `width` bytes of a number, highest first. -/
def big (width value : Nat) : List UInt8 := (little width value).reverse

/-- The number of some bytes, lowest first. -/
def ofLittle : List UInt8 → Nat
  | [] => 0
  | byte :: rest => byte.toNat + 256 * ofLittle rest

/-- The number of some bytes, highest first. -/
def ofBig (bytes : List UInt8) : Nat := ofLittle bytes.reverse

/-- A count of bytes off the head of a sequence that has as many, and the rest. -/
def take? : Nat → List UInt8 → Option (List UInt8 × List UInt8)
  | 0, bytes => some ([], bytes)
  | _ + 1, [] => none
  | count + 1, byte :: rest =>
    (take? count rest).map fun (taken, rest) => (byte :: taken, rest)

/-- A number off the head of a sequence, highest byte first. -/
def takeBig? (width : Nat) (bytes : List UInt8) : Option (Nat × List UInt8) :=
  (take? width bytes).map fun (taken, rest) => (ofBig taken, rest)

/-- A number off the head of a sequence, lowest byte first. -/
def takeLittle? (width : Nat) (bytes : List UInt8) : Option (Nat × List UInt8) :=
  (take? width bytes).map fun (taken, rest) => (ofLittle taken, rest)

@[simp] theorem length_little (width value : Nat) : (little width value).length = width := by
  induction width generalizing value with
  | zero => rfl
  | succ width ih => simp [little, ih]

@[simp] theorem length_big (width value : Nat) : (big width value).length = width := by
  simp [big]

/-- Reading the bytes of a number gives its remainder. -/
theorem ofLittle_little (width value : Nat) :
    ofLittle (little width value) = value % Nat.pow 256 width := by
  induction width generalizing value with
  | zero => simp [little, ofLittle, Nat.mod_one]
  | succ width ih =>
    simp only [little, ofLittle, ih]
    have split := Nat.mod_mul (x := value) (a := 256) (b := Nat.pow 256 width)
    rw [show Nat.pow 256 (width + 1) = 256 * Nat.pow 256 width from Nat.mul_comm _ _, split]
    simp

/-- The same with the highest byte first. -/
theorem ofBig_big (width value : Nat) : ofBig (big width value) = value % Nat.pow 256 width := by
  simp [ofBig, big, ofLittle_little]

/-- Bytes put in front are what is taken off. -/
theorem take?_append (taken rest : List UInt8) :
    take? taken.length (taken ++ rest) = some (taken, rest) := by
  induction taken with
  | nil => rfl
  | cons byte taken ih => simp [take?, ih]

/-- A number put in front is what is taken off. -/
theorem takeBig?_big (width value : Nat) (rest : List UInt8) :
    takeBig? width (big width value ++ rest) = some (value % Nat.pow 256 width, rest) := by
  have taken := take?_append (big width value) rest
  rw [length_big] at taken
  simp [takeBig?, taken, ofBig_big]

/-- The same with the lowest byte first. -/
theorem takeLittle?_little (width value : Nat) (rest : List UInt8) :
    takeLittle? width (little width value ++ rest) = some (value % Nat.pow 256 width, rest) := by
  have taken := take?_append (little width value) rest
  rw [length_little] at taken
  simp [takeLittle?, taken, ofLittle_little]

end GolfProgress.Bytes
