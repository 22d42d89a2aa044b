import GolfProgress.Proofs.RoundedOrder

/-!
# Order among numbers of either sign

Opposite numbers are in the opposite order, and operations treat them as opposite
(`Mirrors`).  So an operation that keeps order among the numbers that are not negative keeps it
among all (`Rises.le_of_mirrors`), as division by a positive number does (`div_le_div`).

A difference of finite numbers is a signed count of quanta, rounded, and signed counts are
rounded in order (`ofSigned_le_ofSigned`).  So it grows with the number that is subtracted from,
and falls with the one that is subtracted (`sub_le_sub`).  It is zero only between equal numbers,
for a whole count of quanta is never rounded to nothing (`sub_self`, `sub_pos`).
-/

set_option autoImplicit false

namespace GolfProgress.Binary64

/-! ## Opposite numbers -/

section Opposites

variable {a b : Binary64}

theorem neg_neg (a : Binary64) : - -a = a := by
  cases a with
  | nan => rfl
  | infinite negative => exact congrArg infinite (Bool.not_not negative)
  | finite negative quanta fits =>
      exact congrArg (finite · quanta fits) (Bool.not_not negative)

theorem isNaN_neg (a : Binary64) : (-a).isNaN = a.isNaN := by cases a <;> rfl

theorem isFinite_neg (a : Binary64) : (-a).isFinite = a.isFinite := by cases a <;> rfl

theorem signed_not (negative : Bool) (quanta : Nat) :
    signed (!negative) quanta = -signed negative quanta := by
  cases negative with
  | false => rfl
  | true => exact (Int.neg_neg _).symm

theorem place_neg (a : Binary64) : (-a).place = -a.place := by
  cases a with
  | nan => rfl
  | infinite negative => exact signed_not negative limit
  | finite negative quanta fits => exact signed_not negative quanta

theorem neg_le_neg (ordered : a ≤ b) : -b ≤ -a := by
  obtain ⟨left, right⟩ := not_isNaN_of_le ordered
  rw [le_iff left right] at ordered
  rw [le_iff ((isNaN_neg b).trans right) ((isNaN_neg a).trans left), place_neg, place_neg]
  exact Int.neg_le_neg ordered

/-- The opposite of a number that is not negative is below every such number. -/
theorem neg_le_of_nonneg (nonneg : 0 ≤ a) (nonneg' : 0 ≤ b) : -a ≤ b := by
  obtain ⟨left, least⟩ := nonneg_iff.mp nonneg
  obtain ⟨right, least'⟩ := nonneg_iff.mp nonneg'
  rw [le_iff ((isNaN_neg a).trans left) right, place_neg]
  omega

/-- The opposite of a negative number is not negative. -/
theorem neg_nonneg (number : a.isNaN = false) (below : ¬ 0 ≤ a) : 0 ≤ -a := by
  rw [nonneg_iff, number] at below
  rw [nonneg_iff, isNaN_neg, place_neg]
  simp only [true_and, Int.not_le] at below
  exact ⟨number, by omega⟩

/-- A quotient of the other sign is rounded to the opposite number. -/
theorem ofQuotient_not (negative : Bool) (numerator denominator : Nat) :
    ofQuotient (!negative) numerator denominator = -ofQuotient negative numerator denominator := by
  unfold ofQuotient
  split <;> rfl

end Opposites

/-! ## Functions that mirror -/

/-- A function that makes opposite numbers of opposite ones. -/
def Mirrors (change : Binary64 → Binary64) : Prop := ∀ a, change (-a) = -change a

section Mirrors

variable {first second change : Binary64 → Binary64}

theorem Mirrors.comp (late : Mirrors second) (early : Mirrors first) :
    Mirrors fun value => second (first value) := by
  intro a
  change second (first (-a)) = -second (first a)
  rw [early a, late (first a)]

theorem mirrors_mul (factor : Binary64) : Mirrors fun value => value * factor := by
  intro a
  change mul (-a) factor = -mul a factor
  -- a zero times an infinity is not a number, which is its own opposite
  have product (zero : Prop) [Decidable zero] (s t : Bool) :
      (if zero then nan else infinite ((!s) != t)) = -if zero then nan else infinite (s != t) := by
    rw [Bool.not_bne, apply_ite Neg.neg]
    rfl
  cases a with
  | nan => rfl
  | infinite s =>
      cases factor with
      | nan => rfl
      | infinite t => exact congrArg infinite (Bool.not_bne s t)
      | finite t q fits => exact product (q = 0) s t
  | finite s p fits =>
      cases factor with
      | nan => rfl
      | infinite t => exact product (p = 0) s t
      | finite t q fits' =>
          change ofQuotient ((!s) != t) _ _ = -ofQuotient (s != t) _ _
          rw [Bool.not_bne, ofQuotient_not]

theorem mirrors_div (divisor : Binary64) : Mirrors fun value => value / divisor := by
  intro a
  change div (-a) divisor = -div a divisor
  cases a with
  | nan => rfl
  | infinite s =>
      cases divisor with
      | nan | infinite => rfl
      | finite t q fits => exact congrArg infinite (Bool.not_bne s t)
  | finite s p fits =>
      cases divisor with
      | nan => rfl
      | infinite t => exact congrArg zero (Bool.not_bne s t)
      | finite t q fits' =>
          change (if q = 0 then if p = 0 then nan else infinite ((!s) != t)
            else ofQuotient ((!s) != t) _ q) = -div (finite s p fits) (finite t q fits')
          rw [div, Bool.not_bne, ofQuotient_not, apply_ite Neg.neg, apply_ite Neg.neg]
          rfl

theorem mirrors_round : Mirrors round := by
  intro a
  cases a with
  | nan => rfl
  | infinite negative => rfl
  | finite negative quanta fits => exact ofQuotient_not negative _ 1

/-- **A function that rises and mirrors keeps order**, whatever the signs. -/
theorem Rises.le_of_mirrors (rises : Rises change) (mirrors : Mirrors change) {a b : Binary64}
    (ordered : a ≤ b) : change a ≤ change b := by
  obtain ⟨left, right⟩ := not_isNaN_of_le ordered
  by_cases nonneg : 0 ≤ a
  · exact (rises a b nonneg ordered).2
  · have low := rises.nonneg (neg_nonneg left nonneg)
    by_cases nonneg' : 0 ≤ b
    · -- zero lies between them
      have between := neg_le_of_nonneg low (rises.nonneg nonneg')
      rwa [mirrors, neg_neg] at between
    · have turned :=
        neg_le_neg (rises _ _ (neg_nonneg right nonneg') (neg_le_neg ordered)).2
      rwa [mirrors, mirrors, neg_neg, neg_neg] at turned

end Mirrors

/-! ## Nearest whole numbers -/

theorem round_le_round {a b : Binary64} (ordered : a ≤ b) : a.round ≤ b.round :=
  rises_round.le_of_mirrors mirrors_round ordered

/-- A whole number is the nearest one to itself. -/
theorem round_ofNat {count : Nat} (small : count ≤ fractionSize) :
    (ofNat count).round = ofNat count := by
  have unit := quantaPerUnit_pos
  have nearest : (2 * (count * quantaPerUnit) + quantaPerUnit) / (2 * quantaPerUnit) = count := by
    rw [Nat.mul_left_comm, Nat.mul_comm, Nat.mul_add_div (by omega),
      Nat.div_eq_of_lt (by omega), Nat.add_zero]
  rw [ofNat_eq small, round, nearest, ofQuotient_one]

theorem ofNat_le_ofNat {low high : Nat} (small : low ≤ fractionSize)
    (small' : high ≤ fractionSize) : ofNat low ≤ ofNat high ↔ low ≤ high := by
  rw [le_iff (isNaN_ofNat low) (isNaN_ofNat high), place_ofNat small, place_ofNat small',
    Int.ofNat_le]
  exact ⟨fun ordered => Nat.le_of_mul_le_mul_right ordered quantaPerUnit_pos,
    Nat.mul_le_mul_right quantaPerUnit⟩

/-! ## Differences -/

section Differences

variable {a a' b b' : Binary64}

/-- A finite number is a signed count of quanta. -/
theorem exists_of_isFinite (finite : a.isFinite = true) :
    ∃ negative quanta fits, a = .finite negative quanta fits := by
  cases a with
  | nan | infinite => cases finite
  | finite negative quanta fits => exact ⟨negative, quanta, fits, rfl⟩

theorem isNaN_of_isFinite (finite : a.isFinite = true) : a.isNaN = false := by
  obtain ⟨negative, quanta, fits, rfl⟩ := exists_of_isFinite finite
  rfl

theorem isNaN_ofSigned (zeroNegative : Bool) (quanta : Int) :
    (ofSigned zeroNegative quanta).isNaN = false := by
  unfold ofSigned
  split
  · rfl
  · exact isNaN_ofQuotient _ _ _

/-- Opposite counts are rounded to opposite numbers. -/
theorem ofSigned_neg (zeroNegative : Bool) (quanta : Int) :
    ofSigned (!zeroNegative) (-quanta) = -ofSigned zeroNegative quanta := by
  unfold ofSigned
  by_cases none : quanta = 0
  · rw [if_pos none, if_pos (by omega)]
    rfl
  · have turned : decide (-quanta < 0) = !decide (quanta < 0) := by
      by_cases negative : quanta < 0 <;> simp [negative] <;> omega
    rw [if_neg none, if_neg (by omega), turned, Int.natAbs_neg, ofQuotient_not]

/-- **Signed counts are rounded in order**, whatever the signs of the zeros. -/
theorem ofSigned_le_ofSigned {low high : Int} (ordered : low ≤ high) (s t : Bool) :
    ofSigned s low ≤ ofSigned t high := by
  have nonneg (zeroNegative : Bool) (quanta : Nat) : 0 ≤ ofSigned zeroNegative quanta :=
    (isRounded_ofSigned zeroNegative quanta).nonneg Nat.one_pos
  have counts {low high : Nat} (ordered : low ≤ high) (s t : Bool) :
      ofSigned s low ≤ ofSigned t high :=
    (isRounded_ofSigned s low).le (isRounded_ofSigned t high) Nat.one_pos Nat.one_pos
      (Nat.mul_le_mul_right 1 ordered)
  have opposite (zeroNegative : Bool) (quanta : Nat) :
      ofSigned zeroNegative (-(quanta : Int)) = -ofSigned (!zeroNegative) quanta := by
    rw [← ofSigned_neg, Bool.not_not]
  obtain ⟨p, rfl | rfl⟩ := low.eq_nat_or_neg <;> obtain ⟨q, rfl | rfl⟩ := high.eq_nat_or_neg
  · exact counts (Int.ofNat_le.mp ordered) s t
  · obtain ⟨rfl, rfl⟩ : p = 0 ∧ q = 0 := by omega
    exact counts (Nat.le_refl 0) s t
  · rw [opposite]
    exact neg_le_of_nonneg (nonneg _ p) (nonneg t q)
  · rw [opposite, opposite]
    exact neg_le_neg (counts (by omega) _ _)

/-- A difference of finite numbers is that of their signed counts, rounded. -/
theorem sub_eq_ofSigned {s t : Bool} {p q : Nat} {fits : Fits p} {fits' : Fits q} :
    finite s p fits - finite t q fits' = ofSigned (s && !t) (signed s p - signed t q) := by
  change add (finite s p fits) (finite (!t) q fits') = _
  rw [add, signed_not, Int.sub_eq_add_neg]

theorem isNaN_sub (finite : a.isFinite = true) (finite' : b.isFinite = true) :
    (a - b).isNaN = false := by
  obtain ⟨s, p, fits, rfl⟩ := exists_of_isFinite finite
  obtain ⟨t, q, fits', rfl⟩ := exists_of_isFinite finite'
  rw [sub_eq_ofSigned]
  exact isNaN_ofSigned _ _

/-- **A difference grows with the first number and falls with the second.** -/
theorem sub_le_sub (finite : a.isFinite = true) (finite' : a'.isFinite = true)
    (subtracted : b.isFinite = true) (subtracted' : b'.isFinite = true) (ordered : a ≤ a')
    (ordered' : b' ≤ b) : a - b ≤ a' - b' := by
  obtain ⟨s, p, fits, rfl⟩ := exists_of_isFinite finite
  obtain ⟨s', p', fits', rfl⟩ := exists_of_isFinite finite'
  obtain ⟨t, q, fitsB, rfl⟩ := exists_of_isFinite subtracted
  obtain ⟨t', q', fitsB', rfl⟩ := exists_of_isFinite subtracted'
  rw [le_iff rfl rfl, place, place] at ordered ordered'
  rw [sub_eq_ofSigned, sub_eq_ofSigned]
  exact ofSigned_le_ofSigned (by omega) _ _

theorem sub_self (finite : a.isFinite = true) : a - a = 0 := by
  obtain ⟨s, p, fits, rfl⟩ := exists_of_isFinite finite
  rw [sub_eq_ofSigned, Int.sub_self, Bool.and_not_self, zero_eq, ofSigned, if_pos rfl]

/-- The sign of a zero does not matter to the rounding of other counts. -/
theorem ofSigned_of_ne {quanta : Int} (nonzero : quanta ≠ 0) (s t : Bool) :
    ofSigned s quanta = ofSigned t quanta := by
  rw [ofSigned, ofSigned, if_neg nonzero, if_neg nonzero]

/-- **No difference of numbers that differ is lost.** -/
theorem sub_pos (finite : a.isFinite = true) (finite' : b.isFinite = true) (less : b < a) :
    0 < a - b := by
  obtain ⟨s, p, fits, rfl⟩ := exists_of_isFinite finite
  obtain ⟨t, q, fits', rfl⟩ := exists_of_isFinite finite'
  rw [lt_iff rfl rfl, place, place] at less
  rw [sub_eq_ofSigned, ofSigned, if_neg (by omega), decide_eq_false (by omega)]
  exact ofQuotient_pos Nat.one_pos (by omega)

/-- Differences taken the other way round are opposite. -/
theorem sub_eq_neg_sub (finite : a.isFinite = true) (finite' : b.isFinite = true) (less : b < a) :
    b - a = -(a - b) := by
  obtain ⟨s, p, fits, rfl⟩ := exists_of_isFinite finite
  obtain ⟨t, q, fits', rfl⟩ := exists_of_isFinite finite'
  rw [lt_iff rfl rfl, place, place] at less
  rw [sub_eq_ofSigned, sub_eq_ofSigned, ← ofSigned_neg, Int.neg_sub]
  exact ofSigned_of_ne (by omega) _ _

/-- Only finite numbers have finite differences. -/
theorem isFinite_of_sub (finite : (a - b).isFinite = true) :
    a.isFinite = true ∧ b.isFinite = true := by
  change (add a (neg b)).isFinite = true at finite
  cases a with
  | nan => cases finite
  | infinite s =>
      cases b with
      | nan | finite => cases finite
      | infinite t => cases s <;> cases t <;> cases finite
  | finite s p fits =>
      cases b with
      | nan | infinite => cases finite
      | finite t q fits' => exact ⟨rfl, rfl⟩

end Differences

/-! ## Quotients and the larger of two numbers -/

section Quotients

variable {a b c divisor : Binary64}

theorem isNaN_div (number : a.isNaN = false) (finite : b.isFinite = true)
    (nonzero : b.isZero = false) : (a / b).isNaN = false := by
  obtain ⟨t, q, fits', rfl⟩ := exists_of_isFinite finite
  cases a with
  | nan => cases number
  | infinite s => rfl
  | finite s p fits =>
      rw [div_finite (by simpa [isZero] using nonzero)]
      exact isNaN_ofQuotient _ _ _

/-- Division by a positive number keeps order. -/
theorem div_le_div (finite : divisor.isFinite = true) (positive : 0 < divisor) (ordered : a ≤ b) :
    a / divisor ≤ b / divisor := by
  rcases pos_cases positive with rfl | ⟨quanta, fits, rfl, nonzero⟩
  · cases finite
  · exact (rises_div nonzero).le_of_mirrors (mirrors_div _) ordered

/-- An opposite divisor turns the sign. -/
theorem div_neg (a divisor : Binary64) : a / -divisor = -(a / divisor) := by
  change div a (-divisor) = -div a divisor
  cases a with
  | nan => rfl
  | infinite s =>
      cases divisor with
      | nan | infinite => rfl
      | finite t q fits => exact congrArg infinite (Bool.bne_not s t)
  | finite s p fits =>
      cases divisor with
      | nan => rfl
      | infinite t => exact congrArg zero (Bool.bne_not s t)
      | finite t q fits' =>
          change (if q = 0 then if p = 0 then nan else infinite (s != !t)
            else ofQuotient (s != !t) _ q) = -div (finite s p fits) (finite t q fits')
          rw [div, Bool.bne_not, ofQuotient_not, apply_ite Neg.neg, apply_ite Neg.neg]
          rfl

theorem div_self (finite : a.isFinite = true) (nonzero : a.isZero = false) :
    a / a = ofNat 1 := by
  obtain ⟨s, p, fits, rfl⟩ := exists_of_isFinite finite
  have some : 0 < p := Nat.pos_of_ne_zero (by simpa [isZero] using nonzero)
  rw [div_finite (Nat.ne_of_gt some), bne_self_eq_false, ofQuotient_self some]

theorem isZero_mul_ofNat {count : Nat} (none : a.isZero = true) (small : count ≤ fractionSize) :
    (a * ofNat count).isZero = true := by
  cases a with
  | nan | infinite => cases none
  | finite s p fits =>
      obtain rfl : p = 0 := by simpa [isZero] using none
      rw [mul_ofNat small, Nat.zero_mul, ofQuotient_zero]
      rfl

/-- Nothing is left of zero by a division. -/
theorem isZero_zero_div (finite : divisor.isFinite = true) (nonzero : divisor.isZero = false) :
    (0 / divisor).isZero = true := by
  obtain ⟨t, q, fits, rfl⟩ := exists_of_isFinite finite
  rw [zero_eq, zero, div_finite (by simpa [isZero] using nonzero), Nat.zero_mul, ofQuotient_zero]
  rfl

/-- A magnitude other than zero is positive. -/
theorem abs_pos (finite : a.isFinite = true) (nonzero : a.isZero = false) : 0 < a.abs := by
  obtain ⟨negative, quanta, fits, rfl⟩ := exists_of_isFinite finite
  have some : 0 < quanta := Nat.pos_of_ne_zero (by simpa [isZero] using nonzero)
  rw [lt_iff isNaN_zero rfl, zero_eq]
  simpa [place, zero, abs, signed] using some

theorem isFinite_abs (a : Binary64) : a.abs.isFinite = a.isFinite := by cases a <;> rfl

theorem abs_nonneg (number : a.isNaN = false) : 0 ≤ a.abs := by
  rw [nonneg_iff]
  cases a with
  | nan => cases number
  | infinite | finite => exact ⟨rfl, Int.natCast_nonneg _⟩

theorem div_nonneg (nonneg : 0 ≤ a) (finite : divisor.isFinite = true) (positive : 0 < divisor) :
    0 ≤ a / divisor := by
  rcases pos_cases positive with rfl | ⟨quanta, fits, rfl, nonzero⟩
  · cases finite
  · exact (rises_div nonzero).nonneg nonneg

/-- What a finite number is compared by, its magnitude or one in the place of zero, is finite. -/
theorem isFinite_scale (finite : a.isFinite = true) :
    (if a.isZero then 1 else a.abs).isFinite = true := by
  split
  · decide +kernel
  · exact (isFinite_abs a).trans finite

/-- What a finite number is compared by is positive. -/
theorem scale_pos (finite : a.isFinite = true) : 0 < (if a.isZero then 1 else a.abs) := by
  split
  · decide +kernel
  · next nonzero => exact abs_pos finite (by simpa using nonzero)

theorem max_eq (left : a.isNaN = false) (right : c.isNaN = false) :
    a.max c = if c < a then a else c := by
  unfold max
  rw [left, right]
  rfl

/-- The larger of a number and a fixed one grows with the number. -/
theorem max_le_max (number : c.isNaN = false) (ordered : a ≤ b) : a.max c ≤ b.max c := by
  obtain ⟨left, right⟩ := not_isNaN_of_le ordered
  rw [max_eq left number, max_eq right number]
  by_cases above : c < a
  · rwa [if_pos above, if_pos (lt_of_lt_of_le above ordered)]
  · rw [if_neg above]
    split
    · next above' => exact le_of_lt above'
    · exact le_refl number

end Quotients

end GolfProgress.Binary64
