import GolfProgress.Proofs.Rounding

/-!
# Rounding keeps order

A larger quotient is never rounded to a smaller number (`nearestQuanta_mono`).  Quotients
that are rounded to multiples of one spacing are ordered as the nearest integers are
(`roundHalfEven_mono`); where the spacing grows from one to the other, a power of two
lies between them that neither rounding crosses.

So every operation on numbers that are not negative and that grows in its exact result
grows in its rounded one.  `Rises` says so of a function of one number.
-/

set_option autoImplicit false

namespace GolfProgress.Binary64

/-! ## Nearest integers and counts -/

section Counts

variable {numerator denominator : Nat} {numerator' denominator' : Nat}

theorem quotient_mono (positive : 0 < denominator) (positive' : 0 < denominator')
    (ordered : numerator * denominator' ≤ numerator' * denominator) :
    numerator / denominator ≤ numerator' / denominator' := by
  rw [Nat.le_div_iff_mul_le positive']
  refine Nat.le_of_mul_le_mul_right ?_ positive
  calc numerator / denominator * denominator' * denominator
      = numerator / denominator * denominator * denominator' := Nat.mul_right_comm _ _ _
    _ ≤ numerator * denominator' := Nat.mul_le_mul_right _ (Nat.div_mul_le_self _ _)
    _ ≤ numerator' * denominator := ordered

/-- Larger quotients have larger nearest integers. -/
theorem roundHalfEven_mono (positive : 0 < denominator) (positive' : 0 < denominator')
    (ordered : numerator * denominator' ≤ numerator' * denominator) :
    roundHalfEven numerator denominator ≤ roundHalfEven numerator' denominator' := by
  have quotients := quotient_mono positive positive' ordered
  rcases Nat.lt_or_eq_of_le quotients with less | same
  · -- the nearest integers lie on either side of the larger quotient
    have above : numerator ≤ numerator' / denominator' * denominator := by
      rw [Nat.mul_comm]
      exact Nat.le_of_lt (Nat.lt_of_lt_of_le (Nat.lt_mul_div_succ numerator positive)
        (Nat.mul_le_mul_left denominator less))
    exact Nat.le_trans (roundHalfEven_le positive above)
      (le_roundHalfEven positive' (Nat.div_mul_le_self _ _))
  · -- the quotients are equal, so the rests are in order
    have rests : numerator % denominator * denominator' ≤
        numerator' % denominator' * denominator := by
      rw [← Nat.div_add_mod numerator denominator, ← Nat.div_add_mod numerator' denominator',
        ← same, Nat.add_mul, Nat.add_mul] at ordered
      have common : denominator * (numerator / denominator) * denominator' =
          denominator' * (numerator / denominator) * denominator := by
        rw [Nat.mul_right_comm, Nat.mul_comm denominator, Nat.mul_right_comm]
      omega
    have doubled : 2 * (numerator % denominator) * denominator' ≤
        2 * (numerator' % denominator') * denominator := by
      rw [Nat.mul_assoc, Nat.mul_assoc]
      exact Nat.mul_le_mul_left 2 rests
    have half (reached : denominator ≤ 2 * (numerator % denominator)) :
        denominator' ≤ 2 * (numerator' % denominator') := by
      refine Nat.le_of_mul_le_mul_right (Nat.le_trans ?_ doubled) positive
      rw [Nat.mul_comm]
      exact Nat.mul_le_mul_right denominator' reached
    have beyond (passed : denominator < 2 * (numerator % denominator)) :
        denominator' < 2 * (numerator' % denominator') := by
      refine Nat.lt_of_mul_lt_mul_right (Nat.lt_of_lt_of_le ?_ doubled)
      rw [Nat.mul_comm]
      exact Nat.mul_lt_mul_of_pos_right passed positive'
    unfold roundHalfEven
    dsimp only
    rw [← same]
    rcases Nat.lt_trichotomy (2 * (numerator % denominator)) denominator with less | tie | more
    · rw [if_pos less]
      split
      · exact Nat.le_refl _
      · split <;> omega
    · have reached := half (by omega)
      rw [if_neg (by omega), if_neg (by omega), if_neg (by omega)]
      split <;> omega
    · have passed := beyond more
      refine Nat.le_of_eq ?_
      rw [if_neg (by omega), if_pos more, if_neg (by omega), if_pos passed]

theorem nearestQuanta_zero (denominator : Nat) : nearestQuanta 0 denominator = 0 := by
  simp [nearestQuanta, roundHalfEven]

/-- **Larger quotients are rounded to larger counts.** -/
theorem nearestQuanta_mono (positive : 0 < denominator) (positive' : 0 < denominator')
    (ordered : numerator * denominator' ≤ numerator' * denominator) :
    nearestQuanta numerator denominator ≤ nearestQuanta numerator' denominator' := by
  have quotients := quotient_mono positive positive' ordered
  by_cases same : spacing (numerator / denominator) = spacing (numerator' / denominator')
  · rw [nearestQuanta_eq, nearestQuanta_eq, same]
    have scaled := spacing_pos (numerator' / denominator')
    refine Nat.mul_le_mul_right _
      (roundHalfEven_mono (Nat.mul_pos positive scaled) (Nat.mul_pos positive' scaled) ?_)
    rw [← Nat.mul_assoc, ← Nat.mul_assoc]
    exact Nat.mul_le_mul_right _ ordered
  · -- the first number of the larger spacing lies between the quotients
    have between : Short (fractionSize * spacing (numerator' / denominator')) :=
      short_mul_pow (Nat.le_mul_of_pos_left _ (by decide)) _
    obtain ⟨factor, multiple⟩ := spacing_dvd_of_le quotients
    have double : 2 * spacing (numerator / denominator) ≤ spacing (numerator' / denominator') := by
      have larger := spacing_pos (numerator' / denominator')
      rw [multiple] at larger same ⊢
      have factors : factor ≠ 0 ∧ factor ≠ 1 :=
        ⟨by rintro rfl; simp at larger, by rintro rfl; simp at same⟩
      rw [Nat.mul_comm]
      exact Nat.mul_le_mul_left _ (by omega)
    have reaches : fractionSize * spacing (numerator' / denominator') ≤
        numerator' / denominator' := by
      refine (spacing_cases _).resolve_left fun unit => ?_
      have smaller := spacing_pos (numerator / denominator)
      omega
    have below : numerator / denominator < fractionSize * spacing (numerator' / denominator') := by
      refine Nat.lt_of_lt_of_le (lt_fractionSize_mul_spacing _) ?_
      rw [Nat.mul_comm 2, Nat.mul_assoc]
      exact Nat.mul_le_mul_left _ double
    rw [Nat.div_lt_iff_lt_mul positive] at below
    rw [Nat.le_div_iff_mul_le positive'] at reaches
    exact Nat.le_trans (nearestQuanta_le between positive (Nat.le_of_lt below))
      (le_nearestQuanta between positive' reaches)

end Counts

/-! ## Numbers that are not negative -/

/-- A signed count is the count itself when it has no sign or is zero. -/
theorem signed_eq_self {negative : Bool} {quanta : Nat} :
    signed negative quanta = quanta ↔ negative = false ∨ quanta = 0 := by
  cases negative with
  | false => simp [signed_false]
  | true =>
      rw [signed_true]
      simp only [Bool.true_eq_false, false_or]
      omega

section Numbers

variable {a : Binary64}

/-- A number is not negative exactly when its place is not. -/
theorem nonneg_iff : 0 ≤ a ↔ a.isNaN = false ∧ 0 ≤ a.place := by
  have zero : (0 : Binary64).place = 0 := by rw [zero_eq]; rfl
  constructor
  · intro nonneg
    have number := (not_isNaN_of_le nonneg).2
    rw [le_iff isNaN_zero number, zero] at nonneg
    exact ⟨number, nonneg⟩
  · rintro ⟨number, nonneg⟩
    rwa [le_iff isNaN_zero number, zero]

/-- A number that is not negative is the positive infinity, or a count of quanta that is its
place. -/
theorem nonneg_cases (nonneg : 0 ≤ a) : a = .infinite false ∨
    ∃ negative quanta fits, a = .finite negative quanta fits ∧ signed negative quanta = quanta := by
  obtain ⟨number, place⟩ := nonneg_iff.mp nonneg
  cases a with
  | nan => cases number
  | infinite negative =>
      cases negative
      · exact .inl rfl
      · have positive := limit_pos
        simp only [Binary64.place, signed_true] at place
        omega
  | finite negative quanta fits =>
      refine .inr ⟨negative, quanta, fits, rfl, signed_eq_self.mpr ?_⟩
      cases negative
      · exact .inl rfl
      · simp only [Binary64.place, signed_true] at place
        omega

/-- Zeros are the numbers between zero and zero. -/
theorem isZero_iff : a.isZero = true ↔ 0 ≤ a ∧ a ≤ 0 := by
  have origin : (0 : Binary64).place = 0 := by rw [zero_eq]; rfl
  constructor
  · intro zero
    cases a with
    | nan | infinite => cases zero
    | finite negative quanta fits =>
        obtain rfl : quanta = 0 := by simpa [isZero] using zero
        rw [le_iff isNaN_zero rfl, le_iff rfl isNaN_zero, origin]
        cases negative <;> exact ⟨Int.le_refl 0, Int.le_refl 0⟩
  · rintro ⟨nonneg, nonpos⟩
    have number := (not_isNaN_of_le nonpos).1
    rw [le_iff number isNaN_zero, origin] at nonpos
    rcases nonneg_cases nonneg with rfl | ⟨negative, quanta, fits, rfl, plain⟩
    · have positive := limit_pos
      simp only [place, signed_false] at nonpos
      omega
    · rw [place, plain] at nonpos
      have none : quanta = 0 := by omega
      simpa [isZero] using none

theorem le_infinite (number : a.isNaN = false) : a ≤ .infinite false := by
  rw [le_iff number rfl]
  cases a with
  | nan => cases number
  | infinite negative =>
      have positive := limit_pos
      cases negative <;> simp only [place, signed_false, signed_true] <;> omega
  | finite negative quanta fits => exact Int.le_of_lt (signed_within negative fits).2

/-- Nothing but the infinity is above it. -/
theorem eq_infinite (above : .infinite false ≤ a) : a = .infinite false := by
  have number := (not_isNaN_of_le above).2
  rw [le_iff rfl number] at above
  have positive := limit_pos
  cases a with
  | nan => cases number
  | infinite negative =>
      cases negative
      · rfl
      · simp only [place, signed_false, signed_true] at above
        omega
  | finite negative quanta fits =>
      have within := (signed_within negative fits).2
      simp only [place, signed_false] at above
      omega

/-- Positive numbers between one another are the same. -/
theorem eq_of_le_of_le {b : Binary64} (positive : 0 < a) (first : a ≤ b) (second : b ≤ a) :
    b = a := by
  rcases pos_cases positive with rfl | ⟨p, fits, rfl, some⟩
  · exact eq_infinite first
  · rcases pos_cases (lt_of_lt_of_le positive first) with rfl | ⟨q, fits', rfl, -⟩
    · cases eq_infinite second
    · rw [le_iff rfl rfl, place, place, signed_false, signed_false] at first second
      obtain rfl : q = p := by omega
      rfl

/-- A quotient of at least one quantum is not rounded to zero. -/
theorem ofQuotient_pos {numerator denominator : Nat} (positive : 0 < denominator)
    (some : denominator ≤ numerator) : 0 < ofQuotient false numerator denominator := by
  have fits : Fits 1 := by decide +kernel
  have least : 0 < finite false 1 fits := by
    rw [lt_iff isNaN_zero rfl, zero_eq]
    exact Int.one_pos
  exact lt_of_lt_of_le least (le_ofQuotient fits positive (by rwa [Nat.one_mul]))

end Numbers

/-! ## Rounded quotients -/

/-- A number that is a quotient of counts rounded, whatever the sign when it is zero. -/
def IsRounded (value : Binary64) (numerator denominator : Nat) : Prop :=
  ∃ negative, value = ofQuotient negative numerator denominator ∧
    signed negative numerator = numerator

namespace IsRounded

variable {value value' : Binary64} {numerator numerator' denominator denominator' : Nat}

theorem number (rounded : IsRounded value numerator denominator) : value.isNaN = false := by
  obtain ⟨negative, rfl, -⟩ := rounded
  exact isNaN_ofQuotient _ _ _

/-- The place of a rounded quotient is the nearest count, or the limit if that is less. -/
theorem place_eq (rounded : IsRounded value numerator denominator) (positive : 0 < denominator) :
    value.place = (min (nearestQuanta numerator denominator) limit : Nat) := by
  obtain ⟨negative, rfl, plain⟩ := rounded
  have placed : (ofQuotient negative numerator denominator).place =
      signed negative (min (nearestQuanta numerator denominator) limit) := by
    rcases ofQuotient_cases negative numerator positive with ⟨fits, equal⟩ | ⟨equal, overflow⟩
    · rw [equal, place, Nat.min_eq_left (Nat.le_of_lt (fits_iff.mp fits).2)]
    · rw [equal, place, Nat.min_eq_right overflow]
  rw [placed]
  refine signed_eq_self.mpr ((signed_eq_self.mp plain).imp_right ?_)
  rintro rfl
  rw [nearestQuanta_zero, Nat.zero_min]

theorem nonneg (rounded : IsRounded value numerator denominator) (positive : 0 < denominator) :
    0 ≤ value := by
  rw [nonneg_iff, rounded.place_eq positive]
  exact ⟨rounded.number, Int.natCast_nonneg _⟩

/-- **Larger quotients are rounded to larger numbers.** -/
theorem le (rounded : IsRounded value numerator denominator)
    (rounded' : IsRounded value' numerator' denominator') (positive : 0 < denominator)
    (positive' : 0 < denominator') (ordered : numerator * denominator' ≤ numerator' * denominator) :
    value ≤ value' := by
  rw [le_iff rounded.number rounded'.number, rounded.place_eq positive, rounded'.place_eq positive',
    Int.ofNat_le]
  have mono := nearestQuanta_mono positive positive' ordered
  omega

end IsRounded

theorem ofNat_nonneg (value : Nat) : 0 ≤ ofNat value :=
  IsRounded.nonneg ⟨false, rfl, signed_false _⟩ Nat.one_pos

/-! ## Functions that rise -/

/-- A function that keeps numbers not negative, and larger ones larger. -/
def Rises (change : Binary64 → Binary64) : Prop :=
  ∀ a b, 0 ≤ a → a ≤ b → 0 ≤ change a ∧ change a ≤ change b

section Rises

variable {first second change : Binary64 → Binary64}

theorem Rises.nonneg (rises : Rises change) {a : Binary64} (nonneg : 0 ≤ a) : 0 ≤ change a :=
  (rises a a nonneg (le_refl (nonneg_iff.mp nonneg).1)).1

theorem Rises.comp (late : Rises second) (early : Rises first) :
    Rises fun value => second (first value) := by
  intro a b nonneg ordered
  obtain ⟨low, high⟩ := early a b nonneg ordered
  exact late _ _ low high

/-- **A function rises whose exact result rises**, which is rounded. -/
theorem Rises.of_rounded (count : Nat → Nat) {denominator : Nat} (positive : 0 < denominator)
    (grows : ∀ low high, low ≤ high → count low ≤ count high)
    (finite : ∀ negative quanta fits, signed negative quanta = quanta →
      IsRounded (change (.finite negative quanta fits)) (count quanta) denominator)
    (infinite : change (.infinite false) = .infinite false) : Rises change := by
  intro a b nonneg ordered
  rcases nonneg_cases (le_trans nonneg ordered) with rfl | ⟨t, high, fits', rfl, plain'⟩
  · rcases nonneg_cases nonneg with rfl | ⟨s, low, fits, rfl, plain⟩
    · rw [infinite]
      exact ⟨nonneg, ordered⟩
    · have rounded := finite s low fits plain
      rw [infinite]
      exact ⟨rounded.nonneg positive, le_infinite rounded.number⟩
  · rcases nonneg_cases nonneg with rfl | ⟨s, low, fits, rfl, plain⟩
    · cases eq_infinite ordered
    · have rounded := finite s low fits plain
      refine ⟨rounded.nonneg positive, rounded.le (finite t high fits' plain') positive positive
        (Nat.mul_le_mul_right _ (grows low high ?_))⟩
      rw [le_iff rfl rfl, place, place, plain, plain'] at ordered
      exact Int.ofNat_le.mp ordered

/-! ## Rounded operations that rise -/

section Operations

variable {count : Nat}

theorem rises_mul_ofNat (small : count ≤ fractionSize) (positive : 0 < count) :
    Rises fun value => value * ofNat count := by
  refine .of_rounded (· * count) Nat.one_pos (fun _ _ ordered => Nat.mul_le_mul_right _ ordered)
    (fun negative quanta fits plain => ⟨negative, mul_ofNat small, ?_⟩)
    (infinite_mul_ofNat small positive)
  exact signed_eq_self.mpr ((signed_eq_self.mp plain).imp_right (by rintro rfl; simp))

/-- A positive divisor divides in order. -/
theorem rises_div {divisor : Nat} {fits : Fits divisor} (positive : 0 < divisor) :
    Rises fun value => value / .finite false divisor fits := by
  refine .of_rounded (· * quantaPerUnit) positive
    (fun _ _ ordered => Nat.mul_le_mul_right quantaPerUnit ordered)
    (fun negative quanta _ plain => ⟨negative, ?_, ?_⟩) infinite_div_finite
  · rw [div_finite (Nat.ne_of_gt positive), Bool.bne_false]
  · exact signed_eq_self.mpr ((signed_eq_self.mp plain).imp_right (by rintro rfl; simp))

theorem rises_div_ofNat (small : count ≤ fractionSize) (positive : 0 < count) :
    Rises fun value => value / ofNat count := by
  rw [ofNat_eq small]
  exact rises_div (Nat.mul_pos positive quantaPerUnit_pos)

theorem rises_round : Rises round := by
  refine .of_rounded
    (fun quanta => (2 * quanta + quantaPerUnit) / (2 * quantaPerUnit) * quantaPerUnit) Nat.one_pos
    (fun _ _ ordered => Nat.mul_le_mul_right _ (Nat.div_le_div_right (by omega)))
    (fun negative quanta fits plain => ⟨negative, rfl, ?_⟩) rfl
  refine signed_eq_self.mpr ((signed_eq_self.mp plain).imp_right ?_)
  rintro rfl
  have unit := quantaPerUnit_pos
  rw [Nat.div_eq_of_lt (by omega), Nat.zero_mul]

/-- The product of finite numbers that are not negative. -/
theorem isRounded_mul {s t : Bool} {p q : Nat} {fitsP : Fits p} {fitsQ : Fits q}
    (plain : signed s p = p) (plain' : signed t q = q) :
    IsRounded (.finite s p fitsP * .finite t q fitsQ) (p * q) quantaPerUnit := by
  refine ⟨s != t, mul_finite, signed_eq_self.mpr ?_⟩
  rcases signed_eq_self.mp plain with rfl | rfl
  · rcases signed_eq_self.mp plain' with rfl | rfl
    · exact .inl rfl
    · exact .inr (Nat.mul_zero p)
  · exact .inr (Nat.zero_mul q)

/-- A positive weight is multiplied in order. -/
theorem rises_mul_weight {p : Nat} {fits : Fits p} (positive : 0 < p) :
    Rises fun value => .finite false p fits * value := by
  refine .of_rounded (p * ·) quantaPerUnit_pos (fun _ _ ordered => Nat.mul_le_mul_left p ordered)
    (fun negative quanta _ plain => isRounded_mul rfl plain) ?_
  change mul _ _ = _
  rw [mul, if_neg (Nat.ne_of_gt positive)]
  rfl

/-- A finite weight that is not negative is multiplied in order, unless it is zero and meets
the infinity. -/
theorem mul_rises {weight a b : Binary64} (finite : weight.isFinite = true) (least : 0 ≤ weight)
    (apart : weight.isZero = true → b ≠ .infinite false) (nonneg : 0 ≤ a) (ordered : a ≤ b) :
    0 ≤ weight * a ∧ weight * a ≤ weight * b := by
  rcases nonneg_cases least with rfl | ⟨t, p, fits, rfl, plain⟩
  · cases finite
  · rcases Nat.eq_zero_or_pos p with rfl | positive
    · -- both sides are zero
      rcases nonneg_cases (le_trans nonneg ordered) with rfl | ⟨s, high, fits', rfl, plain'⟩
      · exact absurd rfl (apart rfl)
      · rcases nonneg_cases nonneg with rfl | ⟨r, low, fits'', rfl, plain''⟩
        · cases eq_infinite ordered
        · have rounded : IsRounded (.finite t 0 fits * .finite r low fits'') (0 * low)
              quantaPerUnit := isRounded_mul plain plain''
          refine ⟨rounded.nonneg quantaPerUnit_pos, rounded.le (isRounded_mul plain plain')
            quantaPerUnit_pos quantaPerUnit_pos ?_⟩
          simp
    · obtain rfl : t = false := (signed_eq_self.mp plain).resolve_right (Nat.ne_of_gt positive)
      exact rises_mul_weight positive a b nonneg ordered

/-- A count of quanta that is not negative is rounded as such. -/
theorem isRounded_ofSigned (zeroNegative : Bool) (quanta : Nat) :
    IsRounded (ofSigned zeroNegative quanta) quanta 1 := by
  unfold ofSigned
  split
  · next none =>
      obtain rfl : quanta = 0 := by omega
      exact ⟨zeroNegative, (ofQuotient_one _ fits_zero).symm, signed_eq_self.mpr (.inr rfl)⟩
  · have positive : ¬ (quanta : Int) < 0 := by omega
    refine ⟨false, ?_, rfl⟩
    rw [decide_eq_false positive, Int.natAbs_natCast]

/-- The sum of finite numbers that are not negative. -/
theorem isRounded_add {s t : Bool} {p q : Nat} {fitsP : Fits p} {fitsQ : Fits q}
    (plain : signed s p = p) (plain' : signed t q = q) :
    IsRounded (.finite s p fitsP + .finite t q fitsQ) (p + q) 1 := by
  have sum : Binary64.finite s p fitsP + .finite t q fitsQ =
      ofSigned (s && t) ((p + q : Nat) : Int) := by
    change add _ _ = _
    rw [add, plain, plain', Int.natCast_add]
  rw [sum]
  exact isRounded_ofSigned _ _

/-- A sum of numbers that are not negative is infinite with one of them, or the rounded sum
of counts. -/
theorem add_cases {a b : Binary64} (nonneg : 0 ≤ a) (nonneg' : 0 ≤ b) :
    ((a = .infinite false ∨ b = .infinite false) ∧ a + b = .infinite false) ∨
      (a.isFinite = true ∧ b.isFinite = true) ∧
        ∃ p q : Nat, a.place = p ∧ b.place = q ∧ IsRounded (a + b) (p + q) 1 := by
  rcases nonneg_cases nonneg with rfl | ⟨s, p, fits, rfl, plain⟩
  · rcases nonneg_cases nonneg' with rfl | ⟨t, q, fits', rfl, plain'⟩ <;> exact .inl ⟨.inl rfl, rfl⟩
  · rcases nonneg_cases nonneg' with rfl | ⟨t, q, fits', rfl, plain'⟩
    · exact .inl ⟨.inr rfl, rfl⟩
    · exact .inr ⟨⟨rfl, rfl⟩, p, q, plain, plain', isRounded_add plain plain'⟩

theorem add_nonneg {a b : Binary64} (nonneg : 0 ≤ a) (nonneg' : 0 ≤ b) : 0 ≤ a + b := by
  rcases add_cases nonneg nonneg' with ⟨-, equal⟩ | ⟨-, p, q, -, -, rounded⟩
  · rw [equal, nonneg_iff]
    exact ⟨rfl, Int.natCast_nonneg _⟩
  · exact rounded.nonneg Nat.one_pos

/-- Sums of numbers that are not negative keep order. -/
theorem add_le_add {a a' b b' : Binary64} (nonneg : 0 ≤ a) (ordered : a ≤ a') (nonneg' : 0 ≤ b)
    (ordered' : b ≤ b') : a + b ≤ a' + b' := by
  rcases add_cases (le_trans nonneg ordered) (le_trans nonneg' ordered') with
    ⟨-, equal⟩ | ⟨⟨finite, finite'⟩, p', q', place, place', rounded'⟩
  · rw [equal]
    exact le_infinite (nonneg_iff.mp (add_nonneg nonneg nonneg')).1
  · rcases add_cases nonneg nonneg' with
      ⟨rfl | rfl, -⟩ | ⟨-, p, q, low, low', rounded⟩
    · rw [eq_infinite ordered] at finite
      cases finite
    · rw [eq_infinite ordered'] at finite'
      cases finite'
    · have numbers := not_isNaN_of_le ordered
      have numbers' := not_isNaN_of_le ordered'
      rw [le_iff numbers.1 numbers.2, low, place] at ordered
      rw [le_iff numbers'.1 numbers'.2, low', place'] at ordered'
      exact rounded.le rounded' Nat.one_pos Nat.one_pos (by omega)

end Operations

/-! ## Zero and the infinity -/

theorem ofQuotient_zero (negative : Bool) (denominator : Nat) :
    ofQuotient negative 0 denominator = zero negative := by
  unfold ofQuotient
  simp only [nearestQuanta_zero, fits_zero, dif_pos, zero]

/-- A finite number times zero is a zero. -/
theorem mul_zero {weight : Binary64} (finite : weight.isFinite = true) :
    ∃ negative, weight * 0 = zero negative := by
  cases weight with
  | nan | infinite => cases finite
  | finite negative quanta fits =>
      rw [zero_eq, zero, mul_finite, Nat.mul_zero, ofQuotient_zero]
      exact ⟨_, rfl⟩

/-- A zero times the infinity is not a number. -/
theorem zero_mul_infinite {weight : Binary64} (zero : weight.isZero = true) :
    weight * infinite false = nan := by
  cases weight with
  | nan | infinite => cases zero
  | finite negative quanta fits =>
      have none : quanta = 0 := by simpa [isZero] using zero
      change mul _ _ = _
      rw [mul, if_pos none]

theorem add_nan (a : Binary64) : a + nan = nan := by cases a <;> rfl

/-! ## Cutting off -/

section Clamp

variable {a b low high : Binary64}

/-- Whatever number is cut off lies within the bounds. -/
theorem clamp_bounds (number : a.isNaN = false) (bounds : low ≤ high) :
    low ≤ a.clamp low high ∧ a.clamp low high ≤ high := by
  obtain ⟨bottom, top⟩ := not_isNaN_of_le bounds
  unfold clamp
  split
  · exact ⟨le_refl bottom, bounds⟩
  · next least =>
      split
      · exact ⟨bounds, le_refl top⟩
      · next most => exact ⟨(not_lt number bottom).mp least, (not_lt top number).mp most⟩

/-- Numbers are cut off in order. -/
theorem clamp_le_clamp (bounds : low ≤ high) (ordered : a ≤ b) :
    a.clamp low high ≤ b.clamp low high := by
  obtain ⟨left, right⟩ := not_isNaN_of_le ordered
  obtain ⟨bottom, top⟩ := not_isNaN_of_le bounds
  have within := clamp_bounds right bounds
  by_cases under : a < low
  · rw [clamp, if_pos under]
    exact within.1
  · have least : low ≤ a := (not_lt left bottom).mp under
    have under' : ¬ b < low := (not_lt right bottom).mpr (le_trans least ordered)
    by_cases beyond : high < a
    · rw [clamp, if_neg under, if_pos beyond, clamp, if_neg under',
        if_pos (lt_of_lt_of_le beyond ordered)]
      exact le_refl top
    · rw [clamp, if_neg under, if_neg beyond, clamp, if_neg under']
      split
      · exact (not_lt top left).mp beyond
      · exact ordered

theorem rises_clamp (positive : 0 ≤ high) : Rises fun value => value.clamp 0 high :=
  fun _ _ _ ordered =>
    ⟨(clamp_bounds (not_isNaN_of_le ordered).1 positive).1, clamp_le_clamp positive ordered⟩

end Clamp

end Rises

end GolfProgress.Binary64
