import GolfProgress.Binary64.Bits
import GolfProgress.Proofs.NumberOrder

/-!
# Rounding to the nearest number

A count of quanta is short when it has at most 53 significant bits, which the rounding
of every quotient has (`short_nearestQuanta`).  Rounding keeps its side of every short
count: a short count below a quotient is below its rounding, and one above stays above
(`le_nearestQuanta`, `nearestQuanta_le`).  So a short count is rounded to itself, and a
bound on a rounded result follows from the same bound on the exact one.  Where a bound
is not short, the rounding of a whole count is off by at most one part in `2 ^ 53`
(`le_nearestQuanta_add`).
-/

set_option autoImplicit false

namespace GolfProgress.Binary64

/-! ## Nearest integers -/

section Integers

variable {numerator denominator bound : Nat}

theorem le_roundHalfEven (positive : 0 < denominator) (below : bound * denominator ≤ numerator) :
    bound ≤ roundHalfEven numerator denominator := by
  have quotient : bound ≤ numerator / denominator := (Nat.le_div_iff_mul_le positive).mpr below
  unfold roundHalfEven
  dsimp only
  split
  · exact quotient
  · split <;> omega

theorem roundHalfEven_le (positive : 0 < denominator) (above : numerator ≤ bound * denominator) :
    roundHalfEven numerator denominator ≤ bound := by
  have division := Nat.div_add_mod numerator denominator
  have quotient : numerator / denominator ≤ bound := Nat.div_le_of_le_mul (by rwa [Nat.mul_comm])
  by_cases least : numerator / denominator < bound
  · unfold roundHalfEven
    dsimp only
    split
    · exact quotient
    · split <;> omega
  · -- the quotient is the bound itself, so there is no rest
    have equal : numerator / denominator = bound := by omega
    have rest : numerator % denominator = 0 := by
      rw [equal, Nat.mul_comm] at division
      omega
    simp [roundHalfEven, rest, positive, equal]

/-- A quotient is below the nearest integer and a half. -/
theorem le_roundHalfEven_add_half (numerator : Nat) (positive : 0 < denominator) :
    2 * numerator ≤ 2 * (denominator * roundHalfEven numerator denominator) + denominator := by
  have division := Nat.div_add_mod numerator denominator
  have rest := Nat.mod_lt numerator positive
  unfold roundHalfEven
  dsimp only
  split
  · omega
  · split
    · rw [Nat.mul_add, Nat.mul_one]
      omega
    · rw [Nat.mul_add]
      omega

theorem roundHalfEven_scaled {factor : Nat} (positive : 0 < factor) :
    roundHalfEven (numerator * factor) (denominator * factor) =
      roundHalfEven numerator denominator := by
  unfold roundHalfEven
  simp only [Nat.mul_div_mul_right _ _ positive, Nat.mul_mod_mul_right, ← Nat.mul_assoc,
    Nat.mul_lt_mul_right positive]

end Integers

/-! ## The spacing of numbers -/

/-- The distance of the numbers around a count of quanta, or that below it at the start
of a binade. -/
def spacing (quanta : Nat) : Nat := Nat.pow 2 (lastPlace quanta)

/-- A count of quanta with at most 53 significant bits. -/
def Short (quanta : Nat) : Prop := spacing quanta ∣ quanta

theorem spacing_pos (quanta : Nat) : 0 < spacing quanta := two_pow_pos _

theorem fits_iff {quanta : Nat} : Fits quanta ↔ Short quanta ∧ quanta < limit := Iff.rfl

theorem fractionSize_mul_pow (place : Nat) :
    fractionSize * Nat.pow 2 place = Nat.pow 2 (52 + place) := (Nat.pow_add 2 52 place).symm

/-- Counts with no more bits than a fraction have are spaced by one quantum, and the
others have all their significant bits. -/
theorem spacing_cases (quanta : Nat) :
    spacing quanta = 1 ∨ fractionSize * spacing quanta ≤ quanta := by
  by_cases small : quanta.log2 ≤ 52
  · exact .inl (by simp [spacing, lastPlace, Nat.sub_eq_zero_of_le small])
  · refine .inr ?_
    rw [spacing, lastPlace, fractionSize_mul_pow, Nat.add_sub_cancel' (by omega)]
    exact Nat.log2_self_le (by rintro rfl; exact small (by decide))

theorem lt_fractionSize_mul_spacing (quanta : Nat) :
    quanta < 2 * fractionSize * spacing quanta := by
  have bits : quanta < Nat.pow 2 (quanta.log2 + 1) := Nat.lt_log2_self
  have width : Nat.pow 2 (quanta.log2 + 1) ≤ Nat.pow 2 (1 + (52 + lastPlace quanta)) :=
    Nat.pow_le_pow_right (by decide) (by unfold lastPlace; omega)
  rw [spacing, Nat.mul_assoc, fractionSize_mul_pow]
  exact Nat.lt_of_lt_of_le bits (Nat.le_trans width (Nat.le_of_eq (Nat.pow_add 2 1 _)))

/-- Numbers are no denser above a count whose bits reach the last place. -/
theorem spacing_dvd_spacing {low high : Nat} (reaches : fractionSize * spacing low ≤ high) :
    spacing low ∣ spacing high := by
  rw [spacing, fractionSize_mul_pow] at reaches
  have nonzero : high ≠ 0 := Nat.ne_of_gt (Nat.lt_of_lt_of_le (two_pow_pos _) reaches)
  have places := (Nat.le_log2 nonzero).mpr reaches
  exact Nat.pow_dvd_pow 2 (by unfold lastPlace; unfold lastPlace at places; omega)

theorem spacing_dvd_of_le {low high : Nat} (atMost : low ≤ high) : spacing low ∣ spacing high := by
  rcases spacing_cases low with unit | reaches
  · rw [unit]
    exact Nat.one_dvd _
  · exact spacing_dvd_spacing (Nat.le_trans reaches atMost)

theorem spacing_dvd_pow {quanta place : Nat} (below : quanta < 2 * fractionSize * Nat.pow 2 place) :
    spacing quanta ∣ Nat.pow 2 place := by
  rcases spacing_cases quanta with unit | reaches
  · rw [unit]
    exact Nat.one_dvd _
  · refine Nat.pow_dvd_pow 2 (Nat.le_of_lt_succ ?_)
    refine (Nat.pow_lt_pow_iff_right (a := 2) (by decide)).mp ?_
    have bound : fractionSize * spacing quanta < fractionSize * (2 * Nat.pow 2 place) := by
      rw [← Nat.mul_assoc, Nat.mul_comm fractionSize 2]
      exact Nat.lt_of_le_of_lt reaches below
    exact Nat.lt_of_lt_of_le (Nat.lt_of_mul_lt_mul_left bound)
      (Nat.le_of_eq (Nat.pow_succ'.symm))

/-- A multiple of a power of two by at most 53 bits is short. -/
theorem short_mul_pow {factor : Nat} (narrow : factor ≤ 2 * fractionSize) (place : Nat) :
    Short (factor * Nat.pow 2 place) := by
  rcases Nat.lt_or_eq_of_le narrow with less | rfl
  · exact Nat.dvd_trans (spacing_dvd_pow (Nat.mul_lt_mul_of_pos_right less (two_pow_pos place)))
      (Nat.dvd_mul_left _ _)
  · -- the next power of two ends in more zeros
    have shape : 2 * fractionSize * Nat.pow 2 place = fractionSize * Nat.pow 2 (place + 1) := by
      rw [Nat.mul_comm 2, Nat.mul_assoc]
      exact congrArg (fractionSize * ·) Nat.pow_succ'.symm
    rw [shape]
    refine Nat.dvd_trans (spacing_dvd_pow ?_) (Nat.dvd_mul_left _ _)
    rw [Nat.mul_assoc, Nat.two_mul]
    exact Nat.lt_add_of_pos_right (Nat.mul_pos (two_pow_pos 52) (two_pow_pos _))

/-! ## Nearest counts -/

section Counts

variable {numerator denominator bound : Nat}

theorem nearestQuanta_eq (numerator denominator : Nat) :
    nearestQuanta numerator denominator =
      roundHalfEven numerator (denominator * spacing (numerator / denominator)) *
        spacing (numerator / denominator) := rfl

theorem short_nearestQuanta (numerator : Nat) (positive : 0 < denominator) :
    Short (nearestQuanta numerator denominator) := by
  refine short_mul_pow (roundHalfEven_le (Nat.mul_pos positive (spacing_pos _)) ?_) _
  have bound := lt_fractionSize_mul_spacing (numerator / denominator)
  rw [Nat.div_lt_iff_lt_mul positive] at bound
  exact Nat.le_of_lt (by rwa [Nat.mul_assoc, Nat.mul_comm (spacing _)] at bound)

/-- A short count below a quotient is below its rounding. -/
theorem le_nearestQuanta (short : Short bound) (positive : 0 < denominator)
    (below : bound * denominator ≤ numerator) : bound ≤ nearestQuanta numerator denominator := by
  have scaled := Nat.mul_pos positive (spacing_pos (numerator / denominator))
  have quotient : bound ≤ numerator / denominator := (Nat.le_div_iff_mul_le positive).mpr below
  -- a multiple of the spacing below the quotient is below the nearest one
  have multiple : ∀ factor, factor * spacing (numerator / denominator) ≤ numerator / denominator →
      factor * spacing (numerator / denominator) ≤ nearestQuanta numerator denominator := by
    intro factor least
    refine Nat.mul_le_mul_right _ (le_roundHalfEven scaled ?_)
    rw [Nat.mul_comm denominator, ← Nat.mul_assoc]
    exact (Nat.le_div_iff_mul_le positive).mp least
  have divides (even : spacing (numerator / denominator) ∣ bound) :
      bound ≤ nearestQuanta numerator denominator := by
    obtain ⟨factor, rfl⟩ := even
    rw [Nat.mul_comm] at quotient ⊢
    exact multiple factor quotient
  rcases spacing_cases (numerator / denominator) with unit | reaches
  · exact divides (unit ▸ Nat.one_dvd _)
  · by_cases same : fractionSize * spacing (numerator / denominator) ≤ bound
    · exact divides (Nat.dvd_trans (spacing_dvd_spacing same) short)
    · exact Nat.le_trans (Nat.le_of_lt (Nat.lt_of_not_le same)) (multiple fractionSize reaches)

/-- A short count above a quotient is above its rounding. -/
theorem nearestQuanta_le (short : Short bound) (positive : 0 < denominator)
    (above : numerator ≤ bound * denominator) : nearestQuanta numerator denominator ≤ bound := by
  have quotient : numerator / denominator ≤ bound :=
    Nat.div_le_of_le_mul (by rwa [Nat.mul_comm])
  obtain ⟨factor, multiple⟩ := Nat.dvd_trans (spacing_dvd_of_le quotient) short
  rw [nearestQuanta_eq, multiple, Nat.mul_comm (spacing _) factor]
  refine Nat.mul_le_mul_right _ (roundHalfEven_le (Nat.mul_pos positive (spacing_pos _)) ?_)
  rw [multiple] at above
  rwa [← Nat.mul_assoc, Nat.mul_right_comm, Nat.mul_comm factor]

/-- A short count is rounded to itself. -/
theorem nearestQuanta_one (short : Short bound) : nearestQuanta bound 1 = bound :=
  Nat.le_antisymm (nearestQuanta_le short Nat.one_pos (Nat.le_of_eq (Nat.mul_one _).symm))
    (le_nearestQuanta short Nat.one_pos (Nat.le_of_eq (Nat.mul_one _)))

/-- Rounding depends on the quotient alone. -/
theorem nearestQuanta_scaled {factor : Nat} (positive : 0 < factor) :
    nearestQuanta (numerator * factor) (denominator * factor) =
      nearestQuanta numerator denominator := by
  simp only [nearestQuanta_eq, Nat.mul_div_mul_right _ _ positive]
  rw [Nat.mul_right_comm denominator factor, roundHalfEven_scaled positive]

/-- A whole count exceeds its rounding by at most one part in `2 ^ 53`. -/
theorem le_nearestQuanta_add (quanta : Nat) :
    2 * fractionSize * quanta ≤ 2 * fractionSize * nearestQuanta quanta 1 + quanta := by
  rcases spacing_cases quanta with unit | reaches
  · have exact : nearestQuanta quanta 1 = quanta := nearestQuanta_one (by
      rw [Short, unit]
      exact Nat.one_dvd _)
    rw [exact]
    exact Nat.le_add_right _ _
  · have half := le_roundHalfEven_add_half quanta (spacing_pos quanta)
    have rounded : nearestQuanta quanta 1 =
        spacing quanta * roundHalfEven quanta (spacing quanta) := by
      rw [nearestQuanta_eq, Nat.div_one, Nat.one_mul, Nat.mul_comm]
    rw [rounded]
    calc 2 * fractionSize * quanta = fractionSize * (2 * quanta) := by
          rw [Nat.mul_comm 2, Nat.mul_assoc]
      _ ≤ fractionSize * (2 * (spacing quanta * roundHalfEven quanta (spacing quanta)) +
            spacing quanta) := Nat.mul_le_mul_left _ half
      _ = 2 * fractionSize * (spacing quanta * roundHalfEven quanta (spacing quanta)) +
            fractionSize * spacing quanta := by
          rw [Nat.mul_add, ← Nat.mul_assoc, Nat.mul_comm fractionSize 2]
      _ ≤ _ := Nat.add_le_add_left reaches _

end Counts

/-! ## Rounded numbers -/

section Numbers

variable {numerator denominator quanta value : Nat}

/-- A count of the format is rounded to itself. -/
theorem ofQuotient_one (negative : Bool) (fits : Fits quanta) :
    ofQuotient negative quanta 1 = .finite negative quanta fits := by
  have exact : nearestQuanta quanta 1 = quanta := nearestQuanta_one (fits_iff.mp fits).1
  unfold ofQuotient
  split
  · simp only [exact]
  · next overflow => exact absurd (exact.symm ▸ fits) overflow

/-- A quotient is rounded to a finite number, or is infinite where the rounding reaches the
limit of the format. -/
theorem ofQuotient_cases (negative : Bool) (numerator : Nat) (positive : 0 < denominator) :
    (∃ fits, ofQuotient negative numerator denominator =
      .finite negative (nearestQuanta numerator denominator) fits) ∨
    ofQuotient negative numerator denominator = .infinite negative ∧
      limit ≤ nearestQuanta numerator denominator := by
  unfold ofQuotient
  split
  · next fits => exact .inl ⟨fits, rfl⟩
  · next overflow =>
      refine .inr ⟨rfl, Nat.le_of_not_lt fun below => overflow ?_⟩
      exact fits_iff.mpr ⟨short_nearestQuanta numerator positive, below⟩

theorem ofQuotient_scaled (negative : Bool) {factor : Nat} (positive : 0 < factor) :
    ofQuotient negative (numerator * factor) (denominator * factor) =
      ofQuotient negative numerator denominator := by
  unfold ofQuotient
  simp only [nearestQuanta_scaled positive]

/-- A count over itself is one. -/
theorem ofQuotient_self (positive : 0 < quanta) :
    ofQuotient false (quanta * quantaPerUnit) quanta = ofNat 1 := by
  have scaled : ofQuotient false (quantaPerUnit * quanta) (1 * quanta) =
      ofQuotient false quantaPerUnit 1 := ofQuotient_scaled false positive
  rw [Nat.one_mul, Nat.mul_comm] at scaled
  rw [scaled, ofNat, Nat.one_mul]

/-- A number of the format below a quotient is below the rounded quotient. -/
theorem le_ofQuotient (fits : Fits quanta) (positive : 0 < denominator)
    (below : quanta * denominator ≤ numerator) :
    finite false quanta fits ≤ ofQuotient false numerator denominator := by
  rcases ofQuotient_cases false numerator positive with ⟨rounded, equal⟩ | ⟨equal, -⟩
  · rw [equal, le_iff rfl rfl]
    simp only [place, signed_false]
    exact Int.ofNat_le.mpr (le_nearestQuanta (fits_iff.mp fits).1 positive below)
  · rw [equal]
    rfl

/-- A quotient below a number of the format is rounded to a finite number below it. -/
theorem ofQuotient_le (negative : Bool) (fits : Fits quanta) (positive : 0 < denominator)
    (above : numerator ≤ quanta * denominator) :
    ∃ rounded, ofQuotient negative numerator denominator =
      .finite negative (nearestQuanta numerator denominator) rounded ∧
        nearestQuanta numerator denominator ≤ quanta := by
  have bound := nearestQuanta_le (fits_iff.mp fits).1 positive above
  rcases ofQuotient_cases negative numerator positive with ⟨rounded, equal⟩ | ⟨-, overflow⟩
  · exact ⟨rounded, equal, bound⟩
  · exact absurd (Nat.le_trans overflow bound) (Nat.not_le.mpr (fits_iff.mp fits).2)

theorem quantaPerUnit_pos : 0 < quantaPerUnit := by
  unfold quantaPerUnit
  generalize 1074 = place
  exact two_pow_pos place

/-- A count with few bits that ends far enough below the limit fits the format. -/
theorem fits_mul_pow {place : Nat} (small : value ≤ fractionSize) (width : 52 + place < 2098) :
    Fits (value * Nat.pow 2 place) := by
  have narrow : value ≤ 2 * fractionSize :=
    Nat.le_trans small (Nat.le_mul_of_pos_left _ (by decide))
  rw [fits_iff]
  unfold limit
  -- the power is too large to be worked out
  generalize 2098 = top at width
  refine ⟨short_mul_pow narrow place, Nat.lt_of_le_of_lt (Nat.mul_le_mul_right _ small) ?_⟩
  rw [fractionSize_mul_pow]
  exact Nat.pow_lt_pow_right (by decide) width

/-- Small numbers of units are numbers of the format. -/
theorem fits_units (small : value ≤ fractionSize) : Fits (value * quantaPerUnit) := by
  have width : 52 + 1074 < 2098 := by decide
  unfold quantaPerUnit
  generalize 1074 = place at width
  exact fits_mul_pow small width

theorem ofNat_eq (small : value ≤ fractionSize) :
    ofNat value = .finite false (value * quantaPerUnit) (fits_units small) :=
  ofQuotient_one false (fits_units small)

theorem place_ofNat (small : value ≤ fractionSize) :
    (ofNat value).place = (value * quantaPerUnit : Nat) := by
  rw [ofNat_eq small, place, signed_false]

theorem isNaN_ofQuotient (negative : Bool) (numerator denominator : Nat) :
    (ofQuotient negative numerator denominator).isNaN = false := by
  unfold ofQuotient
  split <;> rfl

theorem isNaN_ofNat (value : Nat) : (ofNat value).isNaN = false := isNaN_ofQuotient _ _ _

/-! ## Arithmetic of finite numbers -/

variable {s t : Bool} {a b count : Nat} {fitsA : Fits a} {fitsB : Fits b}

theorem mul_finite : finite s a fitsA * finite t b fitsB =
    ofQuotient (s != t) (a * b) quantaPerUnit := by
  change mul _ _ = _
  rw [mul]

theorem div_finite (nonzero : b ≠ 0) : finite s a fitsA / finite t b fitsB =
    ofQuotient (s != t) (a * quantaPerUnit) b := by
  change div _ _ = _
  rw [div, if_neg nonzero]

theorem mul_ofNat (small : count ≤ fractionSize) :
    finite s a fitsA * ofNat count = ofQuotient s (a * count) 1 := by
  have scaled : ofQuotient s (a * count * quantaPerUnit) (1 * quantaPerUnit) =
      ofQuotient s (a * count) 1 := ofQuotient_scaled s quantaPerUnit_pos
  rw [ofNat_eq small, mul_finite, ← Nat.mul_assoc, Bool.bne_false, ← scaled, Nat.one_mul]

theorem div_ofNat (small : count ≤ fractionSize) (positive : 0 < count) :
    finite s a fitsA / ofNat count = ofQuotient s a count := by
  rw [ofNat_eq small, div_finite (Nat.ne_of_gt (Nat.mul_pos positive quantaPerUnit_pos)),
    ofQuotient_scaled _ quantaPerUnit_pos, Bool.bne_false]

theorem infinite_div_finite : infinite s / finite t b fitsB = infinite (s != t) := rfl

theorem infinite_mul_ofNat (small : count ≤ fractionSize) (positive : 0 < count) :
    infinite s * ofNat count = infinite s := by
  rw [ofNat_eq small]
  change mul _ _ = _
  rw [mul, if_neg (Nat.ne_of_gt (Nat.mul_pos positive quantaPerUnit_pos)), Bool.bne_false]

theorem isNaN_mul_ofNat {value : Binary64} (number : value.isNaN = false)
    (small : count ≤ fractionSize) (positive : 0 < count) :
    (value * ofNat count).isNaN = false := by
  cases value with
  | nan => cases number
  | infinite negative =>
      rw [infinite_mul_ofNat small positive]
      rfl
  | finite negative quanta fits =>
      rw [mul_ofNat small]
      exact isNaN_ofQuotient _ _ _

theorem isNaN_div_ofNat {value : Binary64} (number : value.isNaN = false)
    (small : count ≤ fractionSize) (positive : 0 < count) :
    (value / ofNat count).isNaN = false := by
  cases value with
  | nan => cases number
  | infinite negative =>
      rw [ofNat_eq small, infinite_div_finite]
      rfl
  | finite negative quanta fits =>
      rw [div_ofNat small positive]
      exact isNaN_ofQuotient _ _ _

end Numbers

end GolfProgress.Binary64
