import GolfProgress.Proofs.RuleText
import GolfProgress.Rules.Default
import GolfProgress.Rules.Evaluation

/-!
# Proposed rules can be achieved

A rule that is proposed for a baseline and a better target is sized by the gap relative to
the target, and judged by the improvement relative to the baseline.  Both come from the
same rounded distance (`Direction.improvement_eq`, `relativeGap_eq`).  A gap that is up to
some parts of 128 bounds the improvement that is asked for (`improvementStep_le`), and a
gap that is not bounds the target, and with it the baseline, by the distance
(`lt_of_not_upTo`).  Between the two there is room for every rounding on the way
(`improvementStep_reached`, `le_percentage`).

So a proposed rule passes at the target it was proposed for (`proposed_rule_achieved`).
The exception is a baseline of zero, relative to which there is no improvement.
-/

set_option autoImplicit false

namespace GolfProgress

namespace Binary64

/-! ## Small numbers that are not negative -/

/-- A finite number that is not negative and counts at most so many quanta. -/
def UpTo (most : Nat) (value : Binary64) : Prop :=
  ∃ quanta fits, value = .finite false quanta fits ∧ quanta ≤ most

/-- A part of 128 of a unit, in quanta. -/
def part : Nat := Nat.pow 2 1067

section UpTo

variable {value : Binary64} {most count : Nat}

theorem part_pos : 0 < part := by
  unfold part
  generalize 1067 = place
  exact two_pow_pos place

theorem quantaPerUnit_eq : quantaPerUnit = 128 * part := by decide +kernel

theorem fits_parts (small : count ≤ fractionSize) : Fits (count * part) := by
  have width : 52 + 1067 < 2098 := by decide
  unfold part
  generalize 1067 = place at width
  exact fits_mul_pow small width

theorem UpTo.mul_hundred (small : 100 * count ≤ fractionSize) (upTo : value.UpTo (count * part)) :
    (value * 100).UpTo (100 * count * part) := by
  obtain ⟨quanta, fits, rfl, bound⟩ := upTo
  have scaled : quanta * 100 ≤ 100 * count * part * 1 := by
    rw [Nat.mul_one, Nat.mul_assoc, Nat.mul_comm]
    exact Nat.mul_le_mul_left _ bound
  obtain ⟨rounded, equal, less⟩ := ofQuotient_le false (fits_parts small) Nat.one_pos scaled
  exact ⟨_, rounded, (mul_ofNat (by decide)).trans equal, less⟩

theorem UpTo.half (small : count ≤ fractionSize) (upTo : value.UpTo (2 * count * part)) :
    (value / 2).UpTo (count * part) := by
  obtain ⟨quanta, fits, rfl, bound⟩ := upTo
  have scaled : quanta ≤ count * part * 2 := by
    rwa [Nat.mul_comm, ← Nat.mul_assoc]
  obtain ⟨rounded, equal, less⟩ := ofQuotient_le false (fits_parts small) (by decide) scaled
  exact ⟨_, rounded, (div_ofNat (by decide) (by decide)).trans equal, less⟩

theorem UpTo.of_ofNat (small : count ≤ fractionSize) (within : count * quantaPerUnit ≤ most) :
    (ofNat count).UpTo most :=
  ⟨_, fits_units small, ofNat_eq small, within⟩

section Clamp

variable {low high : Nat}

/-- Moving a number between positive ones leaves at most the higher one. -/
theorem clamp_upTo (number : value.isNaN = false) (positive : 0 < low) (ordered : low ≤ high)
    (small : high ≤ fractionSize) :
    (value.clamp (ofNat low) (ofNat high)).UpTo (high * quantaPerUnit) := by
  have narrow : low ≤ fractionSize := Nat.le_trans ordered small
  unfold clamp
  split
  · exact .of_ofNat narrow (Nat.mul_le_mul_right _ ordered)
  · next above =>
      split
      · exact .of_ofNat small (Nat.le_refl _)
      · next below =>
          rw [lt_iff number (isNaN_ofNat low), place_ofNat narrow] at above
          rw [lt_iff (isNaN_ofNat high) number, place_ofNat small] at below
          have least := Nat.mul_pos positive quantaPerUnit_pos
          have most := (fits_iff.mp (fits_units small)).2
          cases value with
          | nan => cases number
          | infinite negative =>
              cases negative <;> simp only [place, signed_false, signed_true] at above below <;>
                omega
          | finite negative quanta fits =>
              cases negative
              · simp only [place, signed_false] at below
                exact ⟨quanta, fits, rfl, by omega⟩
              · simp only [place, signed_true] at above
                omega

theorem UpTo.clamp (upTo : value.UpTo most) (narrow : low ≤ fractionSize)
    (small : high ≤ fractionSize) (least : low * quantaPerUnit ≤ most) :
    (value.clamp (ofNat low) (ofNat high)).UpTo most := by
  unfold Binary64.clamp
  split
  · exact .of_ofNat narrow least
  · split
    · next above =>
        obtain ⟨quanta, fits, rfl, bound⟩ := upTo
        rw [lt_iff (isNaN_ofNat high) rfl, place_ofNat small] at above
        simp only [place, signed_false] at above
        exact .of_ofNat small (by omega)
    · exact upTo

end Clamp

/-- A number below a half above a whole one is rounded to at most that one. -/
theorem UpTo.round (upTo : value.UpTo most) {whole : Nat}
    (below : 2 * most + quantaPerUnit < (whole + 1) * (2 * quantaPerUnit)) :
    ∃ rounded, rounded ≤ whole ∧ value.round = ofNat rounded := by
  obtain ⟨quanta, fits, rfl, bound⟩ := upTo
  have positive : 0 < 2 * quantaPerUnit := Nat.mul_pos (by decide) quantaPerUnit_pos
  refine ⟨(2 * quanta + quantaPerUnit) / (2 * quantaPerUnit), Nat.le_of_lt_succ ?_, ?_⟩
  · rw [Nat.div_lt_iff_lt_mul positive]
    exact Nat.lt_of_le_of_lt (by omega) below
  · rw [Binary64.round, ofNat]

end UpTo

end Binary64

namespace SuccessRule

open Binary64

variable {gap : Binary64}

/-- An improvement that is asked for is a whole number of at most twenty percent. -/
theorem improvementStep_le_twenty (number : gap.isNaN = false) :
    ∃ percent, percent ≤ 20 ∧ improvementStep gap = .ofNat percent := by
  have positive := quantaPerUnit_pos
  have below : 2 * (20 * quantaPerUnit) + quantaPerUnit < (20 + 1) * (2 * quantaPerUnit) := by
    omega
  have hundredfold : (gap * .ofNat 100 / .ofNat 2).isNaN = false :=
    isNaN_div_ofNat (isNaN_mul_ofNat number (by decide) (by decide)) (by decide) (by decide)
  have clamped : ((gap * .ofNat 100 / .ofNat 2).clamp (.ofNat 5) (.ofNat 20)).UpTo
      (20 * quantaPerUnit) :=
    clamp_upTo hundredfold (by decide) (by decide) (by decide)
  exact clamped.round below

/-- The improvement that is asked for a gap of some parts of 128 is at most half of it,
rounded. -/
theorem improvementStep_le {count : Nat} (most : Nat) (small : 100 * count ≤ fractionSize)
    (upTo : gap.UpTo (count * part)) (least : 640 ≤ 50 * count)
    (below : 100 * count + 128 < (most + 1) * 256) :
    ∃ percent, percent ≤ most ∧ improvementStep gap = .ofNat percent := by
  have positive := part_pos
  have halves : 100 * count = 2 * (50 * count) := by omega
  have hundredfold := upTo.mul_hundred small
  rw [halves] at hundredfold
  refine ((hundredfold.half (by omega)).clamp (by decide) (by decide) ?_).round ?_
  · rw [quantaPerUnit_eq, ← Nat.mul_assoc]
    exact Nat.mul_le_mul_right _ least
  · calc 2 * (50 * count * part) + quantaPerUnit = (100 * count + 128) * part := by
          rw [quantaPerUnit_eq, halves, Nat.add_mul, Nat.mul_assoc 2]
      _ < (most + 1) * 256 * part := Nat.mul_lt_mul_of_pos_right below positive
      _ = (most + 1) * (2 * quantaPerUnit) := by
          rw [quantaPerUnit_eq, ← Nat.mul_assoc 2, Nat.mul_assoc]

end SuccessRule

/-! ## The way to the target -/

namespace Binary64

section Way

variable {s t : Bool} {a b : Nat} {fitsA : Fits a} {fitsB : Fits b}

theorem sub_finite (apart : signed s a ≠ signed t b) :
    finite s a fitsA - finite t b fitsB =
      ofQuotient (decide (signed s a - signed t b < 0)) (signed s a - signed t b).natAbs 1 := by
  have opposite : signed (!t) b = -signed t b := by
    cases t <;> simp [signed]
  have nonzero : signed s a + signed (!t) b ≠ 0 := by omega
  change add (finite s a fitsA) (finite (!t) b fitsB) = _
  rw [add, ofSigned, if_neg nonzero, opposite, ← Int.sub_eq_add_neg]

theorem abs_ofQuotient (negative : Bool) (numerator denominator : Nat) :
    (ofQuotient negative numerator denominator).abs = ofQuotient false numerator denominator := by
  unfold ofQuotient
  split <;> rfl

end Way

/-- The distance of two finite numbers, in quanta. -/
def distance (a b : Binary64) : Nat := (a.place - b.place).natAbs

end Binary64

/-- A value is strictly better than another. -/
def Direction.Betters (direction : Direction) (value other : Binary64) : Prop :=
  match direction with
  | .higherBetter => other < value
  | .lowerBetter => value < other

section Achieved

open Binary64

variable {direction : Direction} {s t : Bool} {a b : Nat} {goal : Fits a} {start : Fits b}

theorem Direction.Betters.apart (better : direction.Betters (finite s a goal) (finite t b start)) :
    signed s a ≠ signed t b := by
  cases direction with
  | higherBetter =>
      have less : signed t b < signed s a := (lt_iff rfl rfl).mp better
      omega
  | lowerBetter =>
      have less : signed s a < signed t b := (lt_iff rfl rfl).mp better
      omega

/-- The improvement on the way to a better target is the distance, rounded. -/
theorem Direction.improvement_eq (better : direction.Betters (finite s a goal) (finite t b start)) :
    direction.improvement (finite t b start) (finite s a goal) =
      ofQuotient false (distance (finite s a goal) (finite t b start)) 1 := by
  cases direction with
  | higherBetter =>
      have less : signed t b < signed s a := (lt_iff rfl rfl).mp better
      change finite s a goal - finite t b start = _
      rw [sub_finite (by omega), decide_eq_false (by omega)]
      rfl
  | lowerBetter =>
      have less : signed s a < signed t b := (lt_iff rfl rfl).mp better
      change finite t b start - finite s a goal = _
      rw [sub_finite (by omega), decide_eq_false (by omega)]
      unfold distance
      rw [← Int.natAbs_neg, Int.neg_sub]
      rfl

/-- The relative gap to another target is the distance, rounded, over the size of the
target. -/
theorem SuccessRule.relativeGap_eq (apart : signed s a ≠ signed t b) :
    relativeGap (finite t b start) (finite s a goal) =
      ofQuotient false (distance (finite s a goal) (finite t b start)) 1 /
        (if a = 0 then 1 else finite false a goal) := by
  rw [relativeGap, sub_finite apart, abs_ofQuotient]
  by_cases zero : a = 0 <;> simp [isZero, zero, Binary64.abs, distance, place]

/-- No target is further from a baseline than the sizes of both, and conversely. -/
theorem le_add_distance : b ≤ a + distance (finite s a goal) (finite t b start) := by
  cases s <;> cases t <;> simp only [distance, place, signed_false, signed_true] <;> omega

theorem le_nearest_distance (quanta : Nat) :
    9007199254740991 * quanta ≤ 9007199254740992 * nearestQuanta quanta 1 := by
  have error := le_nearestQuanta_add quanta
  rw [show 2 * fractionSize = 9007199254740992 from rfl] at error
  omega

/-- A hundred times a distance, rounded twice, is at least 96 times the rounded distance;
so it reaches every percentage that does not exceed that. -/
theorem le_percentage {distance percent : Nat} (small : percent ≤ 20) (nonzero : b ≠ 0)
    (enough : percent * b ≤ 96 * nearestQuanta distance 1) :
    ofNat percent ≤ ofQuotient false distance 1 * 100 / finite false b start := by
  have narrow : percent ≤ fractionSize := Nat.le_trans small (by decide)
  have hundred : (100 : Binary64) = ofNat 100 := rfl
  have reached : ofNat percent ≤ infinite false := by
    rw [ofNat_eq narrow]
    rfl
  rw [hundred]
  rcases ofQuotient_cases false distance Nat.one_pos with ⟨fits, advance⟩ | ⟨advance, -⟩
  · rw [advance, mul_ofNat (by decide)]
    rcases ofQuotient_cases false (nearestQuanta distance 1 * 100) Nat.one_pos with
      ⟨fits', scaled⟩ | ⟨scaled, -⟩
    · have least := le_nearest_distance (nearestQuanta distance 1 * 100)
      rw [scaled, div_finite nonzero, ofNat_eq narrow]
      refine le_ofQuotient _ (Nat.pos_of_ne_zero nonzero) ?_
      rw [Nat.mul_right_comm]
      exact Nat.mul_le_mul_right _ (by omega)
    · rw [scaled, infinite_div_finite]
      exact reached
  · rw [advance, infinite_mul_ofNat (by decide) (by decide), infinite_div_finite]
    exact reached

end Achieved

namespace SuccessRule

open Binary64

variable {direction : Direction} {s t : Bool} {a b distance count : Nat} {goal : Fits a}
  {start : Fits b} {gap : Binary64}

/-- A gap that is not up to some parts of 128 is more than that. -/
theorem lt_of_not_upTo (positive : 0 < a) (small : count ≤ fractionSize)
    (far : ¬ (ofQuotient false (distance * quantaPerUnit) a).UpTo (count * part)) :
    count * a < 128 * distance := by
  refine Nat.lt_of_not_le fun near => far ?_
  have above : distance * quantaPerUnit ≤ count * part * a := by
    rw [quantaPerUnit_eq, ← Nat.mul_assoc, Nat.mul_comm distance, Nat.mul_right_comm count]
    exact Nat.mul_le_mul_right _ near
  obtain ⟨rounded, equal, bound⟩ := ofQuotient_le false (fits_parts small) positive above
  exact ⟨_, rounded, equal, bound⟩

/-- A gap that is not below the one at which the target itself is asked for is more than
18 parts of 128. -/
theorem not_upTo_of_far (far : ¬ gap < directTargetGap) : ¬ gap.UpTo (18 * part) := by
  rintro ⟨quanta, fits, rfl, bound⟩
  have number : directTargetGap.isNaN = false := by decide +kernel
  have threshold : ((18 * part : Nat) : Int) < directTargetGap.place := by decide +kernel
  have counted : (finite false quanta fits).place = quanta := rfl
  rw [lt_iff rfl number, counted] at far
  omega

/-- The improvement asked for stays within reach of the distance. -/
theorem improvementStep_reached (positive : 0 < a) (bounded : b ≤ a + distance)
    (far : ¬ ofQuotient false (nearestQuanta distance 1 * quantaPerUnit) a < directTargetGap) :
    ∃ percent, percent ≤ 20 ∧ percent * b ≤ 96 * nearestQuanta distance 1 ∧
      improvementStep (ofQuotient false (nearestQuanta distance 1 * quantaPerUnit) a) =
        .ofNat percent := by
  have near := le_nearest_distance distance
  -- the larger the gap, the larger the step and the smaller the baseline in comparison
  by_cases least : (ofQuotient false (nearestQuanta distance 1 * quantaPerUnit) a).UpTo (26 * part)
  · have apart := lt_of_not_upTo positive (by decide) (not_upTo_of_far far)
    obtain ⟨percent, most, step⟩ := improvementStep_le 10 (by decide) least (by decide)
      (by decide)
    have scaled := Nat.mul_le_mul_right b most
    exact ⟨percent, by omega, by omega, step⟩
  · have apart := lt_of_not_upTo positive (by decide) least
    by_cases middle :
        (ofQuotient false (nearestQuanta distance 1 * quantaPerUnit) a).UpTo (39 * part)
    · obtain ⟨percent, most, step⟩ := improvementStep_le 15 (by decide) middle (by decide)
        (by decide)
      have scaled := Nat.mul_le_mul_right b most
      exact ⟨percent, by omega, by omega, step⟩
    · have apart := lt_of_not_upTo positive (by decide) middle
      obtain ⟨percent, most, step⟩ := improvementStep_le_twenty (isNaN_ofQuotient false _ a)
      have scaled := Nat.mul_le_mul_right b most
      exact ⟨percent, most, by omega, step⟩

/-- An improvement rule passes on a better target when the improvement that it asks for
stays within reach of the distance. -/
theorem passed_of_reached {percent : Nat} (small : percent ≤ 20) (nonzero : b ≠ 0)
    (better : direction.Betters (finite s a goal) (finite t b start))
    (enough : percent * b ≤
      96 * nearestQuanta (Binary64.distance (finite s a goal) (finite t b start)) 1)
    (passed : Option Bool) :
    (RuleEvaluation.ofReading (.improvementPercent (.ofNat percent))
      ⟨some (finite s a goal), passed⟩ (some (finite t b start)) direction).passed = true := by
  have reached : Binary64.ofNat percent ≤
      ofQuotient false (Binary64.distance (finite s a goal) (finite t b start)) 1 * 100 /
        finite false b start := le_percentage small nonzero enough
  have change : direction.improvementPercent (finite t b start) (finite s a goal) =
      some (ofQuotient false (Binary64.distance (finite s a goal) (finite t b start)) 1 * 100 /
        finite false b start) := by
    simp [Direction.improvementPercent, isFinite, isZero, nonzero, Binary64.abs,
      Direction.improvement_eq better]
  simpa [RuleEvaluation.ofReading, change] using reached

/-- A gap as large as the target is not close. -/
theorem not_lt_of_whole (positive : 0 < a) (short : Short a) :
    ¬ ofQuotient false (nearestQuanta a 1 * quantaPerUnit) a < directTargetGap := by
  have far : ¬ ofNat 1 < directTargetGap := by decide +kernel
  rwa [nearestQuanta_one short, ofQuotient_self positive]

/-- A target is proposed as a rule only where the baseline is not zero, and the improvement
that is proposed otherwise stays within reach of the distance. -/
theorem gap_cases (apart : signed s a ≠ signed t b) :
    relativeGap (finite t b start) (finite s a goal) < directTargetGap ∧ b ≠ 0 ∨
      ¬ relativeGap (finite t b start) (finite s a goal) < directTargetGap ∧
      ∃ percent, percent ≤ 20 ∧
        percent * b ≤
          96 * nearestQuanta (Binary64.distance (finite s a goal) (finite t b start)) 1 ∧
        improvementStep (relativeGap (finite t b start) (finite s a goal)) = .ofNat percent := by
  have bounded : b ≤ a + Binary64.distance (finite s a goal) (finite t b start) := le_add_distance
  have near := le_nearest_distance (Binary64.distance (finite s a goal) (finite t b start))
  rw [relativeGap_eq apart]
  rcases Nat.eq_zero_or_pos a with rfl | positive
  · -- the gap to a target of zero is the distance itself
    have nonzero : b ≠ 0 := by
      rintro rfl
      cases s <;> cases t <;> exact apart rfl
    have number : (ofQuotient false (Binary64.distance (finite s 0 goal) (finite t b start)) 1 /
        ofNat 1).isNaN = false :=
      isNaN_div_ofNat (isNaN_ofQuotient _ _ _) (by decide) (by decide)
    rw [if_pos rfl]
    by_cases far : ofQuotient false (Binary64.distance (finite s 0 goal) (finite t b start)) 1 / 1 <
        directTargetGap
    · exact .inl ⟨far, nonzero⟩
    · obtain ⟨percent, most, step⟩ := improvementStep_le_twenty number
      have scaled := Nat.mul_le_mul_right b most
      exact .inr ⟨far, percent, most, by omega, step⟩
  · rw [if_neg (Nat.ne_of_gt positive)]
    rcases ofQuotient_cases false (Binary64.distance (finite s a goal) (finite t b start))
      Nat.one_pos with ⟨fits, advance⟩ | ⟨advance, overflow⟩
    · rw [advance, div_finite (Nat.ne_of_gt positive), Bool.bne_false]
      by_cases far : ofQuotient false (nearestQuanta
          (Binary64.distance (finite s a goal) (finite t b start)) 1 * quantaPerUnit) a <
            directTargetGap
      · refine .inl ⟨far, ?_⟩
        rintro rfl
        have size : Binary64.distance (finite s a goal) (finite t 0 start) = a := by
          cases s <;> cases t <;> simp [Binary64.distance, place, signed]
        rw [size] at far
        exact not_lt_of_whole positive (fits_iff.mp goal).1 far
      · exact .inr ⟨far, improvementStep_reached positive bounded far⟩
    · have below := (fits_iff.mp start).2
      have far : ¬ infinite (false != false) < directTargetGap := by decide +kernel
      rw [advance, infinite_div_finite]
      obtain ⟨percent, most, step⟩ := improvementStep_le_twenty
        (by rfl : (infinite (false != false)).isNaN = false)
      have scaled := Nat.mul_le_mul_right b most
      exact .inr ⟨far, percent, most, by omega, step⟩

/-- Finite measurements are proposed as a target or as an improvement. -/
theorem proposed_finite (test : String) (comparison : Comparison) :
    proposed test (finite t b start) (finite s a goal) comparison =
      if relativeGap (finite t b start) (finite s a goal) < directTargetGap then
        .metricThreshold test comparison (finite s a goal)
      else .improvementPercent
        (improvementStep (relativeGap (finite t b start) (finite s a goal))) := by
  rw [proposed, if_neg (by simp [isFinite])]

/-- A rule that is proposed for finite measurements can be stored. -/
theorem storable_proposed {test : String} (named : IsName test)
    (better : direction.Betters (finite s a goal) (finite t b start)) :
    (proposed test (finite t b start) (finite s a goal) (.ofDirection direction)).Storable := by
  rw [proposed_finite]
  rcases gap_cases better.apart with ⟨close, -⟩ | ⟨far, percent, most, -, step⟩
  · rw [if_pos close]
    exact ⟨named, rfl⟩
  · rw [if_neg far, step, ofNat_eq (Nat.le_trans most (by decide))]
    rfl

/-- **A rule that is proposed for a better target is read back from its text and passes at
the target, unless the baseline is zero**: then it asks for an improvement, which no value
shows without a baseline to compare with. -/
theorem proposed_rule_achieved {test : String} {baseline target : Binary64} (named : IsName test)
    (starts : baseline.isFinite = true) (ends : target.isFinite = true)
    (better : direction.Betters target baseline) :
    ∃ rule, ofText? (proposedText test baseline target (.ofDirection direction)) = some rule ∧
      (baseline.isZero = false →
        (RuleEvaluation.ofReading rule
          { Reading.ofValue target with passed := some (direction.meets target target) }
          (some baseline) direction).passed = true) ∧
      (baseline.isZero = true → ∀ value flag,
        (RuleEvaluation.ofReading rule ⟨some value, flag⟩ (some baseline)
          direction).passed = false ∧
        (RuleEvaluation.ofReading rule ⟨some value, flag⟩ (some baseline) direction).reason =
          some .missingBaseline) := by
  cases baseline with
  | nan | infinite => cases starts
  | finite t b start =>
      cases target with
      | nan | infinite => cases ends
      | finite s a goal =>
          refine ⟨_, ofText?_toText (storable_proposed named better), ?_⟩
          rw [proposed_finite]
          rcases gap_cases better.apart with ⟨close, nonzero⟩ | ⟨far, percent, most, enough, step⟩
          · rw [if_pos close]
            refine ⟨fun _ => ?_, fun zero => absurd zero (by simpa [isZero] using nonzero)⟩
            have same : (finite s a goal) ≤ (finite s a goal) :=
              (le_iff rfl rfl).mpr (Int.le_refl _)
            cases direction <;>
              simpa [RuleEvaluation.ofReading, Reading.ofValue, finite?, isFinite,
                Comparison.holds, Comparison.ofDirection] using same
          · rw [if_neg far, step]
            refine ⟨fun nonzero => ?_, fun zero value flag => ?_⟩
            · have nonzero : b ≠ 0 := by simpa [isZero] using nonzero
              exact passed_of_reached most nonzero better enough _
            · have zero : b = 0 := by simpa [isZero] using zero
              simp [RuleEvaluation.ofReading, Direction.improvementPercent, isZero, zero,
                RuleEvaluation.rejected]

/-- From 100 down to 80 a fifth is asked for by thirteen percent, and 80 is enough. -/
theorem proposed_rule_achieved_down :
    proposedText "15" (.ofNat 100) (.ofNat 80) (.ofDirection .lowerBetter) =
      "improvement:percent:13" ∧
    ∃ rule, ofText? "improvement:percent:13" = some rule ∧
      (RuleEvaluation.ofReading rule
        { Reading.ofValue (.ofNat 80) with
          passed := some (Direction.lowerBetter.meets (.ofNat 80) (.ofNat 80)) }
        (some (.ofNat 100)) .lowerBetter).passed = true := by
  have text : proposedText "15" (.ofNat 100) (.ofNat 80) (.ofDirection .lowerBetter) =
      "improvement:percent:13" := by decide +kernel
  have better : Direction.lowerBetter.Betters (.ofNat 80) (.ofNat 100) :=
    (by decide +kernel : Binary64.ofNat 80 < Binary64.ofNat 100)
  have named : IsName "15" := by decide +kernel
  obtain ⟨rule, read, achieved, -⟩ := proposed_rule_achieved named (by decide +kernel)
    (by decide +kernel) better
  rw [text] at read
  exact ⟨text, rule, read, achieved (by decide +kernel)⟩

/-- The rule that is proposed from nothing to ten is not passed at ten. -/
theorem zero_baseline_never_achieved :
    IsName "CARRY" ∧ Direction.higherBetter.Betters (.ofNat 10) (.ofNat 0) ∧
    ofText? (proposedText "CARRY" (.ofNat 0) (.ofNat 10) (.ofDirection .higherBetter)) =
      some (.improvementPercent (.ofNat 20)) ∧
    (RuleEvaluation.ofReading (.improvementPercent (.ofNat 20))
      { Reading.ofValue (.ofNat 10) with
        passed := some (Direction.higherBetter.meets (.ofNat 10) (.ofNat 10)) }
      (some (.ofNat 0)) .higherBetter).passed = false :=
  ⟨by decide +kernel, (by decide +kernel : Binary64.ofNat 0 < Binary64.ofNat 10), by decide +kernel,
    by decide +kernel⟩

end SuccessRule

end GolfProgress
