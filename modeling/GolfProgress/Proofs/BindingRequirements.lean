import GolfProgress.Proofs.BetterReadings
import GolfProgress.Proofs.ProposedRules

/-!
# Requirements bind exactly when they are not met

Whether a requirement is met is a comparison, and whether it binds is told by a gap: a difference,
divided by the size of the requirement and cut off below zero.  Both come to the same because no
difference is lost on the way.  Two numbers of the format that differ are apart by at least the
spacing around the smaller of them, so the larger is at most `2 ^ 53 + 1` times as large as their
distance (`le_mul_distance`).  Hence the quotient of the two is far from the least number of the
format, also where the difference was rounded, and no gap is rounded to zero (`Direction.gap_pos`).

`binds_unless_met` says so of gaps, and that the constraints of an analysis and the verdicts of
pass rules on the same reading and target never disagree.
-/

set_option autoImplicit false

namespace GolfProgress

/-! ## Distances -/

namespace Binary64

/-- The smaller of two short counts is less than `2 ^ 53` times their distance. -/
theorem lt_mul_sub {low high : Nat} (short : Short low) (short' : Short high)
    (less : low < high) : low < 2 * fractionSize * (high - low) := by
  have divides : spacing low ∣ high - low :=
    Nat.dvd_sub (Nat.dvd_trans (spacing_dvd_of_le (Nat.le_of_lt less)) short') short
  have least : spacing low ≤ high - low := Nat.le_of_dvd (Nat.sub_pos_of_lt less) divides
  exact Nat.lt_of_lt_of_le (lt_fractionSize_mul_spacing low) (Nat.mul_le_mul_left _ least)

section Distance

variable {s t : Bool} {a b : Nat} {fitsA : Fits a} {fitsB : Fits b}

/-- **Numbers that differ are not close in comparison with their size.** -/
theorem le_mul_distance (apart : signed s a ≠ signed t b) :
    a ≤ (2 * fractionSize + 1) * distance (finite s a fitsA) (finite t b fitsB) := by
  have sameSign (differ : a ≠ b) : a ≤ (2 * fractionSize + 1) * ((a : Int) - b).natAbs := by
    rw [Nat.add_mul, Nat.one_mul]
    rcases Nat.lt_or_gt_of_ne differ with less | more
    · have near := lt_mul_sub (fits_iff.mp fitsA).1 (fits_iff.mp fitsB).1 less
      rw [show ((a : Int) - b).natAbs = b - a by omega]
      omega
    · have near := lt_mul_sub (fits_iff.mp fitsB).1 (fits_iff.mp fitsA).1 more
      rw [show ((a : Int) - b).natAbs = a - b by omega]
      omega
  have oppositeSigns : a ≤ (2 * fractionSize + 1) * (a + b) :=
    Nat.le_trans (Nat.le_add_right a b) (Nat.le_mul_of_pos_left _ (Nat.succ_pos _))
  cases s <;> cases t <;> simp only [signed_false, signed_true, distance, place] at apart ⊢
  case false.false => exact sameSign (by omega)
  case false.true => rwa [show ((a : Int) - -b).natAbs = a + b by omega]
  case true.false => rwa [show (-(a : Int) - b).natAbs = a + b by omega]
  case true.true =>
    rw [show (-(a : Int) - -b).natAbs = ((a : Int) - b).natAbs by omega]
    exact sameSign (by omega)

end Distance

/-- A rounded count that is not too small for a divisor keeps its sign under the division. -/
theorem ofQuotient_div_pos {count divisor : Nat} {fits : Fits divisor} (positive : 0 < divisor)
    (enough : divisor ≤ nearestQuanta count 1 * quantaPerUnit) :
    0 < ofQuotient false count 1 / finite false divisor fits := by
  rcases ofQuotient_cases false count Nat.one_pos with ⟨fits', equal⟩ | ⟨equal, -⟩
  · rw [equal, div_finite (Nat.ne_of_gt positive), Bool.bne_false]
    exact ofQuotient_pos positive enough
  · rw [equal, infinite_div_finite]
    decide +kernel

end Binary64

/-! ## Gaps -/

namespace Direction

open Binary64

variable {direction : Direction} {current required : Binary64}

/-- A value fails a target exactly when the target is better. -/
theorem not_meets (finite : current.isFinite = true) (bound : required.isFinite = true) :
    ¬ direction.meets current required = true ↔ direction.Betters required current := by
  have left := isNaN_of_isFinite finite
  have right := isNaN_of_isFinite bound
  cases direction with
  | higherBetter => rw [meets, decide_eq_true_eq, not_le right left, Betters]
  | lowerBetter => rw [meets, decide_eq_true_eq, not_le left right, Betters]

theorem improvement_self (finite : required.isFinite = true) :
    direction.improvement required required = 0 := by
  cases direction <;> exact sub_self finite

/-- There is no gap to a requirement that is met. -/
theorem gap_of_meets (finite : current.isFinite = true) (bound : required.isFinite = true)
    (met : direction.meets current required = true) : direction.gap current required = 0 := by
  have scale := gapScale_pos bound
  have nonpos : direction.improvement current required / gapScale required ≤ 0 := by
    have further := improvement_le_improvement finite bound bound bound met
      (direction.meets_refl (isNaN_of_isFinite bound))
    rw [improvement_self bound] at further
    exact le_trans (div_le_div (isFinite_gapScale bound) scale further)
      (isZero_iff.mp (isZero_zero_div (isFinite_gapScale bound) (isZero_of_pos scale))).2
  have number := (not_isNaN_of_le nonpos).1
  rw [gap_eq, max_eq number isNaN_zero, if_neg ((not_lt isNaN_zero number).mpr nonpos)]

/-- The distance of two numbers that differ, rounded, is not lost when it is divided by the size of
one of them. -/
theorem distance_div_gapScale_pos {s t : Bool} {a b : Nat} (goal : Fits a) (start : Fits b)
    (apart : signed s a ≠ signed t b) :
    0 < ofQuotient false (distance (.finite s a goal) (.finite t b start)) 1 /
      gapScale (.finite s a goal) := by
  have size : a ≤ (2 * fractionSize + 1) * distance (.finite s a goal) (.finite t b start) :=
    le_mul_distance apart
  generalize away : distance (.finite s a goal) (.finite t b start) = quanta at size ⊢
  have some : 1 ≤ nearestQuanta quanta 1 := by
    refine le_nearestQuanta (Nat.one_dvd 1 : Short 1) Nat.one_pos ?_
    rw [← away, distance, place, place]
    omega
  rcases Nat.eq_zero_or_pos a with rfl | nonzero
  · have unit : gapScale (.finite s 0 goal) = .ofNat 1 := if_pos rfl
    rw [unit, ofNat_eq (by decide)]
    exact ofQuotient_div_pos (Nat.mul_pos Nat.one_pos quantaPerUnit_pos)
      (Nat.mul_le_mul_right _ some)
  · have scale : gapScale (.finite s a goal) = .finite false a goal := by
      simp [gapScale, isZero, Nat.ne_of_gt nonzero, Binary64.abs]
    have bound : a ≤ 9007199254740993 * quanta := size
    -- rounding takes less than half of the distance away
    have rounded := le_nearest_distance quanta
    have small : 18014398509481988 ≤ quantaPerUnit := by decide +kernel
    have room : nearestQuanta quanta 1 * 18014398509481988 ≤
        nearestQuanta quanta 1 * quantaPerUnit := Nat.mul_le_mul_left _ small
    rw [scale]
    exact ofQuotient_div_pos nonzero (Nat.le_trans (by omega) room)

/-- **There is a gap to every requirement that is not met**, however close the value. -/
theorem gap_pos (finite : current.isFinite = true) (bound : required.isFinite = true)
    (missed : direction.Betters required current) : 0 < direction.gap current required := by
  obtain ⟨t, b, start, rfl⟩ := exists_of_isFinite finite
  obtain ⟨s, a, goal, rfl⟩ := exists_of_isFinite bound
  have positive := distance_div_gapScale_pos goal start missed.apart
  rw [gap_eq, improvement_eq missed, max_eq (not_isNaN_of_lt positive).2 isNaN_zero,
    if_pos positive]
  exact positive

end Direction

/-! ## Constraints and verdicts -/

/-- A benchmark judges a record by a pass rule, on the reading and the target of a requirement. -/
structure Benchmark.Retakes (benchmark : Benchmark) (point : BreakingPoint) (row : Requirement)
    (current : Binary64) : Prop where
  reading : benchmark.value = current
  target : point.target = some row.minimum
  byFlag : ∃ test, SuccessRule.ofText? benchmark.rule = some (.testPass test)

/-- A pass rule goes by whether the reading meets the target. -/
theorem Benchmark.Retakes.passed_eq {benchmark : Benchmark} {point : BreakingPoint}
    {row : Requirement} {current : Binary64} (retakes : benchmark.Retakes point row current)
    (direction : Direction) :
    (benchmark.evaluation direction point).passed = direction.meets current row.minimum := by
  obtain ⟨rfl, target, test, parsed⟩ := retakes
  rw [Benchmark.passed_evaluation point parsed, target]
  rfl

/-- A requirement makes no constraint exactly when the value meets it. -/
theorem ConstraintReport.unmet?_eq_none {registry : Registry} {row : Requirement}
    {current : Binary64} (finite : current.isFinite = true) (bound : row.minimum.isFinite = true) :
    unmet? registry (row, current) = none ↔
      (registry.direction row.test).meets current row.minimum = true := by
  have atMost : unmet? registry (row, current) = none ↔
      (registry.direction row.test).gap current row.minimum ≤ 0 := by
    simp [unmet?]
  rw [atMost, Direction.gap_le_zero]
  constructor
  · intro none
    by_contra missed
    exact none (Direction.gap_pos finite bound ((Direction.not_meets finite bound).mp missed))
  · intro met
    rw [Direction.gap_of_meets finite bound met]
    decide +kernel

/-- **A requirement binds exactly when it is not met.**  The gap of a finite value to a finite
requirement is a number that is not negative, and it is zero exactly when the value meets the
requirement, however large or small or close they are.  So an analysis makes no constraint of a
requirement exactly when a pass rule passes on the same reading and target. -/
theorem binds_unless_met (direction : Direction) {current required : Binary64}
    (finite : current.isFinite = true) (bound : required.isFinite = true) :
    ((direction.gap current required).isNaN = false ∧ 0 ≤ direction.gap current required ∧
      ((direction.gap current required).isZero = true ↔
        direction.meets current required = true)) ∧
    ∀ (registry : Registry) (row : Requirement) (benchmark : Benchmark) (point : BreakingPoint),
      registry.direction row.test = direction → row.minimum = required →
      benchmark.Retakes point row current →
      (ConstraintReport.unmet? registry (row, current) = none ↔
        (benchmark.evaluation direction point).passed = true) := by
  constructor
  · by_cases met : direction.meets current required = true
    · rw [Direction.gap_of_meets finite bound met, Binary64.zero_eq]
      exact ⟨rfl, Binary64.le_refl rfl, iff_of_true rfl met⟩
    · have positive := Direction.gap_pos finite bound ((Direction.not_meets finite bound).mp met)
      refine ⟨(Binary64.not_isNaN_of_lt positive).2, Binary64.le_of_lt positive, ?_⟩
      simp [Binary64.isZero_of_pos positive, met]
  · rintro registry row benchmark point rfl rfl retakes
    rw [ConstraintReport.unmet?_eq_none finite bound, retakes.passed_eq]

/-- A score that is above par by the least number of the format binds, and fails a pass rule. -/
theorem least_excess_binds :
    (5e-324 : Binary64).isFinite = true ∧ (0 : Binary64).isFinite = true ∧
    Promotion.registry.direction 5 = .lowerBetter ∧
    (Direction.lowerBetter.gap 5e-324 0).isZero = false ∧
    ConstraintReport.unmet? Promotion.registry (Promotion.row 5 0 true, 5e-324) ≠ none ∧
    ((⟨"PUTTS", 5e-324, .first, "PUTTS:pass"⟩ : Benchmark).evaluation .lowerBetter
      { (default : BreakingPoint) with target := some 0 }).passed = false := by
  have finite : (5e-324 : Binary64).isFinite = true := by decide +kernel
  have bound : (0 : Binary64).isFinite = true := by decide +kernel
  have lower : Promotion.registry.direction 5 = .lowerBetter := by decide +kernel
  have missed : Direction.lowerBetter.meets 5e-324 0 = false := by decide +kernel
  obtain ⟨⟨-, -, zero⟩, agree⟩ := binds_unless_met .lowerBetter finite bound
  have verdict := agree Promotion.registry (Promotion.row 5 0 true)
    ⟨"PUTTS", 5e-324, .first, "PUTTS:pass"⟩ { (default : BreakingPoint) with target := some 0 }
    lower rfl ⟨rfl, rfl, "PUTTS", by decide +kernel⟩
  have fails : ((⟨"PUTTS", 5e-324, .first, "PUTTS:pass"⟩ : Benchmark).evaluation .lowerBetter
      { (default : BreakingPoint) with target := some 0 }).passed = false := by decide +kernel
  refine ⟨finite, bound, lower, ?_, fun none => ?_, fails⟩
  · rw [← Bool.not_eq_true, zero, missed]
    exact Bool.false_ne_true
  · rw [verdict.mp none] at fails
    cases fails

end GolfProgress
