import GolfProgress.Proofs.SignedOrder
import GolfProgress.Rules.Evaluation

/-!
# What an evaluation echoes

An evaluation echoes the numbers that decided it.  A threshold is echoed with the value
that was compared with it, so the echoed numbers bear the verdict out.  An improvement is
judged in full and echoed to one decimal.  Rounding to one decimal keeps order
(`toOneDecimal_mono`), also among negative numbers, for it treats opposite numbers as
opposite.  So the echoed numbers contradict the verdict just where the rounding has carried
the improvement across the requirement, and where the requirement is a number to one
decimal itself it carries nothing past it, only onto it.

`echo_bears_out_verdict` says all of this.
-/

set_option autoImplicit false

namespace GolfProgress

/-! ## Numbers to one decimal -/

namespace RuleEvaluation

open Binary64

variable {a b : Binary64}

theorem toOneDecimal_mono (ordered : a ≤ b) : toOneDecimal a ≤ toOneDecimal b := by
  have ten : 10 ≤ fractionSize ∧ 0 < 10 := by decide
  have rises : Rises toOneDecimal :=
    (rises_div_ofNat ten.1 ten.2).comp (rises_round.comp (rises_mul_ofNat ten.1 ten.2))
  have mirrors : Mirrors toOneDecimal :=
    (mirrors_div 10).comp (mirrors_round.comp (mirrors_mul 10))
  exact rises.le_of_mirrors mirrors ordered

theorem isNaN_toOneDecimal (number : a.isNaN = false) : (toOneDecimal a).isNaN = false :=
  (not_isNaN_of_le (toOneDecimal_mono (le_refl number))).1

/-- Whole numbers are numbers to one decimal, as far as their tenfolds are counted exactly. -/
theorem toOneDecimal_ofNat {count : Nat} (small : count * 10 ≤ fractionSize) :
    toOneDecimal (ofNat count) = ofNat count := by
  have less : count ≤ fractionSize := Nat.le_trans (Nat.le_mul_of_pos_right _ (by decide)) small
  have tenfold : ofNat count * 10 = ofNat (count * 10) := by
    change ofNat count * ofNat 10 = _
    rw [ofNat_eq less, mul_ofNat (by decide), Nat.mul_right_comm]
    rfl
  change (ofNat count * 10).round / ofNat 10 = _
  rw [tenfold, round_ofNat small, ofNat_eq small, div_ofNat (by decide) (by decide),
    Nat.mul_right_comm]
  have tenths : ofQuotient false (count * quantaPerUnit * 10) (1 * 10) =
      ofQuotient false (count * quantaPerUnit) 1 := ofQuotient_scaled false (by decide)
  rwa [Nat.one_mul] at tenths

end RuleEvaluation

/-! ## Improvements -/

/-- There is an improvement from a finite baseline other than zero to a finite value. -/
theorem Direction.improvementPercent_eq_some {direction : Direction}
    {baseline value change : Binary64} :
    direction.improvementPercent baseline value = some change ↔
      (baseline.isFinite = true ∧ value.isFinite = true ∧ baseline.isZero = false) ∧
        direction.improvement baseline value * 100 / baseline.abs = change := by
  unfold improvementPercent
  split
  · next unusable =>
      simp only [Bool.or_eq_true, Bool.not_eq_true'] at unusable
      constructor
      · intro none
        cases none
      · rintro ⟨⟨start, finish, nonzero⟩, -⟩
        simp [start, finish, nonzero] at unusable
  · next usable =>
      simp only [Bool.or_eq_true, Bool.not_eq_true', not_or, Bool.not_eq_false,
        Bool.not_eq_true] at usable
      obtain ⟨⟨start, finish⟩, nonzero⟩ := usable
      simp [start, finish, nonzero]

/-- An improvement is a number. -/
theorem Direction.isNaN_of_improvementPercent {direction : Direction}
    {baseline value change : Binary64}
    (improves : direction.improvementPercent baseline value = some change) :
    change.isNaN = false := by
  obtain ⟨⟨start, finish, nonzero⟩, rfl⟩ := improvementPercent_eq_some.mp improves
  have better : (direction.improvement baseline value).isNaN = false := by
    cases direction with
    | higherBetter => exact Binary64.isNaN_sub finish start
    | lowerBetter => exact Binary64.isNaN_sub start finish
  have percents : (direction.improvement baseline value * 100).isNaN = false :=
    Binary64.isNaN_mul_ofNat better (by decide) (by decide)
  refine Binary64.isNaN_div percents ((Binary64.isFinite_abs baseline).trans start) ?_
  exact Binary64.isZero_of_pos (Binary64.abs_pos start nonzero)

/-! ## Verdicts and echoes -/

namespace RuleEvaluation

open Binary64

/-- Rounding to one decimal carries an improvement across the one that is required. -/
def CarriedAcross (required change : Binary64) : Prop :=
  change < required ∧ required ≤ toOneDecimal change ∨
    toOneDecimal change < required ∧ required ≤ change

variable {required change : Binary64}

/-- The echoed improvement and the judged one meet the requirement alike, unless the rounding
carries it across. -/
theorem decide_le_toOneDecimal (number : change.isNaN = false) :
    decide (required ≤ change) = decide (required ≤ toOneDecimal change) ↔
      ¬ CarriedAcross required change := by
  have echoed := isNaN_toOneDecimal number
  unfold CarriedAcross
  by_cases comparable : required.isNaN = false
  · rw [← not_le comparable number, ← not_le comparable echoed]
    by_cases judged : required ≤ change <;> by_cases shown : required ≤ toOneDecimal change <;>
      simp [judged, shown]
  · have unmet (value : Binary64) : ¬ required ≤ value :=
      fun met => comparable (not_isNaN_of_le met).1
    simp [unmet]

/-- Rounding carries nothing past a requirement to one decimal; it may carry an improvement
that falls short onto it. -/
theorem CarriedAcross.onto (carried : CarriedAcross required change)
    (toTenths : toOneDecimal required = required) :
    change < required ∧ (toOneDecimal change).equals required = true := by
  rcases carried with ⟨short, shown⟩ | ⟨short, met⟩
  · have least := toOneDecimal_mono (le_of_lt short)
    rw [toTenths] at least
    exact ⟨short, Bool.and_eq_true_iff.mpr ⟨least, shown⟩⟩
  · have kept := toOneDecimal_mono met
    rw [toTenths] at kept
    obtain ⟨left, right⟩ := not_isNaN_of_lt short
    exact absurd kept ((not_le right left).mpr short)

/-- What an evaluation by an improvement rule says of an improvement: it is judged in full
and echoed to one decimal. -/
structure EchoesImprovement (evaluation : RuleEvaluation) (percent change : Binary64) : Prop where
  comparison : evaluation.comparison = some .atLeast
  actual : evaluation.actual = some (toOneDecimal change)
  required : evaluation.required = some percent
  judged : evaluation.passed = decide (percent ≤ change)
  /-- The echoed numbers contradict the verdict exactly where rounding carries the improvement
  across. -/
  borneOut : evaluation.passed = Comparison.atLeast.holds (toOneDecimal change) percent ↔
    ¬ CarriedAcross percent change
  /-- A percentage that rounding to one decimal leaves as it is is only contradicted by an
  improvement that falls short of it and is echoed as the percentage. -/
  toTenths : toOneDecimal percent = percent →
    evaluation.passed = Comparison.atLeast.holds (toOneDecimal change) percent ∨
      evaluation.passed = false ∧ (toOneDecimal change).equals percent = true
  /-- So it is with whole percentages whose tenfolds are counted exactly. -/
  whole : ∀ count : Nat, percent = ofNat count → count * 10 ≤ fractionSize →
    evaluation.passed = Comparison.atLeast.holds (toOneDecimal change) percent ∨
      evaluation.passed = false ∧ (toOneDecimal change).equals percent = true

/-- An improvement is judged in full and echoed to one decimal. -/
theorem echoesImprovement {reading : Reading} {baseline : Option Binary64} {direction : Direction}
    {percent value change : Binary64} (reads : reading.value = some value)
    (improves : (baseline.bind fun start => direction.improvementPercent start value) =
      some change) :
    (ofReading (.improvementPercent percent) reading baseline direction).EchoesImprovement
      percent change := by
  obtain ⟨start, -, improves'⟩ := Option.bind_eq_some_iff.mp improves
  have number := Direction.isNaN_of_improvementPercent improves'
  have evaluated : ofReading (.improvementPercent percent) reading baseline direction =
      { passed := decide (percent ≤ change), comparison := some .atLeast,
        actual := some (toOneDecimal change), required := some percent } := by
    simp only [ofReading, reads, improves]
  have borneOut : decide (percent ≤ change) = decide (percent ≤ toOneDecimal change) ↔
      ¬ CarriedAcross percent change := decide_le_toOneDecimal number
  have kept (toTenths : toOneDecimal percent = percent) :
      decide (percent ≤ change) = decide (percent ≤ toOneDecimal change) ∨
        decide (percent ≤ change) = false ∧ (toOneDecimal change).equals percent = true := by
    by_cases carried : CarriedAcross percent change
    · obtain ⟨short, onto⟩ := carried.onto toTenths
      obtain ⟨left, right⟩ := not_isNaN_of_lt short
      exact .inr ⟨decide_eq_false ((not_le right left).mpr short), onto⟩
    · exact .inl (borneOut.mpr carried)
  rw [evaluated]
  refine ⟨rfl, rfl, rfl, rfl, borneOut, kept, ?_⟩
  rintro count rfl small
  exact kept (toOneDecimal_ofNat small)

/-- **The echoed numbers bear the verdict out, except where rounding to one decimal has carried
an improvement across the requirement.**  An evaluation with a reason does not pass.  One that
echoes a comparison, an actual value and a required one passes exactly when these compare, if
its rule asks for no improvement.  If it does, the improvement itself decides, and the echoed
numbers contradict the verdict exactly where the improvement lies below the percentage and its
echo does not, or the other way round. -/
theorem echo_bears_out_verdict (rule : SuccessRule) (reading : Reading)
    (baseline : Option Binary64) (direction : Direction) :
    let evaluation := ofReading rule reading baseline direction
    (evaluation.reason.isSome → evaluation.passed = false) ∧
    ∀ comparison actual required, evaluation.comparison = some comparison →
      evaluation.actual = some actual → evaluation.required = some required →
      ((∀ percent, rule ≠ .improvementPercent percent) →
        evaluation.passed = comparison.holds actual required) ∧
      ∀ percent, rule = .improvementPercent percent →
        ∃ start value change, baseline = some start ∧ reading.value = some value ∧
          direction.improvementPercent start value = some change ∧
          evaluation.EchoesImprovement percent change := by
  intro evaluation
  cases rule with
  | testPass test => simp [evaluation, ofReading]
  | metricThreshold metric comparison threshold =>
      cases reads : reading.value with
      | none => simp [evaluation, ofReading, reads, rejected]
      | some value =>
          refine ⟨by simp [evaluation, ofReading, reads], ?_⟩
          intro _ _ _ compares shows requires
          simp only [evaluation, ofReading, reads, Option.some.injEq] at compares shows requires
          subst compares shows requires
          exact ⟨fun _ => by simp only [evaluation, ofReading, reads],
            fun _ other => by cases other⟩
  | improvementPercent percent =>
      cases reads : reading.value with
      | none => simp [evaluation, ofReading, reads, rejected]
      | some value =>
          cases improves : baseline.bind fun start => direction.improvementPercent start value with
          | none => simp [evaluation, ofReading, reads, improves, rejected]
          | some change =>
              obtain ⟨start, begins, improves'⟩ := Option.bind_eq_some_iff.mp improves
              refine ⟨by simp [evaluation, ofReading, reads, improves], ?_⟩
              rintro _ _ _ - - -
              refine ⟨fun other => absurd rfl (other percent), fun _ same => ?_⟩
              cases same
              exact ⟨start, value, change, begins, rfl, improves', echoesImprovement reads improves⟩

/-- An improvement of 19.96 percent is echoed as 20, and does not pass where 20 are required. -/
theorem rounded_improvement_contradicts :
    let evaluation := ofReading (.improvementPercent 20) (.ofValue 2999) (some 2500) .higherBetter
    evaluation.comparison = some .atLeast ∧ evaluation.actual = some 20 ∧
      evaluation.required = some 20 ∧ evaluation.passed = false ∧
      Comparison.atLeast.holds 20 20 = true := by
  decide +kernel

end RuleEvaluation

end GolfProgress
