import GolfProgress.Proofs.CacheRuns
import GolfProgress.Proofs.EchoedValues
import GolfProgress.Proofs.Reports
import GolfProgress.Tracker.Operations

/-!
# Better readings never hurt

An improvement grows when it starts from a worse value or reaches a better one
(`Direction.improvement_le_improvement`).  Both verdicts on a value rest on an improvement: a
rule judges the one from the baseline to the value, and the gap to a requirement is the one that
is still missing from the value (`Direction.gap_eq`).  Percents and gaps come from it by a
multiplication, a division by a positive number and a comparison, all of which keep order
however they are rounded.

So a rule that a reading passes is passed by every reading that is as good
(`better_readings_pass`), and a report on better measurements, or on fewer, holds no more against
the player (`better_readings_never_hurt`).
-/

set_option autoImplicit false

namespace GolfProgress

/-! ## Values that are as good -/

namespace Direction

variable {direction : Direction} {first second third : Binary64}

theorem meets_refl (direction : Direction) (number : first.isNaN = false) :
    direction.meets first first = true := by
  cases direction <;> exact decide_eq_true (Binary64.le_refl number)

theorem meets_trans (late : direction.meets third second = true)
    (early : direction.meets second first = true) : direction.meets third first = true := by
  cases direction with
  | higherBetter =>
      exact decide_eq_true (Binary64.le_trans (of_decide_eq_true early) (of_decide_eq_true late))
  | lowerBetter =>
      exact decide_eq_true (Binary64.le_trans (of_decide_eq_true late) (of_decide_eq_true early))

section Improvement

variable {start start' reached reached' : Binary64}

/-- **An improvement grows when it starts from a worse value or reaches a better one.** -/
theorem improvement_le_improvement (finite : start.isFinite = true)
    (finite' : start'.isFinite = true) (ends : reached.isFinite = true)
    (ends' : reached'.isFinite = true) (worse : direction.meets start start' = true)
    (better : direction.meets reached' reached = true) :
    direction.improvement start reached ≤ direction.improvement start' reached' := by
  cases direction with
  | higherBetter =>
      exact Binary64.sub_le_sub ends ends' finite finite' (of_decide_eq_true better)
        (of_decide_eq_true worse)
  | lowerBetter =>
      exact Binary64.sub_le_sub finite finite' ends ends' (of_decide_eq_true worse)
        (of_decide_eq_true better)

/-- The improvement in percents grows with the value. -/
theorem improvementPercent_mono {baseline value better change : Binary64}
    (finite : better.isFinite = true) (asGood : direction.meets better value = true)
    (improves : direction.improvementPercent baseline value = some change) :
    ∃ change', direction.improvementPercent baseline better = some change' ∧
      change ≤ change' := by
  obtain ⟨⟨start, reached, nonzero⟩, rfl⟩ := improvementPercent_eq_some.mp improves
  refine ⟨_, improvementPercent_eq_some.mpr ⟨⟨start, finite, nonzero⟩, rfl⟩, ?_⟩
  have further := improvement_le_improvement start start reached finite
    (direction.meets_refl (Binary64.isNaN_of_isFinite start)) asGood
  have percents := (Binary64.rises_mul_ofNat (by decide) (by decide)).le_of_mirrors
    (Binary64.mirrors_mul (.ofNat 100)) further
  exact Binary64.div_le_div ((Binary64.isFinite_abs baseline).trans start)
    (Binary64.abs_pos start nonzero) percents

end Improvement

section Gap

variable {required old new : Binary64}

/-- What a gap is relative to. -/
def gapScale (required : Binary64) : Binary64 := if required.isZero then 1 else required.abs

/-- A gap is the improvement that is missing, relative to the requirement. -/
theorem gap_eq (direction : Direction) (current required : Binary64) :
    direction.gap current required =
      (direction.improvement current required / gapScale required).max 0 := by
  cases direction <;> rfl

theorem isFinite_gapScale (finite : required.isFinite = true) :
    (gapScale required).isFinite = true := Binary64.isFinite_scale finite

theorem gapScale_pos (finite : required.isFinite = true) : 0 < gapScale required :=
  Binary64.scale_pos finite

/-- **The gap falls as the value gets better.** -/
theorem gap_antitone (finite : old.isFinite = true) (finite' : new.isFinite = true)
    (bound : required.isFinite = true) (asGood : direction.meets new old = true) :
    direction.gap new required ≤ direction.gap old required := by
  have missing := improvement_le_improvement finite' finite bound bound asGood
    (direction.meets_refl (Binary64.isNaN_of_isFinite bound))
  rw [gap_eq, gap_eq]
  exact Binary64.max_le_max Binary64.isNaN_zero
    (Binary64.div_le_div (isFinite_gapScale bound) (gapScale_pos bound) missing)

end Gap

end Direction

/-! ## Rules -/

/-- A reading that was just taken: its pass flag says that the target, if there is one, is
met. -/
def Reading.direct (direction : Direction) (target : Option Binary64) (value : Binary64) :
    Reading :=
  { Reading.ofValue value with passed := target.map fun goal => direction.meets value goal }

/-- A threshold is compared with in the direction in which values improve; other rules suit
every direction. -/
def SuccessRule.Suits (direction : Direction) : SuccessRule → Prop
  | .metricThreshold _ comparison _ => comparison = .ofDirection direction
  | .testPass _ | .improvementPercent _ => True

section Rules

variable {rule : SuccessRule} {direction : Direction} {baseline target : Option Binary64}
  {value better : Binary64}

theorem Reading.value_direct (finite : value.isFinite = true) :
    (Reading.direct direction target value).value = some value :=
  if_pos finite

/-- A comparison in the direction of a metric asks for a value that is as good. -/
theorem Comparison.holds_ofDirection (direction : Direction) (actual required : Binary64) :
    (ofDirection direction).holds actual required = direction.meets actual required := by
  cases direction <;> rfl

/-- A rule that a reading passes is passed by every reading that is as good. -/
theorem RuleEvaluation.passed_of_better (suits : rule.Suits direction)
    (finite : value.isFinite = true) (finite' : better.isFinite = true)
    (asGood : direction.meets better value = true)
    (passes : (ofReading rule (.direct direction target value) baseline direction).passed = true) :
    (ofReading rule (.direct direction target better) baseline direction).passed = true := by
  cases rule with
  | testPass test =>
      cases target with
      | none => cases passes
      | some goal => exact Direction.meets_trans asGood passes
  | metricThreshold metric comparison threshold =>
      obtain rfl : comparison = .ofDirection direction := suits
      simp only [ofReading, Reading.value_direct finite, Reading.value_direct finite',
        Comparison.holds_ofDirection] at passes ⊢
      exact Direction.meets_trans asGood passes
  | improvementPercent percent =>
      simp only [ofReading, Reading.value_direct finite] at passes
      cases improves : baseline.bind fun start => direction.improvementPercent start value with
      | none =>
          rw [improves] at passes
          cases passes
      | some change =>
          rw [improves] at passes
          obtain ⟨start, rfl, improves⟩ := Option.bind_eq_some_iff.mp improves
          obtain ⟨change', improves', further⟩ :=
            Direction.improvementPercent_mono finite' asGood improves
          simp only [ofReading, Reading.value_direct finite', Option.bind_some, improves']
          exact decide_eq_true (Binary64.le_trans (of_decide_eq_true passes) further)

/-- A benchmark is evaluated by its rule as a direct reading. -/
theorem Benchmark.passed_evaluation {metric text : String} {date : Date} (point : BreakingPoint)
    (parsed : SuccessRule.ofText? text = some rule) :
    ((⟨metric, value, date, text⟩ : Benchmark).evaluation direction point).passed =
      (RuleEvaluation.ofReading rule (.direct direction point.target value) point.baseline
        direction).passed := by
  simp only [evaluation, parsed, Reading.direct]

end Rules

/-- **A better reading never fails a rule that a worse one passed.**  A pass rule, an improvement
rule or a threshold in the direction of the metric that is passed by a reading is passed by every
reading that is as good, whatever the baseline and the target; and so is a benchmark that is
evaluated by it for a record. -/
theorem better_readings_pass {rule : SuccessRule} {direction : Direction} {value better : Binary64}
    (suits : rule.Suits direction) (finite : value.isFinite = true)
    (finite' : better.isFinite = true) (asGood : direction.meets better value = true) :
    (∀ baseline target,
      (RuleEvaluation.ofReading rule (.direct direction target value) baseline
        direction).passed = true →
      (RuleEvaluation.ofReading rule (.direct direction target better) baseline
        direction).passed = true) ∧
    ∀ (text : String) (point : BreakingPoint) (metric metric' : String) (date date' : Date),
      SuccessRule.ofText? text = some rule →
      ((⟨metric, value, date, text⟩ : Benchmark).evaluation direction point).passed = true →
      ((⟨metric', better, date', text⟩ : Benchmark).evaluation direction point).passed = true := by
  constructor
  · exact fun _ _ passes => RuleEvaluation.passed_of_better suits finite finite' asGood passes
  · intro text point metric metric' date date' parsed passes
    rw [Benchmark.passed_evaluation point parsed] at passes ⊢
    exact RuleEvaluation.passed_of_better suits finite finite' asGood passes

/-- Below a baseline of -2, a score of -4 passes the improvement rule that a score of -3 passes,
also for a record. -/
theorem better_readings_pass_below_zero :
    SuccessRule.Suits .lowerBetter (.improvementPercent 50) ∧
    Direction.lowerBetter.meets (-4) (-3) = true ∧
    (RuleEvaluation.ofReading (.improvementPercent 50) (.direct .lowerBetter none (-4)) (some (-2))
      .lowerBetter).passed = true ∧
    ((⟨"SCORE", -4, .first, "improvement:percent:50"⟩ : Benchmark).evaluation .lowerBetter
      { (default : BreakingPoint) with baseline := some (-2) }).passed = true := by
  have suits : SuccessRule.Suits .lowerBetter (.improvementPercent 50) := True.intro
  have asGood : Direction.lowerBetter.meets (-4) (-3) = true := by decide +kernel
  obtain ⟨direct, tracked⟩ :=
    better_readings_pass suits (by decide +kernel) (by decide +kernel) asGood
  refine ⟨suits, asGood, direct _ _ (by decide +kernel), ?_⟩
  exact tracked "improvement:percent:50" { (default : BreakingPoint) with baseline := some (-2) }
    "SCORE" "SCORE" .first .first (by decide +kernel) (by decide +kernel)

/-! ## Measurements -/

namespace Measurements

variable {registry : Registry} {values values' : Measurements}

/-- Finite measurements of the same tests, of which the later ones are as good, each in the
direction of its test. -/
structure Improved (registry : Registry) (values values' : Measurements) : Prop where
  finite : ∀ test value, values.find? test = some value → value.isFinite = true
  finite' : ∀ test value, values'.find? test = some value → value.isFinite = true
  sameTests : ∀ test, (values'.find? test).isSome = (values.find? test).isSome
  asGood : ∀ test old new, values.find? test = some old → values'.find? test = some new →
    (registry.direction test).meets new old = true

/-- What is left of some measurements when others are removed. -/
def Removed (values values' : Measurements) : Prop :=
  ∀ test value, values'.find? test = some value → values.find? test = some value

/-- Every finite measurement takes the place of a finite one that it is as good as. -/
def NoWorse (registry : Registry) (values values' : Measurements) : Prop :=
  ∀ test new, values'.find? test = some new → new.isFinite = true →
    ∃ old, values.find? test = some old ∧ old.isFinite = true ∧
      (registry.direction test).meets new old = true

theorem Improved.noWorse (improved : values.Improved registry values') :
    values.NoWorse registry values' := by
  intro test new found finite
  have known : (values.find? test).isSome = true := by
    rw [← improved.sameTests, found]
    rfl
  obtain ⟨old, before⟩ := Option.isSome_iff_exists.mp known
  exact ⟨old, before, improved.finite test old before, improved.asGood test old new before found⟩

theorem Removed.noWorse (removed : values.Removed values') (registry : Registry) :
    values.NoWorse registry values' := fun test new found finite =>
  ⟨new, removed test new found, finite,
    (registry.direction test).meets_refl (Binary64.isNaN_of_isFinite finite)⟩

end Measurements

/-! ## Reports -/

namespace ConstraintReport

variable {registry : Registry} {values values' : Measurements} {rows : List Requirement}
  {row : Requirement} {limit limit' : Nat} {report report' : ConstraintReport}

/-- The second of two reports on some requirements holds no more against the player. -/
structure HoldsNoMore (registry : Registry) (rows : List Requirement)
    (values values' : Measurements) (report report' : ConstraintReport) : Prop where
  /-- What is unmet was unmet, by a gap that was at least as large. -/
  unmet : ∀ row ∈ rows, row.Unmet registry values' → row.Unmet registry values ∧
    ∃ old new, values.find? row.test = some old ∧ values'.find? row.test = some new ∧
      (registry.direction row.test).gap new row.minimum ≤
        (registry.direction row.test).gap old row.minimum
  unmetTotal : report'.unmetTotal ≤ report.unmetTotal
  canAdvance : report.canAdvance = true → report'.canAdvance = true

/-- A requirement that no worse measurements leave unmet was unmet before, by a gap that was at
least as large. -/
theorem unmet_of_noWorse (noWorse : values.NoWorse registry values')
    (unmet : row.Unmet registry values') : row.Unmet registry values ∧
      ∃ old new, values.find? row.test = some old ∧ values'.find? row.test = some new ∧
        (registry.direction row.test).gap new row.minimum ≤
          (registry.direction row.test).gap old row.minimum := by
  obtain ⟨new, found, ⟨finite', bound⟩, positive⟩ := unmet
  obtain ⟨old, before, finite, asGood⟩ := noWorse row.test new found finite'
  have falls := Direction.gap_antitone finite finite' bound asGood
  exact ⟨⟨old, before, ⟨finite, bound⟩, Binary64.lt_of_lt_of_le positive falls⟩, old, new, before,
    found, falls⟩

/-- Exact reports on measurements that are no worse hold no more against the player. -/
theorem Exact.holdsNoMore (exact : report.Exact registry limit values rows)
    (exact' : report'.Exact registry limit' values' rows)
    (noWorse : values.NoWorse registry values') :
    HoldsNoMore registry rows values values' report report' where
  unmet := fun _ _ => unmet_of_noWorse noWorse
  unmetTotal := by
    rw [exact.unmetTotal, exact'.unmetTotal]
    refine List.countP_mono_left fun row _ unmet => ?_
    exact decide_eq_true (unmet_of_noWorse noWorse (of_decide_eq_true unmet)).1
  canAdvance := by
    rw [exact.canAdvance, exact'.canAdvance]
    intro free row held unmet
    exact free row held (unmet_of_noWorse noWorse unmet).1

end ConstraintReport

/-- **Better measurements never hurt a player, and neither do fewer.**  Two analyses go by the
same requirements, and the measurements of the second are those of the first improved, or with
some removed.  Then what the second report holds against the player, the first did, by gaps that
were at least as large; so it counts no more requirements as unmet, and a player who could
advance still can. -/
theorem better_readings_never_hurt {Store Other : Type} [RequirementStore Store]
    [RequirementStore Other] (registry : Registry) (settings : ConstraintSettings) (player : Uuid)
    {category target : Category} (gender : Gender) {values values' : Measurements}
    {state : AnalysisState Store} {other : AnalysisState Other} {rows : List Requirement}
    {origin origin' : RequirementOrigin} (next : category.nextUp = some target)
    (loaded : (state.load registry target gender).1 = .ok (rows, origin))
    (loaded' : (other.load registry target gender).1 = .ok (rows, origin'))
    (change : values.Improved registry values' ∨ values.Removed values') :
    ∃ report report',
      (state.compute registry settings player category gender values).1 = .ok report ∧
      (other.compute registry settings player category gender values').1 = .ok report' ∧
      report.HoldsNoMore registry rows values values' report' := by
  have noWorse : values.NoWorse registry values' := by
    rcases change with improved | removed
    · exact improved.noWorse
    · exact removed.noWorse registry
  rw [AnalysisState.compute_of_next next, AnalysisState.compute_of_next next, loaded, loaded']
  exact ⟨_, _, rfl, rfl,
    ConstraintReport.ofRows_exact.holdsNoMore ConstraintReport.ofRows_exact noWorse⟩

namespace Promotion

/-- A single measurement, of the test that is better low. -/
def putts (count : Nat) : Measurements := ⟨[(5, .ofNat count)]⟩

theorem find?_putts (count : Nat) (test : UInt8) :
    (putts count).find? test = if test = 5 then some (.ofNat count) else none := by
  by_cases same : test = 5
  · simp [putts, Measurements.find?, same]
  · simp [putts, Measurements.find?, List.lookup_cons, same, beq_eq_false_iff_ne.mpr]

/-- No more putts are an improvement. -/
theorem improved_putts {more fewer : Nat} (finite : (Binary64.ofNat more).isFinite = true)
    (finite' : (Binary64.ofNat fewer).isFinite = true)
    (asGood : (registry.direction 5).meets (.ofNat fewer) (.ofNat more) = true) :
    (putts more).Improved registry (putts fewer) := by
  have taken {count : Nat} {test : UInt8} {value : Binary64}
      (found : (putts count).find? test = some value) : test = 5 ∧ value = .ofNat count := by
    rw [find?_putts] at found
    split at found
    · next same => exact ⟨same, (Option.some.inj found).symm⟩
    · cases found
  constructor
  case finite => exact fun _ _ found => (taken found).2 ▸ finite
  case finite' => exact fun _ _ found => (taken found).2 ▸ finite'
  case sameTests =>
    intro test
    rw [find?_putts, find?_putts]
    by_cases same : test = 5 <;> simp [same]
  case asGood =>
    intro test old new before found
    obtain ⟨rfl, rfl⟩ := taken before
    obtain ⟨-, rfl⟩ := taken found
    exact asGood

end Promotion

/-- The player who is short of category A improves between two reports, of which the second
goes by the cache. -/
theorem better_readings_never_hurt_promotion :
    (Promotion.putts 30).Improved Promotion.registry (Promotion.putts 25) ∧
    ∃ report report',
      (Promotion.state.compute Promotion.registry {} ⟨1⟩ .b .male (Promotion.putts 30)).1 =
        .ok report ∧
      ((Promotion.state.load Promotion.registry .a .male).2.compute Promotion.registry {} ⟨1⟩ .b
        .male (Promotion.putts 25)).1 = .ok report' ∧
      report.HoldsNoMore Promotion.registry Promotion.rows (Promotion.putts 30)
        (Promotion.putts 25) report' := by
  have improved : (Promotion.putts 30).Improved Promotion.registry (Promotion.putts 25) :=
    Promotion.improved_putts (by decide +kernel) (by decide +kernel) (by decide +kernel)
  have next : Category.b.nextUp = some .a := rfl
  have loaded : (Promotion.state.load Promotion.registry .a .male).1 =
      .ok (Promotion.rows, .store) := by rfl
  have loaded' : ((Promotion.state.load Promotion.registry .a .male).2.load Promotion.registry .a
      .male).1 = .ok (Promotion.rows, .cache) := by rfl
  exact ⟨improved, better_readings_never_hurt Promotion.registry {} ⟨1⟩ .male next loaded loaded'
    (.inl improved)⟩

end GolfProgress
