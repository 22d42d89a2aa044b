import GolfProgress.Proofs.Reports
import GolfProgress.Proofs.RoundedOrder
import GolfProgress.Proofs.SettingsRanges

/-!
# Readiness

Readiness falls from 100 as the weighted gaps grow: the penalty rises with both sums of
gaps, the exponential of its opposite falls (`exp_neg_mono`), and what is made of that to
one decimal within 0 and 100 rises again (`rises_readinessScore`).  With finite weights in
order the penalty of sums that are not negative is a number, except where a soft weight of
zero meets an infinite sum of soft gaps (`ConstraintSettings.Weighs.readiness_isNaN`).

`readiness_exact` says what this comes to in reports.
-/

set_option autoImplicit false

namespace GolfProgress

/-! ## The exponential -/

namespace Binary64

section TaylorSums

variable {n n' d step steps steps' : Nat}

/-- The denominator of a sum depends on the denominator of the argument alone. -/
theorem taylorSum_bottom (n n' d step steps : Nat) :
    (taylorSum n d step steps).2 = (taylorSum n' d step steps).2 := by
  induction steps generalizing step with
  | zero => rfl
  | succ steps ih => simp only [taylorSum, ih (step + 1)]

theorem taylorSum_bottom_pos (positive : 0 < d) (some : 0 < step) (steps : Nat) :
    0 < (taylorSum n d step steps).2 := by
  induction steps generalizing step with
  | zero => exact Nat.one_pos
  | succ steps ih => exact Nat.mul_pos (Nat.mul_pos some positive) (ih (Nat.succ_pos step))

theorem taylorSum_bottom_le_top (n d step steps : Nat) :
    (taylorSum n d step steps).2 ≤ (taylorSum n d step steps).1 := by
  cases steps with
  | zero => exact Nat.le_refl 1
  | succ steps => exact Nat.le_add_right _ _

/-- A larger argument has a larger sum. -/
theorem taylorSum_top_mono (ordered : n ≤ n') (steps : Nat) :
    (taylorSum n d step steps).1 ≤ (taylorSum n' d step steps).1 := by
  induction steps generalizing step with
  | zero => exact Nat.le_refl 1
  | succ steps ih =>
      simp only [taylorSum, taylorSum_bottom n n' d (step + 1) steps]
      exact Nat.add_le_add_left (Nat.mul_le_mul ordered ih) _

/-- The step of a sum keeps the order of the quotients that it starts from. -/
theorem taylorStep_mono {top bottom top' bottom' : Nat} (n scale : Nat)
    (ordered : top * bottom' ≤ top' * bottom) :
    (scale * bottom + n * top) * (scale * bottom') ≤
      (scale * bottom' + n * top') * (scale * bottom) := by
  have tails : n * scale * (top * bottom') ≤ n * scale * (top' * bottom) :=
    Nat.mul_le_mul_left _ ordered
  calc (scale * bottom + n * top) * (scale * bottom')
      = scale * bottom * (scale * bottom') + n * scale * (top * bottom') := by grind
    _ ≤ scale * bottom * (scale * bottom') + n * scale * (top' * bottom) :=
        Nat.add_le_add_left tails _
    _ = (scale * bottom' + n * top') * (scale * bottom) := by grind

/-- A sum of one more term is not smaller. -/
theorem taylorSum_le_succ (n d step steps : Nat) :
    (taylorSum n d step steps).1 * (taylorSum n d step (steps + 1)).2 ≤
      (taylorSum n d step (steps + 1)).1 * (taylorSum n d step steps).2 := by
  induction steps generalizing step with
  | zero => simp [taylorSum]
  | succ steps ih => exact taylorStep_mono n (step * d) (ih (step + 1))

/-- A sum of more terms is not smaller. -/
theorem taylorSum_le_of_le (positive : 0 < d) (some : 0 < step) (more : steps ≤ steps') :
    (taylorSum n d step steps).1 * (taylorSum n d step steps').2 ≤
      (taylorSum n d step steps').1 * (taylorSum n d step steps).2 := by
  induction more with
  | refl => exact Nat.le_refl _
  | @step longer _ ih =>
      -- the quotients are compared through that of the sum in between
      refine Nat.le_of_mul_le_mul_right ?_ (taylorSum_bottom_pos (n := n) positive some longer)
      have last := taylorSum_le_succ n d step longer
      generalize taylorSum n d step steps = short at *
      generalize taylorSum n d step longer = middle at *
      generalize taylorSum n d step (longer + 1) = long at *
      calc short.1 * long.2 * middle.2 = short.1 * middle.2 * long.2 := Nat.mul_right_comm _ _ _
        _ ≤ middle.1 * short.2 * long.2 := Nat.mul_le_mul_right _ ih
        _ = middle.1 * long.2 * short.2 := Nat.mul_right_comm _ _ _
        _ ≤ long.1 * middle.2 * short.2 := Nat.mul_le_mul_right _ last
        _ = long.1 * short.2 * middle.2 := Nat.mul_right_comm _ _ _

/-- The sum of zero is one. -/
theorem taylorSum_zero (d step steps : Nat) :
    (taylorSum 0 d step steps).1 = (taylorSum 0 d step steps).2 := by
  cases steps with
  | zero => rfl
  | succ steps => simp [taylorSum]

end TaylorSums

section ExponentialSums

variable {low high : Nat}

theorem exponentialSum_bottom_pos (quanta : Nat) : 0 < (exponentialSum quanta).2 :=
  taylorSum_bottom_pos quantaPerUnit_pos Nat.one_pos _

theorem exponentialSum_top_pos (quanta : Nat) : 0 < (exponentialSum quanta).1 :=
  Nat.lt_of_lt_of_le (exponentialSum_bottom_pos quanta) (taylorSum_bottom_le_top _ _ _ _)

/-- **A larger magnitude has a larger sum**, although it stops at another degree. -/
theorem exponentialSum_mono (ordered : low ≤ high) :
    (exponentialSum low).1 * (exponentialSum high).2 ≤
      (exponentialSum high).1 * (exponentialSum low).2 := by
  have degrees : taylorDegree low ≤ taylorDegree high :=
    Nat.add_le_add_left (Nat.mul_le_mul_left 3 (Nat.div_le_div_right ordered)) 100
  calc (exponentialSum low).1 * (exponentialSum high).2
      = (exponentialSum low).1 * (taylorSum low quantaPerUnit 1 (taylorDegree high)).2 := by
        rw [exponentialSum, exponentialSum, taylorSum_bottom high low]
    _ ≤ (taylorSum low quantaPerUnit 1 (taylorDegree high)).1 * (exponentialSum low).2 :=
        taylorSum_le_of_le quantaPerUnit_pos Nat.one_pos degrees
    _ ≤ (exponentialSum high).1 * (exponentialSum low).2 :=
        Nat.mul_le_mul_right _ (taylorSum_top_mono ordered _)

end ExponentialSums

/-- The exponential of the opposite of a finite number that is not negative. -/
theorem exp_neg_finite {negative : Bool} {quanta : Nat} {fits : Fits quanta}
    (plain : signed negative quanta = quanta) (small : quanta < exponentialBound * quantaPerUnit) :
    (-finite negative quanta fits).exp =
      ofQuotient false ((exponentialSum quanta).2 * quantaPerUnit) (exponentialSum quanta).1 := by
  have opposite : -finite negative quanta fits = finite (!negative) quanta fits := rfl
  rw [opposite, exp, if_neg (Nat.not_le.mpr small)]
  dsimp only
  rcases signed_eq_self.mp plain with rfl | rfl
  · rw [Bool.not_false, if_pos rfl]
  · -- the sum of zero is one, whatever the sign
    have one : (exponentialSum 0).1 = (exponentialSum 0).2 := taylorSum_zero _ _ _
    rw [one, ite_self]

/-- The exponential of the opposite vanishes from a magnitude on. -/
theorem exp_neg_of_large {negative : Bool} {quanta : Nat} {fits : Fits quanta}
    (plain : signed negative quanta = quanta) (large : exponentialBound * quantaPerUnit ≤ quanta) :
    (-finite negative quanta fits).exp = 0 := by
  have opposite : -finite negative quanta fits = finite (!negative) quanta fits := rfl
  rw [opposite, exp, if_pos large, zero_eq]
  rcases signed_eq_self.mp plain with rfl | rfl
  · rfl
  · -- a magnitude from there on is not zero
    have positive : 0 < exponentialBound * quantaPerUnit :=
      Nat.mul_pos (by decide) quantaPerUnit_pos
    omega

/-- The exponential of the opposite of a zero is one. -/
theorem exp_neg_zero {negative : Bool} {fits : Fits 0} :
    (-finite negative 0 fits).exp = 1 := by
  have one : (exponentialSum 0).1 = (exponentialSum 0).2 := taylorSum_zero _ _ _
  have unit : (1 : Binary64) = ofQuotient false quantaPerUnit 1 := by
    change ofNat 1 = _
    rw [ofNat, Nat.one_mul]
  have scaled : ofQuotient false (quantaPerUnit * (exponentialSum 0).2)
      (1 * (exponentialSum 0).2) = ofQuotient false quantaPerUnit 1 :=
    ofQuotient_scaled false (exponentialSum_bottom_pos 0)
  rw [Nat.mul_comm, Nat.one_mul] at scaled
  rw [exp_neg_finite (signed_eq_self.mpr (.inr rfl))
    (Nat.mul_pos (by decide) quantaPerUnit_pos), one, unit, scaled]

/-- The exponential of the opposite of a number that is not negative is zero, or the number is
small enough for a sum. -/
theorem exp_neg_cases {a : Binary64} (nonneg : 0 ≤ a) :
    (-a).exp = 0 ∨ ∃ negative quanta fits, a = finite negative quanta fits ∧
      signed negative quanta = quanta ∧ quanta < exponentialBound * quantaPerUnit := by
  rcases nonneg_cases nonneg with rfl | ⟨negative, quanta, fits, rfl, plain⟩
  · -- the exponential of the negative infinity is zero
    exact .inl (by rw [zero_eq]; rfl)
  · rcases Nat.lt_or_ge quanta (exponentialBound * quantaPerUnit) with small | large
    · exact .inr ⟨negative, quanta, fits, rfl, plain, small⟩
    · exact .inl (exp_neg_of_large plain large)

/-- The exponential of the opposite of a number that is not negative is not negative. -/
theorem exp_neg_nonneg {a : Binary64} (nonneg : 0 ≤ a) : 0 ≤ (-a).exp := by
  rcases exp_neg_cases nonneg with vanishes | ⟨negative, quanta, fits, rfl, plain, small⟩
  · rw [vanishes]
    exact le_refl isNaN_zero
  · have rounded : IsRounded (-finite negative quanta fits).exp _ _ :=
      ⟨false, exp_neg_finite plain small, rfl⟩
    exact rounded.nonneg (exponentialSum_top_pos quanta)

/-- **The exponential of the opposite falls**, and is not negative. -/
theorem exp_neg_mono {a b : Binary64} (nonneg : 0 ≤ a) (ordered : a ≤ b) :
    0 ≤ (-b).exp ∧ (-b).exp ≤ (-a).exp := by
  have nonneg' : 0 ≤ b := le_trans nonneg ordered
  refine ⟨exp_neg_nonneg nonneg', ?_⟩
  rcases exp_neg_cases nonneg' with vanishes | ⟨t, high, fits', rfl, plain', small'⟩
  · rw [vanishes]
    exact exp_neg_nonneg nonneg
  · rcases nonneg_cases nonneg with rfl | ⟨s, low, fits, rfl, plain⟩
    · cases eq_infinite ordered
    · rw [le_iff rfl rfl, place, place, plain, plain'] at ordered
      have below : low ≤ high := Int.ofNat_le.mp ordered
      have rounded : IsRounded (-finite s low fits).exp _ _ :=
        ⟨false, exp_neg_finite plain (Nat.lt_of_le_of_lt below small'), rfl⟩
      have rounded' : IsRounded (-finite t high fits').exp _ _ :=
        ⟨false, exp_neg_finite plain' small', rfl⟩
      refine rounded'.le rounded (exponentialSum_top_pos high) (exponentialSum_top_pos low) ?_
      have sums := Nat.mul_le_mul_right quantaPerUnit (exponentialSum_mono below)
      calc (exponentialSum high).2 * quantaPerUnit * (exponentialSum low).1
          = (exponentialSum low).1 * (exponentialSum high).2 * quantaPerUnit := by grind
        _ ≤ (exponentialSum high).1 * (exponentialSum low).2 * quantaPerUnit := sums
        _ = (exponentialSum low).2 * quantaPerUnit * (exponentialSum high).1 := by grind

end Binary64

/-! ## The score -/

/-- What readiness makes of the exponential: percents to one decimal, within 0 and 100. -/
def readinessScore (remaining : Binary64) : Binary64 :=
  ((100 * remaining * 10).round / 10).clamp 0 100

/-- Percents to one decimal rise with what remains. -/
theorem rises_percents : Binary64.Rises fun remaining => (100 * remaining * 10).round / 10 := by
  have hundred : Binary64.Rises fun value => 100 * value := by
    have small : 100 ≤ Binary64.fractionSize := by decide
    have equal : (100 : Binary64) = .finite false (100 * Binary64.quantaPerUnit) _ :=
      Binary64.ofNat_eq small
    rw [equal]
    exact Binary64.rises_mul_weight (Nat.mul_pos (by decide) Binary64.quantaPerUnit_pos)
  have tenfold : Binary64.Rises fun value => value * 10 :=
    Binary64.rises_mul_ofNat (by decide) (by decide)
  have tenth : Binary64.Rises fun value => value / 10 :=
    Binary64.rises_div_ofNat (by decide) (by decide)
  exact tenth.comp (Binary64.rises_round.comp (tenfold.comp hundred))

/-- The score rises with what remains. -/
theorem rises_readinessScore : Binary64.Rises readinessScore :=
  (Binary64.rises_clamp (by decide +kernel)).comp rises_percents

/-- Where what remains is a number that is not negative, the score lies between 0 and 100. -/
theorem readinessScore_bounds {remaining : Binary64} (nonneg : 0 ≤ remaining) :
    0 ≤ readinessScore remaining ∧ readinessScore remaining ≤ 100 :=
  Binary64.clamp_bounds (Binary64.nonneg_iff.mp (rises_percents.nonneg nonneg)).1
    (by decide +kernel)

theorem readinessScore_nan : readinessScore .nan = .nan := by decide +kernel

theorem readinessScore_one : readinessScore 1 = 100 := by decide +kernel

/-! ## The penalty -/

namespace ConstraintSettings

/-- The weights are finite and in order. -/
structure Weighs (settings : ConstraintSettings) : Prop where
  hard : settings.hardWeight.isFinite = true
  soft : settings.softWeight.isFinite = true
  ordered : settings.Ordered

/-- What the weighted gaps come to. -/
def penalty (settings : ConstraintSettings) (hardGaps softGaps : Binary64) : Binary64 :=
  settings.hardWeight * hardGaps + settings.softWeight * softGaps

/-- A soft weight of zero meets an infinite sum of soft gaps. -/
def Vanishes (settings : ConstraintSettings) (softGaps : Binary64) : Prop :=
  settings.softWeight.isZero = true ∧ softGaps = .infinite false

variable {settings : ConstraintSettings} {hard hard' soft soft' : Binary64}

/-- The hard weight is positive. -/
theorem Ordered.hard_pos (ordered : settings.Ordered) : 0 < settings.hardWeight := by
  obtain ⟨soft, hard⟩ := ordered
  have numbers := Binary64.not_isNaN_of_lt hard
  rw [Binary64.le_iff Binary64.isNaN_zero numbers.1] at soft
  rw [Binary64.lt_iff numbers.1 numbers.2] at hard
  exact (Binary64.lt_iff Binary64.isNaN_zero numbers.2).mpr (Int.lt_of_le_of_lt soft hard)

/-- The penalty of gaps that are not negative is not negative and rises with both, unless the
soft ones vanish. -/
theorem Weighs.penalty_mono (weighs : settings.Weighs) (apart : ¬ settings.Vanishes soft')
    (nonneg : 0 ≤ hard) (ordered : hard ≤ hard') (nonneg' : 0 ≤ soft) (ordered' : soft ≤ soft') :
    0 ≤ settings.penalty hard soft ∧
      settings.penalty hard soft ≤ settings.penalty hard' soft' := by
  have positive := weighs.ordered.hard_pos
  obtain ⟨low, below⟩ := Binary64.mul_rises weighs.hard (Binary64.le_of_lt positive)
    (by simp [Binary64.isZero_of_pos positive]) nonneg ordered
  obtain ⟨low', below'⟩ := Binary64.mul_rises weighs.soft weighs.ordered.soft
    (fun zero infinite => apart ⟨zero, infinite⟩) nonneg' ordered'
  exact ⟨Binary64.add_nonneg low low', Binary64.add_le_add low below low' below'⟩

theorem readiness_eq_score (settings : ConstraintSettings) (hard soft : Binary64) :
    settings.readiness hard soft = readinessScore (-settings.penalty hard soft).exp := rfl

/-- **Readiness never rises with a sum of gaps.** -/
theorem Weighs.readiness_antitone (weighs : settings.Weighs) (apart : ¬ settings.Vanishes soft')
    (nonneg : 0 ≤ hard) (ordered : hard ≤ hard') (nonneg' : 0 ≤ soft) (ordered' : soft ≤ soft') :
    settings.readiness hard' soft' ≤ settings.readiness hard soft := by
  obtain ⟨low, below⟩ := weighs.penalty_mono apart nonneg ordered nonneg' ordered'
  obtain ⟨low', above⟩ := Binary64.exp_neg_mono low below
  exact (rises_readinessScore _ _ low' above).2

/-- Without a soft weight of zero meeting an infinite sum, readiness lies between 0 and
100. -/
theorem Weighs.readiness_bounds (weighs : settings.Weighs) (apart : ¬ settings.Vanishes soft)
    (nonneg : 0 ≤ hard) (nonneg' : 0 ≤ soft) :
    0 ≤ settings.readiness hard soft ∧ settings.readiness hard soft ≤ 100 := by
  have same {value : Binary64} (nonneg : 0 ≤ value) : value ≤ value :=
    Binary64.le_refl (Binary64.nonneg_iff.mp nonneg).1
  obtain ⟨low, -⟩ := weighs.penalty_mono apart nonneg (same nonneg) nonneg' (same nonneg')
  exact readinessScore_bounds (Binary64.exp_neg_mono low (same low)).1

/-- Where a soft weight of zero meets an infinite sum, readiness is not a number. -/
theorem readiness_of_vanishes (vanishes : settings.Vanishes soft) (hard : Binary64) :
    settings.readiness hard soft = .nan := by
  obtain ⟨zero, rfl⟩ := vanishes
  have lost : settings.penalty hard (.infinite false) = .nan := by
    rw [penalty, Binary64.zero_mul_infinite zero, Binary64.add_nan]
  rw [readiness_eq_score, lost]
  exact readinessScore_nan

/-- **Readiness is not a number exactly where a soft weight of zero meets an infinite sum.** -/
theorem Weighs.readiness_isNaN (weighs : settings.Weighs) (nonneg : 0 ≤ hard)
    (nonneg' : 0 ≤ soft) :
    (settings.readiness hard soft).isNaN = true ↔ settings.Vanishes soft := by
  constructor
  · intro missing
    by_contra apart
    have bounds := weighs.readiness_bounds apart nonneg nonneg'
    rw [(Binary64.nonneg_iff.mp bounds.1).1] at missing
    cases missing
  · intro vanishes
    rw [readiness_of_vanishes vanishes hard]
    rfl

/-- Without gaps readiness is full. -/
theorem Weighs.readiness_zero (weighs : settings.Weighs) : settings.readiness 0 0 = 100 := by
  obtain ⟨s, hardless⟩ := Binary64.mul_zero weighs.hard
  obtain ⟨t, softless⟩ := Binary64.mul_zero weighs.soft
  have none : settings.penalty 0 0 = .finite (s && t) 0 Binary64.fits_zero := by
    rw [penalty, hardless, softless]
    cases s <;> cases t <;> rfl
  rw [readiness_eq_score, none, Binary64.exp_neg_zero]
  exact readinessScore_one

end ConstraintSettings

/-! ## Sums of gaps -/

namespace ConstraintReport

variable {registry : Registry} {settings : ConstraintSettings} {player : Uuid}
  {current target : Category} {gender : Gender} {measurements : Measurements}
  {rows : List Requirement} {origin : RequirementOrigin}

/-- The sum of the gaps of the unmet requirements of a severity, in the order of the
requirements. -/
def gaps (registry : Registry) (measurements : Measurements) (rows : List Requirement)
    (severity : Severity) : Binary64 :=
  gapSum severity (rows.filterMap (constraint? registry measurements))

theorem gaps_nonneg (severity : Severity) : 0 ≤ gaps registry measurements rows severity := by
  have sums : ∀ (entries : List BindingConstraint) (sum : Binary64), 0 ≤ sum →
      (∀ entry ∈ entries, 0 < entry.gap) →
        0 ≤ entries.foldl (fun sum entry => sum + entry.gap) sum := by
    intro entries
    induction entries with
    | nil => exact fun sum nonneg _ => nonneg
    | cons entry rest ih =>
        intro sum nonneg positive
        obtain ⟨first, later⟩ := List.forall_mem_cons.mp positive
        exact ih _ (Binary64.add_nonneg nonneg (Binary64.le_of_lt first)) later
  refine sums _ 0 (Binary64.le_refl Binary64.isNaN_zero) fun entry inside => ?_
  exact gap_pos (List.mem_filter.mp inside).1

/-- Where nothing is unmet there are no gaps. -/
theorem gaps_of_met (met : ∀ row ∈ rows, ¬ row.Unmet registry measurements)
    (severity : Severity) : gaps registry measurements rows severity = 0 := by
  have none : rows.filterMap (constraint? registry measurements) = [] := by
    refine List.filterMap_eq_nil_iff.mpr fun row inside => ?_
    rw [← Option.not_isSome_iff_eq_none, isSome_constraint?]
    exact met row inside
  rw [gaps, none]
  rfl

theorem readiness_ofRows :
    (ofRows registry settings player current target gender measurements rows origin).readiness =
      settings.readiness (gaps registry measurements rows .hard)
        (gaps registry measurements rows .soft) := by
  have composed : (rows.filterMap (measured? measurements)).filterMap (unmet? registry) =
      rows.filterMap (constraint? registry measurements) := List.filterMap_filterMap
  simp only [ofRows, composed, gaps]

/-- What the readiness of a report on some requirements comes to. -/
structure Ready (registry : Registry) (settings : ConstraintSettings)
    (measurements : Measurements) (rows : List Requirement) (report : ConstraintReport) :
    Prop where
  /-- It is not a number exactly where a soft weight of zero meets an infinite sum of soft
  gaps. -/
  missing : report.readiness.isNaN = true ↔
    settings.Vanishes (gaps registry measurements rows .soft)
  bounds : report.readiness.isNaN = false → 0 ≤ report.readiness ∧ report.readiness ≤ 100
  /-- It is full when nothing measured falls short. -/
  full : (∀ row ∈ rows, ¬ row.Unmet registry measurements) → report.readiness = 100

theorem ready_ofRows (weighs : settings.Weighs) :
    (ofRows registry settings player current target gender measurements rows origin).Ready
      registry settings measurements rows := by
  have hard : 0 ≤ gaps registry measurements rows .hard := gaps_nonneg .hard
  have soft : 0 ≤ gaps registry measurements rows .soft := gaps_nonneg .soft
  refine ⟨?_, ?_, ?_⟩ <;> rw [readiness_ofRows]
  · exact weighs.readiness_isNaN hard soft
  · intro number
    refine weighs.readiness_bounds (fun vanishes => ?_) hard soft
    rw [(weighs.readiness_isNaN hard soft).mpr vanishes] at number
    cases number
  · intro met
    rw [gaps_of_met met, gaps_of_met met]
    exact weighs.readiness_zero

end ConstraintReport

/-- **Readiness is a number within 0 and 100**, which is 100 when nothing measured falls short
and never rises with a sum of gaps, except where a soft weight of zero meets an infinite sum
of soft gaps: there it is not a number.  This is so of every report with finite weights in
order. -/
theorem readiness_exact {Store : Type} [RequirementStore Store] (registry : Registry)
    {settings : ConstraintSettings} (weighs : settings.Weighs) (player : Uuid)
    {category target : Category} (gender : Gender) (measurements : Measurements)
    {state after : AnalysisState Store} {rows : List Requirement} {origin : RequirementOrigin}
    (next : category.nextUp = some target)
    (loaded : state.load registry target gender = (.ok (rows, origin), after)) :
    (∃ report,
      state.compute registry settings player category gender measurements =
        (.ok report, after) ∧
      report.Ready registry settings measurements rows) ∧
    ∀ hard hard' soft soft', 0 ≤ hard → hard ≤ hard' → 0 ≤ soft → soft ≤ soft' →
      ¬ settings.Vanishes soft' →
        settings.readiness hard' soft' ≤ settings.readiness hard soft := by
  constructor
  · refine ⟨.ofRows registry settings player category target gender measurements rows origin, ?_,
      ConstraintReport.ready_ofRows weighs⟩
    simp only [AnalysisState.compute, next, loaded]
  · intro hard hard' soft soft' nonneg ordered nonneg' ordered' apart
    exact weighs.readiness_antitone apart nonneg ordered nonneg' ordered'

/-- The player who is short of category A has a readiness between 0 and 100, and readiness is
not greater with a first hard gap than without. -/
theorem readiness_exact_promotion :
    Category.b.nextUp = some .a ∧
    (Promotion.state.load Promotion.registry .a .male).1 = .ok (Promotion.rows, .store) ∧
    (∃ report,
      (Promotion.state.compute Promotion.registry {} ⟨1⟩ .b .male
        Promotion.measurements).1 = .ok report ∧
      0 ≤ report.readiness ∧ report.readiness ≤ 100) ∧
    ConstraintSettings.readiness {} 1 0 ≤ ConstraintSettings.readiness {} 0 0 := by
  have loaded : Promotion.state.load Promotion.registry .a .male =
      (.ok (Promotion.rows, .store),
        (Promotion.state.load Promotion.registry .a .male).2) := rfl
  have next : Category.b.nextUp = some .a := rfl
  have weighs : ConstraintSettings.Weighs {} :=
    ⟨by decide +kernel, by decide +kernel, ⟨by decide +kernel, by decide +kernel⟩⟩
  have apart (soft : Binary64) : ¬ ConstraintSettings.Vanishes {} soft := by
    have weight : (1 : Binary64).isZero = false := by decide +kernel
    rintro ⟨zero, -⟩
    exact Bool.noConfusion (weight.symm.trans zero)
  obtain ⟨⟨report, computed, ready⟩, falls⟩ := readiness_exact Promotion.registry weighs ⟨1⟩ .male
    Promotion.measurements next loaded
  have number : report.readiness.isNaN = false := by
    rw [← Bool.not_eq_true, ready.missing]
    exact apart _
  exact ⟨next, congrArg Prod.fst loaded, ⟨report, congrArg Prod.fst computed, ready.bounds number⟩,
    falls 0 1 0 0 (by decide +kernel) (by decide +kernel) (by decide +kernel) (by decide +kernel)
      (apart 0)⟩

/-- A soft requirement so small that the gap of the player is infinite. -/
def Promotion.minute : Requirement :=
  { Promotion.row 5 0 false with minimum := .ofDecimal false 1 (-308) }

/-- With a soft weight of zero, the readiness of the player against that requirement is not a
number. -/
theorem minute_requirement_unscored :
    ∃ settings : ConstraintSettings, settings.Weighs ∧
      ∃ report,
        ((⟨{ rows := [Promotion.minute] }, {}⟩ : AnalysisState MemoryRequirements).compute
          Promotion.registry settings ⟨1⟩ .b .male Promotion.measurements).1 = .ok report ∧
        report.readiness.isNaN = true ∧ ¬ (0 ≤ report.readiness ∧ report.readiness ≤ 100) := by
  refine ⟨{ softWeight := 0 }, ⟨by decide +kernel, by decide +kernel,
    ⟨by decide +kernel, by decide +kernel⟩⟩, _, rfl, by decide +kernel, by decide +kernel⟩

end GolfProgress
