import GolfProgress.Constraints.Analysis
import GolfProgress.Proofs.NumberOrder
import Mathlib.Data.List.Forall2

/-!
# Reports say exactly what is unmet

A requirement is evaluated when its test has a finite value and its threshold is
finite, and it is unmet when moreover its gap is positive.  `ConstraintReport.Exact`
says what a report owes to these two notions: its counts, whether the player can
advance, and the constraints that it lists.  The unmet requirements make one constraint
each, these are ranked by severity, gap and test, and the report lists the first of
them, so that a soft constraint is listed only when every hard one is.

`report_exact` says that every analysis whose requirements load gives an exact report.
-/

set_option autoImplicit false

namespace GolfProgress

/-! ## Evaluated and unmet requirements -/

section Requirements

variable (registry : Registry) (measurements : Measurements) (row : Requirement)

/-- A requirement whose test has a finite value, and whose threshold is finite. -/
def Requirement.Evaluated : Prop :=
  ∃ value ∈ measurements.find? row.test, value.isFinite = true ∧ row.minimum.isFinite = true

instance : Decidable (row.Evaluated measurements) :=
  inferInstanceAs (Decidable (∃ value ∈ _, _))

/-- An evaluated requirement with a positive gap, in the direction of its test. -/
def Requirement.Unmet : Prop :=
  ∃ value ∈ measurements.find? row.test, (value.isFinite = true ∧ row.minimum.isFinite = true) ∧
    0 < (registry.direction row.test).gap value row.minimum

instance : Decidable (row.Unmet registry measurements) :=
  inferInstanceAs (Decidable (∃ value ∈ _, _))

/-- A constraint with the values of a requirement. -/
structure Requirement.ShownAs (entry : BindingConstraint) : Prop where
  test : entry.test = row.test
  domain : entry.domain = row.domain
  severity : entry.severity = .hard ↔ row.hard = true
  current : measurements.find? row.test = some entry.current
  required : entry.required = row.minimum
  gap : entry.gap = (registry.direction row.test).gap entry.current row.minimum

end Requirements

/-! ## Ranks -/

namespace BindingConstraint

/-- The order of constraints: hard ones before soft ones, then larger gaps before
smaller ones, then lower tests before higher ones. -/
inductive Precedes (a b : BindingConstraint) : Prop where
  | severity (hard : a.severity = .hard) (soft : b.severity = .soft)
  | gap (tied : a.severity = b.severity) (larger : b.gap < a.gap)
  | test (tied : a.severity = b.severity) (same : a.gap = b.gap) (lower : a.test < b.test)

/-- Whether constraints tie in the order. -/
def ties (a b : BindingConstraint) : Bool :=
  decide (a.severity = b.severity ∧ a.gap = b.gap ∧ a.test = b.test)

/-- A list of constraints ranked: the same constraints, in order, and those that tie as
they were. -/
structure Ranked (entries ranked : List BindingConstraint) : Prop where
  perm : ranked.Perm entries
  sorted : ranked.Pairwise fun a b => ¬ b.Precedes a
  stable : ∀ entry : BindingConstraint, ranked.filter entry.ties = entries.filter entry.ties

end BindingConstraint

/-- A report that says exactly which of some requirements are unmet, and lists at most
`limit` of them. -/
structure ConstraintReport.Exact (registry : Registry) (limit : Nat)
    (measurements : Measurements) (rows : List Requirement) (report : ConstraintReport) :
    Prop where
  evaluated : report.evaluated = rows.countP fun row => row.Evaluated measurements
  unmetTotal : report.unmetTotal = rows.countP fun row => row.Unmet registry measurements
  canAdvance : report.canAdvance = true ↔
    ∀ row ∈ rows, row.Unmet registry measurements → row.hard = false
  /-- The constraints of the unmet requirements, in the order of the requirements, are
  ranked as the listed ones and then those that are not listed. -/
  foremost : ∃ entries rest,
    List.Forall₂ (Requirement.ShownAs registry measurements)
      (rows.filter fun row => row.Unmet registry measurements) entries ∧
    BindingConstraint.Ranked entries (report.constraints ++ rest)
  length : report.constraints.length =
    min limit (rows.countP fun row => row.Unmet registry measurements)
  hardShown : (report.constraints.countP fun entry => entry.severity = .hard) =
    min (rows.countP fun row => row.Unmet registry measurements ∧ row.hard = true) limit
  /-- No hard constraint makes way for a soft one. -/
  spared : ∀ shown ∈ report.constraints, shown.severity = .soft →
    (report.constraints.countP fun entry => entry.severity = .hard) =
      rows.countP fun row => row.Unmet registry measurements ∧ row.hard = true

/-! ## Gaps -/

theorem Binary64.not_isNaN_max {a b : Binary64} (right : b.isNaN = false) :
    (a.max b).isNaN = false := by
  unfold max
  split
  · exact right
  · next number =>
      split
      · simpa using number
      · simp [right]

/-- A gap that is not positive is zero or less. -/
theorem Direction.gap_le_zero (direction : Direction) (current required : Binary64) :
    direction.gap current required ≤ 0 ↔ ¬ 0 < direction.gap current required := by
  have number : (0 : Binary64).isNaN = false := by rw [Binary64.zero_eq]; rfl
  have gap : (direction.gap current required).isNaN = false := Binary64.not_isNaN_max number
  rw [← Binary64.not_le gap number, Classical.not_not]

/-! ## The constraint of a requirement -/

namespace ConstraintReport

variable {registry : Registry} {measurements : Measurements} {row : Requirement}
  {rows : List Requirement} {entry : BindingConstraint}

/-- The constraint that a requirement makes, when it is unmet. -/
def constraint? (registry : Registry) (measurements : Measurements) (row : Requirement) :
    Option BindingConstraint :=
  (measured? measurements row).bind (unmet? registry)

theorem measured?_eq_some {measured : Requirement × Binary64} :
    measured? measurements row = some measured ↔
      measurements.find? row.test = some measured.2 ∧ measured.2.isFinite = true ∧
        row.minimum.isFinite = true ∧ measured.1 = row := by
  rcases measured with ⟨same, value⟩
  unfold measured?
  cases measurements.find? row.test with
  | none => simp
  | some found =>
      by_cases finite : found.isFinite = true
      · by_cases bound : row.minimum.isFinite = true
        · simp only [Option.bind_some, Binary64.finite?, finite, bound, if_true, bind,
            Option.some.injEq, Prod.mk.injEq, true_and]
          constructor
          · rintro ⟨rfl, rfl⟩
            exact ⟨rfl, finite, rfl⟩
          · rintro ⟨rfl, -, rfl⟩
            exact ⟨rfl, rfl⟩
        · simp [Binary64.finite?, finite, bound]
      · simp only [Option.bind_some, Binary64.finite?, finite, bind]
        constructor
        · intro impossible
          cases impossible
        · rintro ⟨⟨⟩, finite', -⟩
          exact absurd finite' finite

theorem isSome_measured? :
    (measured? measurements row).isSome = true ↔ row.Evaluated measurements := by
  rw [Option.isSome_iff_exists]
  constructor
  · rintro ⟨measured, found⟩
    obtain ⟨value, finite, bound, -⟩ := measured?_eq_some.mp found
    exact ⟨measured.2, value, finite, bound⟩
  · rintro ⟨value, found, finite, bound⟩
    exact ⟨(row, value), measured?_eq_some.mpr ⟨found, finite, bound, rfl⟩⟩

/-- A requirement that makes a constraint is unmet and shown by it. -/
theorem constraint?_eq_some (made : constraint? registry measurements row = some entry) :
    row.Unmet registry measurements ∧ row.ShownAs registry measurements entry := by
  obtain ⟨⟨same, value⟩, evaluated, unmet⟩ := Option.bind_eq_some_iff.mp made
  obtain ⟨found, finite, bound, rfl⟩ := measured?_eq_some.mp evaluated
  simp only [unmet?] at unmet
  split at unmet
  · cases unmet
  · next positive =>
      rw [Direction.gap_le_zero, Classical.not_not] at positive
      cases unmet
      refine ⟨⟨value, found, ⟨finite, bound⟩, positive⟩, rfl, rfl, ?_, found, rfl, rfl⟩
      cases same.hard <;> simp [Severity.ofHard]

theorem isSome_constraint? :
    (constraint? registry measurements row).isSome = true ↔
      row.Unmet registry measurements := by
  constructor
  · intro made
    obtain ⟨entry, made⟩ := Option.isSome_iff_exists.mp made
    exact (constraint?_eq_some made).1
  · rintro ⟨value, found, ⟨finite, bound⟩, positive⟩
    have evaluated : measured? measurements row = some (row, value) :=
      measured?_eq_some.mpr ⟨found, finite, bound, rfl⟩
    simp [constraint?, evaluated, unmet?, Direction.gap_le_zero, positive]

/-- The constraints of requirements show the unmet ones, in their order. -/
theorem shownAs_constraints (rows : List Requirement) :
    List.Forall₂ (Requirement.ShownAs registry measurements)
      (rows.filter fun row => row.Unmet registry measurements)
      (rows.filterMap (constraint? registry measurements)) := by
  induction rows with
  | nil => exact .nil
  | cons row rows ih =>
      cases made : constraint? registry measurements row with
      | none =>
          have met : ¬ row.Unmet registry measurements := by
            simp [← isSome_constraint?, made]
          simpa [List.filterMap_cons, made, met] using ih
      | some entry =>
          obtain ⟨unmet, shown⟩ := constraint?_eq_some made
          simpa [List.filterMap_cons, made, unmet] using List.Forall₂.cons shown ih

/-- A constraint has a positive gap. -/
theorem gap_pos (made : entry ∈ rows.filterMap (constraint? registry measurements)) :
    0 < entry.gap := by
  obtain ⟨row, -, made⟩ := List.mem_filterMap.mp made
  obtain ⟨⟨value, found, -, positive⟩, shown⟩ := constraint?_eq_some made
  obtain rfl : value = entry.current := Option.some.inj (found.symm.trans shown.current)
  rw [shown.gap]
  exact positive

/-- The hard constraints are those of the hard unmet requirements. -/
theorem countP_hard (rows : List Requirement) :
    ((rows.filterMap (constraint? registry measurements)).countP
        fun entry => entry.severity = .hard) =
      rows.countP fun row => row.Unmet registry measurements ∧ row.hard = true := by
  induction rows with
  | nil => rfl
  | cons row rows ih =>
      cases made : constraint? registry measurements row with
      | none =>
          have met : ¬ row.Unmet registry measurements := by
            simp [← isSome_constraint?, made]
          simp [made, met, ih]
      | some entry =>
          obtain ⟨unmet, shown⟩ := constraint?_eq_some made
          simp [made, unmet, ih, List.countP_cons, shown.severity]

end ConstraintReport

/-! ## Ranking -/

/-- Sorting keeps the order of members any two of which may stand before each other. -/
theorem filter_mergeSort_of_ties {Member : Type} {before : Member → Member → Bool}
    {tied : Member → Bool}
    (trans : ∀ a b c, before a b = true → before b c = true → before a c = true)
    (total : ∀ a b, (before a b || before b a) = true)
    (ties : ∀ a b, tied a = true → tied b = true → before a b = true) (members : List Member) :
    (members.mergeSort before).filter tied = members.filter tied := by
  -- what ties is in order, so the sort keeps it as a sublist; both sides are as long
  have inOrder : (members.filter tied).Pairwise fun a b => before a b = true :=
    (List.pairwise_of_forall fun _ _ => True.intro).imp_of_mem fun left right _ =>
      ties _ _ (List.mem_filter.mp left).2 (List.mem_filter.mp right).2
  have kept := (List.sublist_mergeSort trans total inOrder List.filter_sublist).filter tied
  simp only [List.filter_filter, Bool.and_self] at kept
  exact (kept.eq_of_length
    (((List.mergeSort_perm members before).filter tied).length_eq.symm)).symm

namespace BindingConstraint

variable {a b : BindingConstraint} {entries : List BindingConstraint} {limit : Nat}

/-- The three keys of the order, one after the other. -/
theorem isBefore_iff : a.isBefore b = true ↔
    a.severity.rank < b.severity.rank ∨ a.severity.rank = b.severity.rank ∧
      (b.gap.orderKey < a.gap.orderKey ∨ a.gap.orderKey = b.gap.orderKey ∧
        a.test.toNat ≤ b.test.toNat) := by
  have ranks : a.severity = b.severity ↔ a.severity.rank = b.severity.rank := by
    cases a.severity <;> cases b.severity <;> simp [Severity.rank]
  simp only [isBefore, ne_eq, ranks]
  split
  · simp only [decide_eq_true_eq]
    omega
  · split
    · simp only [decide_eq_true_eq]
      omega
    · simp only [decide_eq_true_eq, UInt8.le_iff_toNat_le]
      omega

theorem isBefore_trans (a b c : BindingConstraint) (first : a.isBefore b = true)
    (second : b.isBefore c = true) : a.isBefore c = true := by
  rw [isBefore_iff] at *
  omega

theorem isBefore_total (a b : BindingConstraint) : (a.isBefore b || b.isBefore a) = true := by
  rw [Bool.or_eq_true, isBefore_iff, isBefore_iff]
  omega

theorem isBefore_of_ties (tied : a.ties b = true) : a.isBefore b = true := by
  obtain ⟨severity, gap, test⟩ := of_decide_eq_true tied
  rw [isBefore_iff, severity, gap, test]
  omega

/-- Of two constraints with positive gaps the one that stands first is not preceded by
the other. -/
theorem not_precedes_of_isBefore (before : a.isBefore b = true) (left : 0 < a.gap)
    (right : 0 < b.gap) : ¬ b.Precedes a := by
  rw [isBefore_iff, Binary64.orderKey_of_pos left, Binary64.orderKey_of_pos right] at before
  rintro (⟨hard, soft⟩ | ⟨tied, larger⟩ | ⟨tied, same, lower⟩)
  · simp only [hard, soft, Severity.rank] at before
    omega
  · rw [Binary64.lt_iff (Binary64.not_isNaN_of_lt left).2 (Binary64.not_isNaN_of_lt right).2]
      at larger
    rw [tied] at before
    omega
  · rw [tied, same] at before
    rw [UInt8.lt_iff_toNat_lt] at lower
    omega

/-- Sorting keeps the order of the constraints that tie with one. -/
theorem filter_ties_mergeSort (entry : BindingConstraint) (entries : List BindingConstraint) :
    (entries.mergeSort isBefore).filter entry.ties = entries.filter entry.ties := by
  refine filter_mergeSort_of_ties isBefore_trans isBefore_total (fun a b left right => ?_) entries
  obtain ⟨severity, gap, test⟩ := of_decide_eq_true left
  obtain ⟨severity', gap', test'⟩ := of_decide_eq_true right
  exact isBefore_of_ties (decide_eq_true
    ⟨severity.symm.trans severity', gap.symm.trans gap', test.symm.trans test'⟩)

theorem ranked_mergeSort (positive : ∀ entry ∈ entries, 0 < entry.gap) :
    Ranked entries (entries.mergeSort isBefore) where
  perm := List.mergeSort_perm entries isBefore
  sorted := by
    refine (List.pairwise_mergeSort isBefore_trans isBefore_total
      entries).imp_of_mem ?_
    intro a b left right before
    exact not_precedes_of_isBefore before (positive a (List.mem_mergeSort.mp left))
      (positive b (List.mem_mergeSort.mp right))
  stable := fun entry => filter_ties_mergeSort entry entries

/-- Among the first of a list in which every hard constraint stands before the soft
ones are as many hard ones as there are and as fit. -/
theorem countP_hard_take {ranked : List BindingConstraint}
    (sorted : ranked.Pairwise fun a b => ¬ b.Precedes a) (limit : Nat) :
    ((ranked.take limit).countP fun entry => entry.severity = .hard) =
      min (ranked.countP fun entry => entry.severity = .hard) limit := by
  induction ranked generalizing limit with
  | nil => simp
  | cons entry rest ih =>
      obtain ⟨first, sorted⟩ := List.pairwise_cons.mp sorted
      cases limit with
      | zero => simp
      | succ limit =>
          rw [List.take_succ_cons, List.countP_cons, List.countP_cons, ih sorted]
          cases severity : entry.severity with
          | hard => simp only [decide_true, if_true]; omega
          | soft =>
              have soft : rest.countP (fun entry => entry.severity = .hard) = 0 := by
                rw [List.countP_eq_zero]
                intro other later hard
                exact first other later (.severity (of_decide_eq_true hard) severity)
              simp [soft]

end BindingConstraint

/-! ## Reports -/

namespace ConstraintReport

variable {registry : Registry} {settings : ConstraintSettings} {player : Uuid}
  {current target : Category} {gender : Gender} {measurements : Measurements}
  {rows : List Requirement} {origin : RequirementOrigin}

theorem ofRows_exact :
    (ofRows registry settings player current target gender measurements rows origin).Exact
      registry settings.maxBinding.toNat measurements rows := by
  -- the constraints before they are ranked, requirement by requirement
  let entries := rows.filterMap (constraint? registry measurements)
  have composed : (rows.filterMap (measured? measurements)).filterMap (unmet? registry) =
      entries := List.filterMap_filterMap
  have counted : entries.length = rows.countP fun row => row.Unmet registry measurements := by
    rw [List.length_filterMap_eq_countP]
    exact List.countP_congr fun row _ => by simp [isSome_constraint?]
  have ranked : BindingConstraint.Ranked entries (entries.mergeSort BindingConstraint.isBefore) :=
    BindingConstraint.ranked_mergeSort fun _ made => gap_pos made
  have listed : foremost settings.maxBinding.toNat entries =
      (entries.mergeSort BindingConstraint.isBefore).take settings.maxBinding.toNat := rfl
  have hards := BindingConstraint.countP_hard_take ranked.sorted settings.maxBinding.toNat
  rw [ranked.perm.countP_eq, countP_hard, ← listed] at hards
  have length : (foremost settings.maxBinding.toNat entries).length =
      min settings.maxBinding.toNat (rows.countP fun row => row.Unmet registry measurements) := by
    rw [listed, List.length_take, ranked.perm.length_eq, counted]
  constructor <;> simp only [ofRows, composed]
  case evaluated =>
    rw [List.length_filterMap_eq_countP]
    exact List.countP_congr fun row _ => by simp [isSome_measured?]
  case unmetTotal => exact counted
  case canAdvance =>
    have none : (entries.all fun entry => entry.severity ≠ .hard) = true ↔
        entries.countP (fun entry => entry.severity = .hard) = 0 := by
      simp [List.countP_eq_zero]
    rw [none, countP_hard, List.countP_eq_zero]
    simp
  case foremost =>
    exact ⟨entries, (entries.mergeSort BindingConstraint.isBefore).drop
      settings.maxBinding.toNat, shownAs_constraints rows, by
        rw [listed, List.take_append_drop]; exact ranked⟩
  case length => exact length
  case hardShown => exact hards
  case spared =>
    intro shown found soft
    -- a soft constraint takes one of the places, so the hard ones do not fill them
    have room : (foremost settings.maxBinding.toNat entries).countP
        (fun entry => entry.severity = .hard) <
        (foremost settings.maxBinding.toNat entries).length := by
      refine Nat.lt_of_le_of_ne List.countP_le_length fun full => ?_
      have hard := List.countP_eq_length.mp full shown found
      simp [soft] at hard
    omega

end ConstraintReport

/-- **The report of every analysis whose requirements load is exact**, whatever the
requirements, the measurements, the registry and the settings. -/
theorem report_exact {Store : Type} [RequirementStore Store] (registry : Registry)
    (settings : ConstraintSettings) (player : Uuid) {category target : Category}
    (gender : Gender) (measurements : Measurements) {state after : AnalysisState Store}
    {rows : List Requirement} {origin : RequirementOrigin}
    (next : category.nextUp = some target)
    (loaded : state.load registry target gender = (.ok (rows, origin), after)) :
    ∃ report,
      state.compute registry settings player category gender measurements =
        (.ok report, after) ∧
      report.Exact registry settings.maxBinding.toNat measurements rows := by
  refine ⟨.ofRows registry settings player category target gender measurements rows origin, ?_,
    ConstraintReport.ofRows_exact⟩
  simp only [AnalysisState.compute, next, loaded]

/-! ## A player short of category A -/

namespace Promotion

/-- A registry in which test 5 is better low. -/
def registry : Registry :=
  .ofCatalog ⟨[⟨5, "PUTTS", "Putts", "n", .lowerBetter, .putting, false, ⟨[], []⟩⟩]⟩

def row (test : UInt8) (minimum : Nat) (hard : Bool) : Requirement :=
  { category := .a, gender := .male, test, minimum := .ofNat minimum, hard, domain := .teeShots }

/-- The fourth requirement is met and the fifth was not measured.  The hard ones among
the others have equal gaps, and the soft one has a larger gap. -/
def rows : List Requirement :=
  [row 7 100 true, row 5 20 false, row 2 200 true, row 3 50 true, row 9 1 true]

def measurements : Measurements :=
  ⟨[(7, .ofNat 90), (5, .ofNat 30), (2, .ofNat 180), (3, .ofNat 60)]⟩

def state : AnalysisState MemoryRequirements := ⟨{ rows }, {}⟩

end Promotion

/-- With room for two, the report of the player lists the hard constraints and leaves
out the soft one, which has the largest gap. -/
theorem report_exact_promotion :
    Category.b.nextUp = some .a ∧
    (Promotion.state.load Promotion.registry .a .male).1 = .ok (Promotion.rows, .store) ∧
    ∃ report,
      (Promotion.state.compute Promotion.registry { maxBinding := 2 } ⟨1⟩ .b .male
        Promotion.measurements).1 = .ok report ∧
      report.Exact Promotion.registry 2 Promotion.measurements Promotion.rows ∧
      report.evaluated = 4 ∧ report.unmetTotal = 3 ∧ report.constraints.length = 2 ∧
      (report.constraints.countP fun entry => entry.severity = .hard) = 2 := by
  have loaded : Promotion.state.load Promotion.registry .a .male =
      (.ok (Promotion.rows, .store),
        (Promotion.state.load Promotion.registry .a .male).2) := rfl
  have next : Category.b.nextUp = some .a := rfl
  obtain ⟨report, computed, exact⟩ := report_exact Promotion.registry { maxBinding := 2 } ⟨1⟩
    .male Promotion.measurements next loaded
  exact ⟨next, congrArg Prod.fst loaded, report, congrArg Prod.fst computed, exact,
    exact.evaluated.trans (by decide +kernel), exact.unmetTotal.trans (by decide +kernel),
    exact.length.trans (by decide +kernel), exact.hardShown.trans (by decide +kernel)⟩

end GolfProgress
