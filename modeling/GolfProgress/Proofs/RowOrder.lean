import GolfProgress.Proofs.CacheRuns
import GolfProgress.Proofs.Reports
import Mathlib.Data.List.Nodup

/-!
# The order of requirements does not matter

Where no two requirements are of one test, each makes at most one constraint, and no two
constraints tie.  So the order of the constraints is strict, and all permutations of the
requirements are ranked alike (`BindingConstraint.mergeSort_eq_of_perm`).

`order_of_rows_irrelevant` says that two stores that list the same requirements in any order lead
to reports that agree, also when the measurements differ, as long as they do not differ on
the tests of the requirements in force.  These are the listed ones of the gender, and where
there is none, those that the registry implies; so the tests of the listed ones alone are not
enough (`measurements_of_implied_requirements_count`).  Only the score is left out: it sums the
gaps up in the order of the requirements, and sums of rounded numbers depend on it.
-/

set_option autoImplicit false

namespace GolfProgress

/-! ## Reports that agree -/

/-- Two reports list the same constraints, count the same requirements as evaluated and as
unmet, let the player advance alike, and go by requirements of one origin. -/
structure ConstraintReport.Agrees (report other : ConstraintReport) : Prop where
  constraints : report.constraints = other.constraints
  canAdvance : report.canAdvance = other.canAdvance
  evaluated : report.evaluated = other.evaluated
  unmetTotal : report.unmetTotal = other.unmetTotal
  origin : report.origin = other.origin

/-- Two analyses fail with one failure, or give reports that agree. -/
inductive ConstraintReport.AgreeOrFail :
    Except Failure ConstraintReport → Except Failure ConstraintReport → Prop where
  | failed (failure : Failure) : AgreeOrFail (.error failure) (.error failure)
  | reported {report other : ConstraintReport} (agrees : report.Agrees other) :
      AgreeOrFail (.ok report) (.ok other)

theorem ConstraintReport.AgreeOrFail.evaluated {answer other : Except Failure ConstraintReport}
    (alike : AgreeOrFail answer other) :
    answer.toOption.map (·.evaluated) = other.toOption.map (·.evaluated) := by
  cases alike with
  | failed failure => rfl
  | reported agrees => exact congrArg some agrees.evaluated

/-! ## Ranking permutations -/

namespace BindingConstraint

/-- Constraints that stand before each other are of one test. -/
theorem test_eq_of_isBefore {a b : BindingConstraint} (first : a.isBefore b = true)
    (second : b.isBefore a = true) : a.test = b.test := by
  rw [isBefore_iff] at first second
  exact UInt8.toNat_inj.mp (by omega)

/-- **All permutations of constraints on distinct tests are ranked alike.** -/
theorem mergeSort_eq_of_perm {entries others : List BindingConstraint}
    (perm : entries.Perm others) (distinct : (entries.map (·.test)).Nodup) :
    entries.mergeSort isBefore = others.mergeSort isBefore := by
  have sorted (some : List BindingConstraint) :
      (some.mergeSort isBefore).Pairwise fun a b => a.isBefore b = true :=
    List.pairwise_mergeSort isBefore_trans isBefore_total some
  have same : (entries.mergeSort isBefore).Perm (others.mergeSort isBefore) :=
    (List.mergeSort_perm entries _).trans (perm.trans (List.mergeSort_perm others _).symm)
  refine same.eq_of_pairwise (fun a b left right first second => ?_) (sorted _) (sorted _)
  exact List.inj_on_of_nodup_map distinct (List.mem_mergeSort.mp left)
    (perm.mem_iff.mpr (List.mem_mergeSort.mp right)) (test_eq_of_isBefore first second)

end BindingConstraint

/-! ## Reports on permutations -/

namespace ConstraintReport

variable {registry : Registry} {settings : ConstraintSettings} {player : Uuid}
  {current target : Category} {gender : Gender} {values others : Measurements}
  {rows permuted : List Requirement} {origin : RequirementOrigin}

/-- The tests of constraints are among those of the requirements that make them, each as
often at most. -/
theorem tests_sublist (rows : List Requirement) :
    ((rows.filterMap (constraint? registry values)).map (·.test)).Sublist
      (rows.map (·.test)) := by
  induction rows with
  | nil => exact .slnil
  | cons row rows ih =>
      cases made : constraint? registry values row with
      | none =>
          rw [List.filterMap_cons_none made]
          exact ih.cons _
      | some entry =>
          rw [List.filterMap_cons_some made, List.map_cons, List.map_cons,
            (constraint?_eq_some made).2.test]
          exact ih.cons_cons _

/-- Measurements that agree on the tests of requirements lead to one report on them. -/
theorem ofRows_congr
    (agree : ∀ row ∈ rows, values.find? row.test = others.find? row.test) :
    ofRows registry settings player current target gender values rows origin =
      ofRows registry settings player current target gender others rows origin := by
  have measured : rows.filterMap (measured? values) = rows.filterMap (measured? others) :=
    List.filterMap_congr fun row held => by simp only [measured?, agree row held]
  simp only [ofRows, measured]

/-- Reports on permutations of requirements of distinct tests agree. -/
theorem ofRows_perm (perm : rows.Perm permuted) (distinct : (rows.map (·.test)).Nodup) :
    (ofRows registry settings player current target gender values rows origin).Agrees
      (ofRows registry settings player current target gender values permuted origin) := by
  have composed (rows : List Requirement) :
      (rows.filterMap (measured? values)).filterMap (unmet? registry) =
        rows.filterMap (constraint? registry values) := List.filterMap_filterMap
  have unmet := perm.filterMap (constraint? registry values)
  have ranked : foremost settings.maxBinding.toNat (rows.filterMap (constraint? registry values)) =
      foremost settings.maxBinding.toNat (permuted.filterMap (constraint? registry values)) := by
    unfold foremost
    rw [BindingConstraint.mergeSort_eq_of_perm unmet (distinct.sublist (tests_sublist rows))]
  constructor <;> simp only [ofRows, composed]
  case constraints => exact ranked
  case canAdvance => exact unmet.all_eq
  case evaluated => exact (perm.filterMap (measured? values)).length_eq
  case unmetTotal => exact unmet.length_eq

end ConstraintReport

/-! ## Requirements that a store lists -/

/-- A state has no entry for a key, and its store lists some requirements when it is asked for
the key. -/
structure AnalysisState.Lists {Store : Type} [RequirementStore Store]
    (state : AnalysisState Store) (target : Category) (gender : Gender)
    (rows : List Requirement) : Prop where
  missing : state.cache.find? target gender = none
  listed : (RequirementStore.list state.store target gender).1 = .ok rows

/-- The requirements of a gender. -/
def Requirement.ofGender (gender : Gender) (rows : List Requirement) : List Requirement :=
  rows.filter fun row => row.gender = gender

/-- The requirements by which an analysis goes when its store lists some: those of the gender,
or, when there are none, those that the registry implies. -/
def Registry.inForce (registry : Registry) (target : Category) (gender : Gender)
    (rows : List Requirement) : List Requirement :=
  if Requirement.ofGender gender rows = [] then registry.requirements target gender
  else Requirement.ofGender gender rows

/-- Where a store lists some requirements, an analysis goes by those of the gender; when there
are none, the registry stands in. -/
theorem AnalysisState.Lists.load_eq {Store : Type} [RequirementStore Store]
    {state : AnalysisState Store} {target : Category} {gender : Gender} {rows : List Requirement}
    (lists : state.Lists target gender rows) (registry : Registry) :
    (state.load registry target gender).1 =
      if Requirement.ofGender gender rows = [] then registry.fallback target gender
      else .ok (Requirement.ofGender gender rows, .store) :=
  load_of_listed lists.missing lists.listed

/-- The requirements of the registry, when there are any, are what is fallen back to. -/
theorem Registry.fallback_eq_ok {registry : Registry} {target : Category} {gender : Gender}
    {rows : List Requirement} {origin : RequirementOrigin}
    (loaded : registry.fallback target gender = .ok (rows, origin)) :
    rows = registry.requirements target gender := by
  unfold fallback at loaded
  split at loaded
  · cases loaded
  · cases loaded
    rfl

/-- **The order of requirements does not matter.**  Two stores list the same requirements, of
distinct tests, each in an order of its own, and the measurements agree on the tests of the
requirements that are in force.  Then the two analyses give reports that agree, or neither
has any requirements to go by; and where a requirement of the gender is listed, they do give
reports, on the requirements of the store. -/
theorem order_of_rows_irrelevant {Store Other : Type} [RequirementStore Store]
    [RequirementStore Other] (registry : Registry) (settings : ConstraintSettings) (player : Uuid)
    {category target : Category} (gender : Gender) {values others : Measurements}
    {state : AnalysisState Store} {other : AnalysisState Other} {rows permuted : List Requirement}
    (next : category.nextUp = some target) (lists : state.Lists target gender rows)
    (lists' : other.Lists target gender permuted) (perm : rows.Perm permuted)
    (distinct : (rows.map (·.test)).Nodup)
    (agree : ∀ row ∈ registry.inForce target gender rows,
      values.find? row.test = others.find? row.test) :
    ConstraintReport.AgreeOrFail
      (state.compute registry settings player category gender values).1
      (other.compute registry settings player category gender others).1 ∧
    ((∃ row ∈ rows, row.gender = gender) → ∃ report,
      (state.compute registry settings player category gender values).1 = .ok report ∧
        report.origin = .store) := by
  have kept : (Requirement.ofGender gender rows).Perm (Requirement.ofGender gender permuted) :=
    perm.filter _
  have apart : ((Requirement.ofGender gender rows).map (·.test)).Nodup :=
    distinct.sublist (List.filter_sublist.map _)
  rw [AnalysisState.compute_of_next next, AnalysisState.compute_of_next next]
  unfold Registry.inForce at agree
  by_cases empty : Requirement.ofGender gender rows = []
  · have empty' : Requirement.ofGender gender permuted = [] := List.perm_nil.mp (empty ▸ kept.symm)
    rw [lists.load_eq, lists'.load_eq, if_pos empty, if_pos empty']
    rw [if_pos empty] at agree
    constructor
    · cases loaded : registry.fallback target gender with
      | error failure => exact .failed failure
      | ok result =>
          obtain ⟨implied, origin⟩ := result
          obtain rfl := Registry.fallback_eq_ok loaded
          simp only [Except.map]
          rw [ConstraintReport.ofRows_congr agree]
          exact .reported ⟨rfl, rfl, rfl, rfl, rfl⟩
    · rintro ⟨row, held, same⟩
      have inside : row ∈ Requirement.ofGender gender rows :=
        List.mem_filter.mpr ⟨held, decide_eq_true same⟩
      rw [empty] at inside
      cases inside
  · have nonempty : Requirement.ofGender gender permuted ≠ [] := fun empty' =>
      empty (List.perm_nil.mp (empty' ▸ kept))
    rw [lists.load_eq, lists'.load_eq, if_neg empty, if_neg nonempty]
    rw [if_neg empty] at agree
    simp only [Except.map]
    constructor
    · rw [ConstraintReport.ofRows_congr agree]
      exact .reported (ConstraintReport.ofRows_perm kept apart)
    · exact fun _ => ⟨_, rfl, rfl⟩

/-! ## The rows of a promotion backwards -/

namespace Promotion

/-- A store with the same rows the other way round. -/
def reversed : AnalysisState MemoryRequirements := ⟨{ rows := rows.reverse }, {}⟩

/-- The same measurements, and one of a test that no row is about. -/
def moreMeasurements : Measurements := ⟨(11, .ofNat 1) :: measurements.values⟩

end Promotion

/-- The player who is short of category A gets reports that agree from the rows and from the
reversed rows. -/
theorem order_of_rows_irrelevant_promotion :
    Promotion.state.Lists .a .male Promotion.rows ∧
    Promotion.reversed.Lists .a .male Promotion.rows.reverse ∧
    ∃ report other,
      (Promotion.state.compute Promotion.registry { maxBinding := 2 } ⟨1⟩ .b .male
        Promotion.measurements).1 = .ok report ∧
      (Promotion.reversed.compute Promotion.registry { maxBinding := 2 } ⟨1⟩ .b .male
        Promotion.moreMeasurements).1 = .ok other ∧
      report.Agrees other ∧ report.origin = .store := by
  have next : Category.b.nextUp = some .a := rfl
  have lists : Promotion.state.Lists .a .male Promotion.rows := ⟨rfl, by rfl⟩
  have lists' : Promotion.reversed.Lists .a .male Promotion.rows.reverse := ⟨rfl, by rfl⟩
  have agree : ∀ row ∈ Promotion.registry.inForce .a .male Promotion.rows,
      Promotion.measurements.find? row.test = Promotion.moreMeasurements.find? row.test := by
    decide +kernel
  obtain ⟨alike, served⟩ := order_of_rows_irrelevant Promotion.registry { maxBinding := 2 } ⟨1⟩
    .male next lists lists' (List.reverse_perm _).symm (by decide +kernel) agree
  obtain ⟨report, computed, store⟩ :=
    served ⟨Promotion.row 7 100 true, by simp [Promotion.rows], rfl⟩
  rw [computed] at alike
  cases computed' : (Promotion.reversed.compute Promotion.registry { maxBinding := 2 } ⟨1⟩ .b .male
      Promotion.moreMeasurements).1 with
  | error failure => rw [computed'] at alike; cases alike
  | ok other =>
      rw [computed'] at alike
      cases alike with
      | reported agrees => exact ⟨lists, lists', report, other, computed, rfl, agrees, store⟩

/-! ## Requirements that are not listed -/

namespace Promotion

/-- A registry that implies a requirement of 30 putts at most. -/
def implying : Registry :=
  .ofCatalog ⟨[⟨5, "PUTTS", "Putts", "n", .lowerBetter, .putting, false, ⟨[.ofNat 30], []⟩⟩]⟩

end Promotion

/-- Measurements that agree on the tests of the listed requirements are not enough: where none is
listed, a measurement counts that falls short of what the registry implies. -/
theorem measurements_of_implied_requirements_count :
    ¬ ∀ (registry : Registry) (settings : ConstraintSettings) (player : Uuid)
      (category target : Category) (gender : Gender) (values others : Measurements)
      (state other : AnalysisState MemoryRequirements) (rows permuted : List Requirement),
      category.nextUp = some target → state.Lists target gender rows →
      other.Lists target gender permuted → rows.Perm permuted → (rows.map (·.test)).Nodup →
      (∀ row ∈ rows, values.find? row.test = others.find? row.test) →
      ConstraintReport.AgreeOrFail
        (state.compute registry settings player category gender values).1
        (other.compute registry settings player category gender others).1 := by
  intro claimed
  have lists : (⟨{ rows := [] }, {}⟩ : AnalysisState MemoryRequirements).Lists .a .male [] :=
    ⟨rfl, rfl⟩
  have alike := claimed Promotion.implying {} ⟨1⟩ .b .a .male ⟨[]⟩ ⟨[(5, .ofNat 33)]⟩ _ _ [] [] rfl
    lists lists .nil List.nodup_nil (by simp)
  exact absurd alike.evaluated (by decide +kernel)

end GolfProgress
