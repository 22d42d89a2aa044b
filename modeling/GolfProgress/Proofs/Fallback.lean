import GolfProgress.Proofs.CatalogEntries
import GolfProgress.Proofs.RowOrder

/-!
# The registry in place of the store

A store is of no use to an analysis when it cannot be reached, and when no requirement that it
lists is of the gender (`RequirementStore.Barren`).  The analysis then goes by the requirements
that the registry implies, and this is as if a store had listed just these: the two loads come
down to one case distinction, whether there are any (`AnalysisState.load_of_barren`,
`AnalysisState.Lists.load_requirements`).

`registry_stands_in` draws the conclusion for the reports.  It also says when there are no
requirements to go by, in terms of the catalog, and that any other failure of a store is reported
and not covered up.
-/

set_option autoImplicit false

namespace GolfProgress

/-! ## Stores that are of no use -/

section Stores

variable {Store : Type} [RequirementStore Store]

/-- A store cannot be reached, or lists no requirement of the gender. -/
inductive RequirementStore.Barren (store : Store) (target : Category) (gender : Gender) :
    Prop where
  | unreachable (reason : String)
      (answered : (list store target gender).1 = .error (.unavailable reason)) :
      Barren store target gender
  | empty (rows : List Requirement) (answered : (list store target gender).1 = .ok rows)
      (others : ∀ row ∈ rows, row.gender ≠ gender) : Barren store target gender

/-- A store is reached and fails. -/
structure RequirementStore.Fails (store : Store) (target : Category) (gender : Gender)
    (failure : StoreFailure) : Prop where
  answered : (list store target gender).1 = .error failure
  reached : ∀ reason, failure ≠ .unavailable reason

namespace AnalysisState

variable {state : AnalysisState Store} {target : Category} {gender : Gender}

/-- Where a store is of no use the registry stands in. -/
theorem load_of_barren (missing : state.cache.find? target gender = none)
    (barren : RequirementStore.Barren state.store target gender) (registry : Registry) :
    (state.load registry target gender).1 = registry.fallback target gender := by
  cases barren with
  | unreachable reason answered =>
      rcases reply : RequirementStore.list state.store target gender with ⟨answer, after⟩
      obtain rfl : answer = .error (.unavailable reason) := by simpa only [reply] using answered
      simp only [load, RequirementCache.get, missing, reply]
  | empty rows answered others =>
      have none : (rows.filter fun row => row.gender = gender) = [] :=
        List.filter_eq_nil_iff.mpr fun row held => by simpa using others row held
      rw [load_of_listed missing answered, if_pos none]

/-- Another failure of a store is passed on. -/
theorem load_of_fails {failure : StoreFailure} (missing : state.cache.find? target gender = none)
    (fails : RequirementStore.Fails state.store target gender failure) (registry : Registry) :
    (state.load registry target gender).1 = .error (.store failure) := by
  rcases reply : RequirementStore.list state.store target gender with ⟨answer, after⟩
  obtain rfl : answer = .error failure := by simpa only [reply] using fails.answered
  cases failure with
  | unavailable reason => exact absurd rfl (fails.reached reason)
  | versionConflict | notFound | invalidRecord =>
      simp only [load, RequirementCache.get, missing, reply]

end AnalysisState

end Stores

/-! ## The requirements of the registry -/

section Requirements

variable {target : Category} {gender : Gender}

/-- The failure that there are no requirements to go by. -/
def Registry.unstated (target : Category) (gender : Gender) : Failure :=
  .notFound "requirement set" (target.code ++ "/" ++ gender.code)

theorem Registry.fallback_eq (registry : Registry) (target : Category) (gender : Gender) :
    registry.fallback target gender =
      if registry.requirements target gender = [] then .error (unstated target gender)
      else .ok (registry.requirements target gender, .builtinFallback) := by
  unfold fallback
  split
  · next none => rw [none, if_pos rfl, unstated]
  · next some => rw [if_neg some]

/-- The registry implies requirements of the gender that it is asked for. -/
theorem Registry.ofGender_requirements (registry : Registry) (target : Category)
    (gender : Gender) :
    Requirement.ofGender gender (registry.requirements target gender) =
      registry.requirements target gender := by
  refine List.filter_eq_self.mpr fun row held => ?_
  obtain ⟨metric, -, implied⟩ := List.mem_filterMap.mp held
  obtain ⟨minimum, -, rfl⟩ := Option.map_eq_some_iff.mp implied
  exact decide_eq_true rfl

/-- A store that lists the requirements of the registry serves them, if there are any. -/
theorem AnalysisState.Lists.load_requirements {Store : Type} [RequirementStore Store]
    {state : AnalysisState Store} {registry : Registry}
    (lists : state.Lists target gender (registry.requirements target gender)) :
    (state.load registry target gender).1 =
      if registry.requirements target gender = [] then .error (Registry.unstated target gender)
      else .ok (registry.requirements target gender, .store) := by
  rw [lists.load_eq, registry.ofGender_requirements, registry.fallback_eq]
  split <;> rfl

/-- The last entry of some test has a target for a category and gender. -/
def Catalog.HasTarget (catalog : Catalog) (target : Category) (gender : Gender) : Prop :=
  ∃ test entry value, catalog.last? test = some entry ∧
    entry.targets.find? target gender = some value

/-- The registry implies a requirement exactly when the catalog has a target. -/
theorem Registry.requirements_ne_nil {catalog : Catalog} :
    (ofCatalog catalog).requirements target gender ≠ [] ↔ catalog.HasTarget target gender := by
  rw [requirements, ne_eq, List.filterMap_eq_nil_iff, not_forall]
  constructor
  · rintro ⟨metric, present⟩
    obtain ⟨member, implied⟩ := Classical.not_imp.mp present
    obtain ⟨row, implied⟩ := Option.ne_none_iff_exists'.mp implied
    obtain ⟨value, aims, -⟩ := Option.map_eq_some_iff.mp implied
    have kept := mem_metrics_iff.mp member
    rw [ofTest?_ofCatalog] at kept
    obtain ⟨entry, last, rfl⟩ := Option.map_eq_some_iff.mp kept
    exact ⟨_, entry, value, last, aims⟩
  · rintro ⟨test, entry, value, last, aims⟩
    obtain ⟨-, rfl⟩ := Catalog.of_last? last
    have member : entry.metric ∈ (ofCatalog catalog).metrics :=
      mem_metrics_iff.mpr ((ofTest?_ofCatalog catalog entry.test).trans (congrArg _ last))
    refine ⟨entry.metric, fun absent => ?_⟩
    have none : entry.targets.find? target gender = none :=
      Option.map_eq_none_iff.mp (absent member)
    rw [aims] at none
    cases none

end Requirements

/-- **The registry stands in as a store of its requirements would.**  An analysis has no entry
for the category that the player is to advance into, and another one has a store that lists the
requirements which the registry of a catalog implies for it.  When the store of the first is of
no use, its result is that of the second, with the origin of the requirements told; so the two
give a report, or fail for want of requirements, which is when the catalog has no target for the
category and gender.  Any other failure of the store is the result. -/
theorem registry_stands_in {Store Other : Type} [RequirementStore Store] [RequirementStore Other]
    (catalog : Catalog) (settings : ConstraintSettings) (player : Uuid) (category : Category)
    (gender : Gender) (measurements : Measurements) {state : AnalysisState Store}
    {stocked : AnalysisState Other}
    (missing : ∀ target, category.nextUp = some target →
      state.cache.find? target gender = none)
    (lists : ∀ target, category.nextUp = some target →
      stocked.Lists target gender ((Registry.ofCatalog catalog).requirements target gender)) :
    let result :=
      (state.compute (.ofCatalog catalog) settings player category gender measurements).1
    let served :=
      (stocked.compute (.ofCatalog catalog) settings player category gender measurements).1
    ((∀ target, category.nextUp = some target →
        RequirementStore.Barren state.store target gender) →
      result = served.map fun report => { report with origin := .builtinFallback }) ∧
    (∀ report, served = .ok report → report.origin = .store) ∧
    (∀ target, category.nextUp = some target →
      (served = .error (Registry.unstated target gender) ↔ ¬ catalog.HasTarget target gender)) ∧
    ∀ target failure, category.nextUp = some target →
      RequirementStore.Fails state.store target gender failure →
      result = .error (.store failure) := by
  dsimp only
  cases next : category.nextUp with
  | none =>
      rw [AnalysisState.compute_of_best next, AnalysisState.compute_of_best next]
      simp [Except.map]
  | some target =>
      have stocks := (lists target next).load_requirements
      rw [AnalysisState.compute_of_next next, AnalysisState.compute_of_next next]
      refine ⟨fun barren => ?_, fun report computed => ?_, ?_, ?_⟩
      · rw [AnalysisState.load_of_barren (missing target next) (barren target rfl), stocks,
          Registry.fallback_eq]
        split
        · rfl
        · simp only [Except.map, ConstraintReport.ofRows]
      · rw [stocks] at computed
        split at computed
        · cases computed
        · obtain rfl := Except.ok.inj computed
          rfl
      · rintro _ ⟨⟩
        rw [stocks, ← Registry.requirements_ne_nil, not_not]
        split
        · next none => simp [Except.map, none]
        · next some => simp [Except.map, some]
      · rintro _ failure ⟨⟩ fails
        rw [AnalysisState.load_of_fails (missing target next) fails]
        rfl

/-! ## A store that goes out of reach -/

namespace Outage

/-- Category A asks men for a carry; category B asks nobody for anything. -/
def catalog : Catalog :=
  ⟨[⟨1, "CARRY", "Carry", "m", .higherBetter, .teeShots, true, ⟨[270], []⟩⟩]⟩

def offline : AnalysisState MemoryRequirements := ⟨{ rows := [], available := false }, {}⟩

def failing : AnalysisState MemoryRequirements :=
  ⟨{ rows := [], failure := some (.invalidRecord "row 3") }, {}⟩

/-- A store of all that the registry implies for men of a category. -/
def stocked (target : Category) : AnalysisState MemoryRequirements :=
  ⟨{ rows := (Registry.ofCatalog catalog).requirements target .male }, {}⟩

def measurements : Measurements := ⟨[(1, .ofNat 260)]⟩

end Outage

/-- A man short of category A gets the same report from a store that is offline and from one
that lists the requirement, a man short of category B gets the same failure, and a failure of the
store itself is told. -/
theorem registry_stands_in_outage :
    let result (state : AnalysisState MemoryRequirements) (category : Category) :=
      (state.compute (.ofCatalog Outage.catalog) {} ⟨1⟩ category .male Outage.measurements).1
    (∃ report, result (Outage.stocked .a) .b = .ok report ∧ report.unmetTotal = 1 ∧
      result Outage.offline .b = .ok { report with origin := .builtinFallback }) ∧
    result (Outage.stocked .b) .c = .error (Registry.unstated .b .male) ∧
    result Outage.offline .c = .error (Registry.unstated .b .male) ∧
    result Outage.failing .b = .error (.store (.invalidRecord "row 3")) := by
  intro result
  have lists (target : Category) : (Outage.stocked target).Lists target .male
      ((Registry.ofCatalog Outage.catalog).requirements target .male) := by
    cases target <;> exact ⟨rfl, by decide +kernel⟩
  have barren (target : Category) : RequirementStore.Barren Outage.offline.store target .male :=
    .unreachable _ rfl
  have fails : RequirementStore.Fails Outage.failing.store .a .male (.invalidRecord "row 3") :=
    ⟨rfl, by simp⟩
  have missing (category : Category) : Outage.offline.cache.find? category .male = none := rfl
  have missing' (category : Category) : Outage.failing.cache.find? category .male = none := rfl
  have toA := registry_stands_in Outage.catalog {} ⟨1⟩ .b .male Outage.measurements
    (fun target _ => missing target) (by rintro _ ⟨⟩; exact lists .a)
  have toB := registry_stands_in Outage.catalog {} ⟨1⟩ .c .male Outage.measurements
    (fun target _ => missing target) (by rintro _ ⟨⟩; exact lists .b)
  have failed := registry_stands_in Outage.catalog {} ⟨1⟩ .b .male Outage.measurements
    (fun target _ => missing' target) (by rintro _ ⟨⟩; exact lists .a)
  have untargeted : ¬ Outage.catalog.HasTarget .b .male := by
    rw [← Registry.requirements_ne_nil]
    decide +kernel
  have unstated := (toB.2.2.1 .b rfl).mpr untargeted
  refine ⟨?_, unstated, ?_, failed.2.2.2 .a _ rfl fails⟩
  · have counted : (result (Outage.stocked .a) .b).toOption.map (·.unmetTotal) = some 1 := by
      decide +kernel
    cases computed : result (Outage.stocked .a) .b with
    | error failure => rw [computed] at counted; cases counted
    | ok report =>
        rw [computed] at counted
        refine ⟨report, rfl, Option.some.inj counted, ?_⟩
        rw [show result Outage.offline .b = _ from toA.1 fun target _ => barren target]
        exact congrArg (Except.map _) computed
  · rw [show result Outage.offline .c = _ from toB.1 fun target _ => barren target, unstated]
    rfl

end GolfProgress
