import GolfProgress.Requirements.Basic
import GolfProgress.Registry.Builtin
import Mathlib.Data.List.Induction

/-!
# The registry of a catalog that repeats itself

A catalog may have several entries of one test number.  The registry keeps the metric
of the last of them (`Registry.ofTest?_ofCatalog`), but a test stays a hard requirement
once any of its entries has said so (`Registry.isHard_ofCatalog`).  The two come from
the same entry except where the last entry of a test is soft and an earlier one is
hard; `Catalog.softens` says where that is.

`registry_of_catalog` puts this together, and says what it means for the rows that the
registry implies: there is one for each test whose last entry has a target, in
ascending order of the tests, with the target and the domain of that entry.
-/

set_option autoImplicit false

namespace GolfProgress

/-! ## Metrics in their places -/

namespace Registry

variable {metric : Metric} {metrics : List Metric}

/-- A metric that was put in its place is found under its test, and those of other tests
are found as before. -/
theorem find?_place (metric : Metric) (metrics : List Metric) (test : UInt8) :
    (place metric metrics).find? (fun placed => placed.test = test) =
      if metric.test = test then some metric
      else metrics.find? fun placed => placed.test = test := by
  induction metrics with
  | nil => by_cases same : metric.test = test <;> simp [place, same]
  | cons head rest ih =>
      simp only [place]
      split
      · simp only [List.find?_cons]
        by_cases same : metric.test = test <;> simp [same]
      · split
        · next replaced =>
            simp only [List.find?_cons, replaced]
            by_cases same : head.test = test <;> simp [same]
        · next apart =>
            simp only [List.find?_cons, ih]
            by_cases same : head.test = test
            · have other : metric.test ≠ test := fun here => apart (here.trans same.symm)
              simp [same, other]
            · simp [same]

end Registry

/-! ## Entries of a test -/

namespace Catalog

/-- The last entry of a test number. -/
def last? (catalog : Catalog) (test : UInt8) : Option CatalogEntry :=
  (catalog.entries.filter fun entry => entry.test = test).getLast?

/-- Whether the last entry of a test is soft although another one is hard. -/
def softens (catalog : Catalog) (test : UInt8) : Bool :=
  (catalog.last? test).any (fun entry => !entry.hard) &&
    catalog.entries.any fun entry => entry.test = test && entry.hard

theorem last?_concat (entries : List CatalogEntry) (entry : CatalogEntry) (test : UInt8) :
    last? ⟨entries ++ [entry]⟩ test =
      if entry.test = test then some entry else last? ⟨entries⟩ test := by
  by_cases same : entry.test = test <;> simp [last?, List.filter_append, same]

theorem of_last? {catalog : Catalog} {test : UInt8} {entry : CatalogEntry}
    (last : catalog.last? test = some entry) : entry ∈ catalog.entries ∧ entry.test = test := by
  simpa using List.mem_filter.mp (List.mem_of_getLast? last)

end Catalog

/-- The requirement that an entry implies for a category and gender, when it has a
target for them. -/
def CatalogEntry.requirement? (entry : CatalogEntry) (category : Category) (gender : Gender) :
    Option Requirement :=
  (entry.targets.find? category gender).map fun minimum =>
    { category, gender, test := entry.test, minimum, hard := entry.hard, domain := entry.domain }

/-! ## The registry -/

namespace Registry

variable {catalog : Catalog}

theorem metrics_concat (entries : List CatalogEntry) (entry : CatalogEntry) :
    (ofCatalog ⟨entries ++ [entry]⟩).metrics =
      place entry.metric (ofCatalog ⟨entries⟩).metrics := by
  simp [ofCatalog, List.foldl_append]

/-- **The registry keeps the metric of the last entry of a test.** -/
theorem ofTest?_ofCatalog (catalog : Catalog) (test : UInt8) :
    (ofCatalog catalog).ofTest? test = (catalog.last? test).map (·.metric) := by
  obtain ⟨entries⟩ := catalog
  induction entries using List.reverseRecOn with
  | nil => rfl
  | append_singleton entries entry ih =>
      have placed : entry.metric.test = entry.test := rfl
      rw [ofTest?, metrics_concat, find?_place, Catalog.last?_concat, placed]
      split
      · rfl
      · exact ih

/-- **A test is hard when any of its entries is.** -/
theorem isHard_ofCatalog (catalog : Catalog) (test : UInt8) :
    (ofCatalog catalog).isHard test =
      catalog.entries.any fun entry => entry.test = test && entry.hard := by
  rw [Bool.eq_iff_iff, isHard, List.contains_iff_mem, List.any_eq_true]
  simp only [ofCatalog, List.mem_map, List.mem_filter, Bool.and_eq_true, decide_eq_true_eq]
  constructor
  · rintro ⟨entry, ⟨member, hard⟩, same⟩
    exact ⟨entry, member, same, hard⟩
  · rintro ⟨entry, member, same, hard⟩
    exact ⟨entry, ⟨member, hard⟩, same⟩

/-- The flag of a test is that of its last entry, raised where the catalog softens it. -/
theorem isHard_of_last? {test : UInt8} {entry : CatalogEntry}
    (last : catalog.last? test = some entry) :
    (ofCatalog catalog).isHard test = (entry.hard || catalog.softens test) := by
  obtain ⟨member, same⟩ := Catalog.of_last? last
  rw [isHard_ofCatalog, Catalog.softens, last, Option.any_some]
  cases hard : entry.hard with
  | false => simp
  | true =>
      simp only [Bool.true_or, List.any_eq_true]
      exact ⟨entry, member, by simp [same, hard]⟩

theorem isHard_of_unlisted {test : UInt8} (unlisted : catalog.last? test = none) :
    (ofCatalog catalog).isHard test = false := by
  have none : catalog.entries.filter (fun entry => entry.test = test) = [] :=
    List.getLast?_eq_none_iff.mp unlisted
  rw [isHard_ofCatalog, List.any_eq_false]
  intro entry member
  have apart := List.filter_eq_nil_iff.mp none entry member
  simpa using fun same => absurd same (by simpa using apart)

/-- Each metric of a registry is the one that it keeps for its test. -/
theorem mem_metrics_iff {registry : Registry} {metric : Metric} :
    metric ∈ registry.metrics ↔ registry.ofTest? metric.test = some metric := by
  refine ⟨fun member => ?_, List.mem_of_find?_eq_some⟩
  have alone := registry.ascending.imp fun below => UInt8.ne_of_lt below
  rw [ofTest?]
  generalize registry.metrics = metrics at member alone
  induction metrics with
  | nil => cases member
  | cons head rest ih =>
      obtain ⟨first, later⟩ := List.pairwise_cons.mp alone
      rw [List.find?_cons]
      rcases List.mem_cons.mp member with rfl | member
      · simp
      · simpa [first metric member] using ih member later

/-- The row of the metric that is kept for a test is the row of its last entry. -/
theorem requirement?_ofCatalog {entry : CatalogEntry} (last : catalog.last? entry.test = some entry)
    (category : Category) (gender : Gender) :
    (ofCatalog catalog).requirement? category gender entry.metric =
      { entry with hard := entry.hard || catalog.softens entry.test }.requirement?
        category gender := by
  have flag := isHard_of_last? last
  change (entry.targets.find? category gender).map _ = (entry.targets.find? category gender).map _
  simp only [CatalogEntry.metric, flag]

end Registry

/-- **A registry takes each test from the last entry of its number**: its metric always,
and its hard flag exactly where the catalog does not soften the test.  So the rows for a
category and gender are those of the last entries that have a target, each with the flag
of its entry or, where the test is softened, hard; they stand in strictly ascending
order of their tests. -/
theorem registry_of_catalog (catalog : Catalog) :
    (∀ test, (Registry.ofCatalog catalog).ofTest? test = (catalog.last? test).map (·.metric)) ∧
    (∀ test, (Registry.ofCatalog catalog).isHard test =
        ((catalog.last? test).map (·.hard)).getD false ↔ catalog.softens test = false) ∧
    ∀ category gender,
      ((Registry.ofCatalog catalog).requirements category gender).Pairwise
        (fun row other => row.test < other.test) ∧
      ∀ row, row ∈ (Registry.ofCatalog catalog).requirements category gender ↔
        ∃ entry, catalog.last? row.test = some entry ∧
          { entry with hard := entry.hard || catalog.softens entry.test }.requirement?
            category gender = some row := by
  refine ⟨Registry.ofTest?_ofCatalog catalog, fun test => ?_, fun category gender => ⟨?_, ?_⟩⟩
  · cases last : catalog.last? test with
    | none => simp [Registry.isHard_of_unlisted last, Catalog.softens, last]
    | some entry =>
        rw [Registry.isHard_of_last? last, Catalog.softens, last]
        cases hard : entry.hard <;> simp [hard]
  · refine List.Pairwise.filterMap _ ?_ (Registry.ofCatalog catalog).ascending
    intro metric other below row made another remade
    obtain ⟨_, -, rfl⟩ := Option.map_eq_some_iff.mp made
    obtain ⟨_, -, rfl⟩ := Option.map_eq_some_iff.mp remade
    exact below
  · intro row
    have rows (metric : Metric) (made : (Registry.ofCatalog catalog).requirement? category gender
        metric = some row) : row.test = metric.test := by
      obtain ⟨_, -, rfl⟩ := Option.map_eq_some_iff.mp made
      rfl
    rw [Registry.requirements, List.mem_filterMap]
    constructor
    · rintro ⟨metric, member, made⟩
      have kept := Registry.mem_metrics_iff.mp member
      rw [Registry.ofTest?_ofCatalog] at kept
      obtain ⟨entry, last, rfl⟩ := Option.map_eq_some_iff.mp kept
      have named : row.test = entry.test := rows _ made
      exact ⟨entry, named ▸ last, Registry.requirement?_ofCatalog last category gender ▸ made⟩
    · rintro ⟨entry, last, made⟩
      obtain ⟨-, named⟩ := Catalog.of_last? last
      rw [← named] at last
      refine ⟨entry.metric, Registry.mem_metrics_iff.mpr ?_, ?_⟩
      · exact (Registry.ofTest?_ofCatalog catalog entry.test).trans (congrArg _ last)
      · rw [Registry.requirement?_ofCatalog last, made]

/-- The built-in catalog softens none of its tests. -/
example : ∀ entry ∈ Catalog.builtin.entries, Catalog.builtin.softens entry.test = false := by
  decide +kernel

/-- Two entries of one test, the first hard and the second soft: the metric that is kept and
the row that follows are those of the second entry but for the flag, which is that of the
first. -/
theorem softened_test_stays_hard :
    let hard : CatalogEntry :=
      ⟨1, "CARRY", "Carry", "m", .higherBetter, .teeShots, true, ⟨[270], [240]⟩⟩
    let soft : CatalogEntry :=
      ⟨1, "RUN", "Run", "s", .lowerBetter, .physical, false, ⟨[660], [750]⟩⟩
    let catalog : Catalog := ⟨[hard, soft]⟩
    let registry := Registry.ofCatalog catalog
    catalog.last? 1 = some soft ∧ registry.ofTest? 1 = some soft.metric ∧
      registry.isHard 1 ≠ soft.hard ∧
      registry.requirements .a .male = [⟨.a, .male, 1, 660, true, .physical⟩] := by
  decide +kernel

end GolfProgress
