import GolfProgress.Proofs.RowOrder
import GolfProgress.Requirements.Table
import Mathlib.Data.List.Perm.Basic

/-!
# A table is a store of its rows

The index of a table keeps the rows of each category and gender in a group of their own, sorted
by their tests, and a store in memory filters all of its rows at each call.  What adding a row to
the groups does to one key (`TableRequirements.rowsOf_addRow`) says that the rows found under a
key are the filtered ones, sorted (`rowsOf_ofTable`), and the keys tell the rows apart, so all
lists together hold every row of the table as often as the table (`flatMap_rowsOf_perm`).

Two analyses over such stores stay alike (`AnalysisState.Alike`): whatever they are asked to do,
their caches have entries for the same keys, with the same rows up to their order.
`table_lists_as_memory` says what follows for the lists, for the size and, where the requirements
of the category ahead are of distinct tests, for the reports.
-/

set_option autoImplicit false

namespace GolfProgress

/-! ## Rows by key -/

namespace Requirement

variable {rows : List Requirement} {category : Category} {gender : Gender}

/-- The requirements of a category and gender. -/
def ofKey (category : Category) (gender : Gender) (rows : List Requirement) : List Requirement :=
  rows.filter fun row => row.category = category && row.gender = gender

/-- All of them are of the gender. -/
theorem filter_gender_of_perm {listed : List Requirement}
    (perm : listed.Perm (ofKey category gender rows)) :
    (listed.filter fun row => row.gender = gender) = listed := by
  refine List.filter_eq_self.mpr fun row held => ?_
  have member := (List.mem_filter.mp (perm.mem_iff.mp held)).2
  simp only [Bool.and_eq_true] at member
  exact member.2

/-- The same rows in ascending order of their tests, those of one test in their old order. -/
structure StablySorted (rows sorted : List Requirement) : Prop where
  perm : sorted.Perm rows
  ascending : sorted.Pairwise fun a b => a.test ≤ b.test
  stable : ∀ test, sorted.filter (fun row => row.test = test) =
    rows.filter fun row => row.test = test

end Requirement

/-- Each row is found under its key alone, so the rows under all keys are the rows. -/
theorem flatMap_filter_perm {Row Key : Type} [DecidableEq Key] (key : Row → Key)
    {keys : List Key} (distinct : keys.Nodup) (rows : List Row)
    (covers : ∀ row ∈ rows, key row ∈ keys) :
    (keys.flatMap fun found => rows.filter fun row => key row = found).Perm rows := by
  induction keys generalizing rows with
  | nil =>
      rw [List.eq_nil_iff_forall_not_mem.mpr fun row held => List.not_mem_nil (covers row held)]
      exact .refl _
  | cons first keys ih =>
      obtain ⟨absent, distinct⟩ := List.nodup_cons.mp distinct
      -- the rows of the later keys are all among those that are not under the first
      have later : (keys.flatMap fun found => rows.filter fun row => key row = found) =
          keys.flatMap fun found =>
            (rows.filter fun row => !decide (key row = first)).filter
              fun row => key row = found := by
        refine List.flatMap_congr fun found member => ?_
        rw [List.filter_filter]
        refine List.filter_congr fun row _ => ?_
        by_cases same : key row = found
        · have other : key row ≠ first := fun equal => absent (equal ▸ same ▸ member)
          simp [same ▸ other, same]
        · simp [same]
      have covered : ∀ row ∈ rows.filter (fun row => !decide (key row = first)),
          key row ∈ keys := by
        intro row held
        obtain ⟨held, other⟩ := List.mem_filter.mp held
        exact (List.mem_cons.mp (covers row held)).resolve_left (by simpa using other)
      rw [List.flatMap_cons, later]
      exact ((ih distinct _ covered).append_left _).trans (List.filter_append_perm _ rows)

/-! ## The index of a table -/

namespace TableRequirements

open Requirement

variable {version : String} {category : Category} {gender : Gender}

theorem sortRows_stablySorted (rows : List Requirement) : StablySorted rows (sortRows rows) := by
  have trans (a b c : Requirement) (first : decide (a.test ≤ b.test) = true)
      (second : decide (b.test ≤ c.test) = true) : decide (a.test ≤ c.test) = true :=
    decide_eq_true (UInt8.le_trans (of_decide_eq_true first) (of_decide_eq_true second))
  have total (a b : Requirement) :
      (decide (a.test ≤ b.test) || decide (b.test ≤ a.test)) = true := by
    simpa using UInt8.le_total a.test b.test
  refine ⟨List.mergeSort_perm rows _, ?_, fun test => ?_⟩
  · exact (List.pairwise_mergeSort trans total rows).imp of_decide_eq_true
  · refine filter_mergeSort_of_ties trans total (fun a b left right => ?_) rows
    exact decide_eq_true (of_decide_eq_true left ▸ of_decide_eq_true right ▸ UInt8.le_refl _)

theorem rowsOf_cons (group : RequirementGroup) (others : List RequirementGroup) :
    rowsOf ⟨version, group :: others⟩ category gender =
      if group.category = category ∧ group.gender = gender then group.rows
      else rowsOf ⟨version, others⟩ category gender := by
  by_cases same : group.category = category ∧ group.gender = gender
  · simp [rowsOf, same]
  · have different : (decide (group.category = category) && decide (group.gender = gender)) =
        false := by simpa using same
    simp [rowsOf, different, same]

/-- **Adding a row adds it to the end of the rows under its key**, and to those under no
other. -/
theorem rowsOf_addRow (row : Requirement) (groups : List RequirementGroup) :
    rowsOf ⟨version, addRow row groups⟩ category gender =
      rowsOf ⟨version, groups⟩ category gender ++ ofKey category gender [row] := by
  induction groups with
  | nil =>
      rw [addRow, rowsOf_cons]
      by_cases same : row.category = category ∧ row.gender = gender
      · simp [rowsOf, ofKey, same]
      · simp [rowsOf, ofKey, same]
  | cons group others ih =>
      unfold addRow
      split
      · next found =>
          rw [rowsOf_cons, rowsOf_cons, found.1, found.2]
          split
          · next same => simp [ofKey, same]
          · next other => simp [ofKey, other]
      · next other =>
          rw [rowsOf_cons, rowsOf_cons, ih]
          split
          · next same =>
              have apart : ¬ (row.category = category ∧ row.gender = gender) := fun equal =>
                other ⟨same.1.trans equal.1.symm, same.2.trans equal.2.symm⟩
              simp [ofKey, apart]
          · rfl

theorem rowsOf_foldl (rows : List Requirement) (groups : List RequirementGroup) :
    rowsOf ⟨version, rows.foldl (fun groups row => addRow row groups) groups⟩ category gender =
      rowsOf ⟨version, groups⟩ category gender ++ ofKey category gender rows := by
  induction rows generalizing groups with
  | nil => simp [ofKey]
  | cons row rows ih =>
      rw [List.foldl_cons, ih, rowsOf_addRow, List.append_assoc]
      exact congrArg _ (List.filter_append [row] rows).symm

theorem rowsOf_map_sortRows (groups : List RequirementGroup) :
    rowsOf ⟨version, groups.map fun group => { group with rows := sortRows group.rows }⟩
      category gender = sortRows (rowsOf ⟨version, groups⟩ category gender) := by
  induction groups with
  | nil => simp [rowsOf, sortRows]
  | cons group others ih =>
      rw [List.map_cons, rowsOf_cons, rowsOf_cons, ih]
      split <;> rfl

/-- **The rows found under a key are the rows of the key, sorted.** -/
theorem rowsOf_ofTable (table : RequirementTable) (category : Category) (gender : Gender) :
    (ofTable table).rowsOf category gender = sortRows (ofKey category gender table.rows) := by
  rw [ofTable, rowsOf_map_sortRows, rowsOf_foldl]
  rfl

/-- The rows under all keys are the rows of the table. -/
theorem flatMap_rowsOf_perm (table : RequirementTable) {keys : List (Category × Gender)}
    (distinct : keys.Nodup) (all : ∀ key, key ∈ keys) :
    (keys.flatMap fun key => (ofTable table).rowsOf key.1 key.2).Perm table.rows := by
  have sorted (key : Category × Gender) : ((ofTable table).rowsOf key.1 key.2).Perm
      (table.rows.filter fun row => (row.category, row.gender) = key) := by
    rw [rowsOf_ofTable]
    refine (sortRows_stablySorted _).perm.trans (.of_eq (List.filter_congr fun row _ => ?_))
    simp [Prod.ext_iff]
  exact (List.Perm.flatMap_left _ fun key _ => sorted key).trans
    (flatMap_filter_perm _ distinct _ fun row _ => all _)

/-! ## Its size -/

theorem size_eq (store : TableRequirements) :
    store.size = (store.groups.flatMap fun group => group.rows).length := by
  rw [List.length_flatMap, List.sum_eq_foldl, List.foldl_map, size]

theorem length_flatMap_addRow (row : Requirement) (groups : List RequirementGroup) :
    ((addRow row groups).flatMap fun group => group.rows).length =
      (groups.flatMap fun group => group.rows).length + 1 := by
  induction groups with
  | nil => rfl
  | cons group others ih =>
      unfold addRow
      split
      · simp only [List.flatMap_cons, List.length_append, List.length_singleton]
        omega
      · simp only [List.flatMap_cons, List.length_append, ih]
        omega

theorem length_flatMap_foldl (rows : List Requirement) (groups : List RequirementGroup) :
    ((rows.foldl (fun groups row => addRow row groups) groups).flatMap
      fun group => group.rows).length =
      (groups.flatMap fun group => group.rows).length + rows.length := by
  induction rows generalizing groups with
  | nil => rfl
  | cons row rows ih =>
      rw [List.foldl_cons, ih, length_flatMap_addRow, List.length_cons]
      omega

/-- The groups of a table hold as many rows as the table. -/
theorem size_ofTable (table : RequirementTable) : (ofTable table).size = table.rows.length := by
  have lengths (group : RequirementGroup) : (sortRows group.rows).length = group.rows.length :=
    List.length_mergeSort group.rows
  rw [size_eq, ofTable, List.flatMap_map, List.length_flatMap]
  simp only [lengths]
  rw [← List.length_flatMap, length_flatMap_foldl, List.flatMap_nil, List.length_nil,
    Nat.zero_add]

end TableRequirements

/-! ## Calls of an analysis -/

/-- What an analysis is asked to do. -/
inductive AnalysisCall where
  | compute (player : Uuid) (category : Category) (gender : Gender) (measurements : Measurements)
  | invalidate
  | invalidateEntry (category : Category) (gender : Gender)

namespace AnalysisState

section Calls

variable {Store : Type} [RequirementStore Store] (registry : Registry)
  (settings : ConstraintSettings)

/-- The state after a call. -/
def call (state : AnalysisState Store) : AnalysisCall → AnalysisState Store
  | .compute player category gender measurements =>
    (state.compute registry settings player category gender measurements).2
  | .invalidate => { state with cache := state.cache.clear }
  | .invalidateEntry category gender =>
    { state with cache := state.cache.erase category gender }

/-- The state after calls one after the other. -/
def after (state : AnalysisState Store) (calls : List AnalysisCall) : AnalysisState Store :=
  calls.foldl (call registry settings) state

end Calls

/-! ## Analyses that stay alike -/

/-- An index and a store in memory hold the same rows, and the caches of two analyses over them
have entries for the same keys: the rows of the key, sorted in the first. -/
structure Alike (rows : List Requirement) (tabled : AnalysisState TableRequirements)
    (held : AnalysisState MemoryRequirements) : Prop where
  indexed : ∀ category gender, tabled.store.rowsOf category gender =
    TableRequirements.sortRows (Requirement.ofKey category gender rows)
  answered : ∀ category gender, held.store.answer category gender =
    .ok (Requirement.ofKey category gender rows)
  entries : ∀ category gender, tabled.cache.find? category gender =
    (held.cache.find? category gender).map TableRequirements.sortRows
  current : ∀ category gender found, held.cache.find? category gender = some found →
    found = Requirement.ofKey category gender rows

/-- Two loads fail with one failure, give the same rows or give rows and the same rows sorted, of
one origin. -/
inductive LoadedAlike (rows : List Requirement) :
    Except Failure (List Requirement × RequirementOrigin) →
      Except Failure (List Requirement × RequirementOrigin) → Prop where
  | equal (reply : Except Failure (List Requirement × RequirementOrigin)) :
      LoadedAlike rows reply reply
  | sorted (origin : RequirementOrigin) :
      LoadedAlike rows (.ok (TableRequirements.sortRows rows, origin)) (.ok (rows, origin))

section Alike

variable {rows : List Requirement} {registry : Registry} {settings : ConstraintSettings}
  {tabled : AnalysisState TableRequirements} {held : AnalysisState MemoryRequirements}

/-- **Loading keeps analyses alike**, and what they load is alike. -/
theorem Alike.load (alike : Alike rows tabled held) (registry : Registry) (target : Category)
    (gender : Gender) :
    LoadedAlike (Requirement.ofKey target gender rows) (tabled.load registry target gender).1
        (held.load registry target gender).1 ∧
      Alike rows (tabled.load registry target gender).2 (held.load registry target gender).2 := by
  have entry := alike.entries target gender
  cases found : held.cache.find? target gender with
  | some kept =>
      obtain rfl := alike.current target gender kept found
      rw [found, Option.map_some] at entry
      simp only [AnalysisState.load, RequirementCache.get, found, entry]
      exact ⟨.sorted .cache, alike.indexed, alike.answered, alike.entries, alike.current⟩
  | none =>
      rw [found, Option.map_none] at entry
      have listed : RequirementStore.list tabled.store target gender =
          (.ok (TableRequirements.sortRows (Requirement.ofKey target gender rows)),
            tabled.store) :=
        congrArg (fun rows => (Except.ok rows, tabled.store)) (alike.indexed target gender)
      have listed' : RequirementStore.list held.store target gender =
          (.ok (Requirement.ofKey target gender rows), held.store.asked) :=
        congrArg (fun answer => (answer, held.store.asked)) (alike.answered target gender)
      have perm := (TableRequirements.sortRows_stablySorted
        (Requirement.ofKey target gender rows)).perm
      rw [load_eq_of_listed entry listed, load_eq_of_listed found listed',
        Requirement.filter_gender_of_perm perm, Requirement.filter_gender_of_perm (.refl _)]
      by_cases empty : Requirement.ofKey target gender rows = []
      · rw [if_pos empty, if_pos (List.perm_nil.mp (empty ▸ perm))]
        exact ⟨.equal _, alike.indexed, alike.answered, alike.entries, alike.current⟩
      · have nonempty : TableRequirements.sortRows (Requirement.ofKey target gender rows) ≠ [] :=
          fun none => empty (List.nil_perm.mp (none ▸ perm))
        rw [if_neg empty, if_neg nonempty]
        refine ⟨.sorted .store, alike.indexed, alike.answered, fun category sex => ?_,
          fun category sex kept held => ?_⟩
        · rw [RequirementCache.find?_insert, RequirementCache.find?_insert]
          split
          · rfl
          · exact alike.entries category sex
        · rw [RequirementCache.find?_insert] at held
          split at held
          · next key =>
              cases key
              exact (Option.some.inj held).symm
          · exact alike.current category sex kept held

/-- Every call keeps analyses alike. -/
theorem Alike.call (alike : Alike rows tabled held) (call : AnalysisCall) :
    Alike rows (tabled.call registry settings call) (held.call registry settings call) := by
  cases call with
  | compute player category gender measurements =>
      simp only [AnalysisState.call]
      cases next : category.nextUp with
      | none => rwa [compute_of_best next, compute_of_best next]
      | some target =>
          rw [compute_of_next next, compute_of_next next]
          exact (alike.load registry target gender).2
  | invalidate =>
      exact ⟨alike.indexed, alike.answered, fun _ _ => rfl, fun _ _ _ none => by cases none⟩
  | invalidateEntry category gender =>
      refine ⟨alike.indexed, alike.answered, fun other sex => ?_, fun other sex kept found => ?_⟩
      · simp only [AnalysisState.call, RequirementCache.find?_erase]
        split
        · rfl
        · exact alike.entries other sex
      · simp only [AnalysisState.call, RequirementCache.find?_erase] at found
        split at found
        · cases found
        · exact alike.current other sex kept found

/-- **Analyses stay alike**, whatever they are asked to do. -/
theorem Alike.after (alike : Alike rows tabled held) (calls : List AnalysisCall) :
    Alike rows (tabled.after registry settings calls) (held.after registry settings calls) := by
  induction calls generalizing tabled held with
  | nil => exact alike
  | cons call calls ih => exact ih (alike.call call)

/-- The reports of alike analyses agree, where the requirements that they go by are of distinct
tests. -/
theorem Alike.compute (alike : Alike rows tabled held) (player : Uuid) {category : Category}
    (gender : Gender) (measurements : Measurements)
    (distinct : ∀ target, category.nextUp = some target →
      ((Requirement.ofKey target gender rows).map (·.test)).Nodup) :
    ConstraintReport.AgreeOrFail
      (tabled.compute registry settings player category gender measurements).1
      (held.compute registry settings player category gender measurements).1 := by
  cases next : category.nextUp with
  | none =>
      rw [compute_of_best next, compute_of_best next]
      exact .failed _
  | some target =>
      rw [compute_of_next next, compute_of_next next]
      have loaded := (alike.load registry target gender).1
      generalize (tabled.load registry target gender).1 = sorted at loaded
      generalize (held.load registry target gender).1 = reply at loaded
      cases loaded with
      | equal =>
          cases sorted with
          | error failure => exact .failed failure
          | ok result => exact .reported ⟨rfl, rfl, rfl, rfl, rfl⟩
      | sorted origin =>
          have perm := (TableRequirements.sortRows_stablySorted
            (Requirement.ofKey target gender rows)).perm
          simp only [Except.map]
          exact .reported (ConstraintReport.ofRows_perm perm
            ((perm.map (·.test)).nodup_iff.mpr (distinct target next)))

end Alike

/-- Two analyses that have not been asked for anything are alike. -/
theorem alike_ofTable (table : RequirementTable) : Alike table.rows
    ⟨TableRequirements.ofTable table, {}⟩ ⟨{ rows := table.rows }, {}⟩ where
  indexed := TableRequirements.rowsOf_ofTable table
  answered := fun _ _ => rfl
  entries := fun _ _ => rfl
  current := fun _ _ _ none => by cases none

end AnalysisState

/-- **A table is a store of its rows.**  The index of a table lists for each category and gender
the rows that a store in memory lists, stably sorted by their tests, its size is the number of
rows of the table, and the lists of all categories and genders together are the rows of the
table, each as often as there.  Where the requirements of the category ahead of a player are of
distinct tests, the analyses over the two stores give reports that agree, or fail alike, whatever
both were asked to do before. -/
theorem table_lists_as_memory (table : RequirementTable) :
    let tabled := TableRequirements.ofTable table
    let held : MemoryRequirements := { rows := table.rows }
    (∀ category gender, ∃ listed,
      (RequirementStore.list held category gender).1 = .ok listed ∧
      RequirementStore.list tabled category gender =
        (.ok (tabled.rowsOf category gender), tabled) ∧
      Requirement.StablySorted listed (tabled.rowsOf category gender)) ∧
    tabled.size = table.rows.length ∧
    (∀ keys : List (Category × Gender), keys.Nodup → (∀ key, key ∈ keys) →
      (keys.flatMap fun key => tabled.rowsOf key.1 key.2).Perm table.rows) ∧
    ∀ registry settings calls player category gender measurements,
      (∀ target, category.nextUp = some target →
        ((Requirement.ofKey target gender table.rows).map (·.test)).Nodup) →
      ConstraintReport.AgreeOrFail
        ((AnalysisState.after registry settings ⟨tabled, {}⟩ calls).compute registry settings
          player category gender measurements).1
        ((AnalysisState.after registry settings ⟨held, {}⟩ calls).compute registry settings
          player category gender measurements).1 := by
  refine ⟨fun category gender => ⟨_, rfl, rfl, ?_⟩, TableRequirements.size_ofTable table,
    fun keys distinct all => TableRequirements.flatMap_rowsOf_perm table distinct all,
    fun registry settings calls player category gender measurements distinct => ?_⟩
  · rw [TableRequirements.rowsOf_ofTable]
    exact TableRequirements.sortRows_stablySorted _
  · exact ((AnalysisState.alike_ofTable table).after calls).compute player gender measurements
      distinct

/-! ## A table with a test that is asked for twice -/

namespace Promotion

/-- The requirements of category A, and three of category C, two of which are of one test. -/
def table : RequirementTable where
  rows := { row 4 30 true with category := .c } :: rows ++
    [{ row 1 20 true with category := .c }, { row 4 10 false with category := .c }]

end Promotion

/-- Of the three requirements of category C the two of one test stay in their order, and the
player who is short of category A gets reports that agree, also when the requirements are taken
from the caches. -/
theorem table_lists_as_memory_promotion :
    let tabled := TableRequirements.ofTable Promotion.table
    let held : MemoryRequirements := { rows := Promotion.table.rows }
    let calls : List AnalysisCall := [.compute ⟨1⟩ .b .male Promotion.measurements]
    (tabled.rowsOf .c .male).filter (fun row => row.test = 4) =
      [{ Promotion.row 4 30 true with category := .c },
        { Promotion.row 4 10 false with category := .c }] ∧
    tabled.size = 8 ∧
    ∃ report other,
      ((AnalysisState.after Promotion.registry {} ⟨tabled, {}⟩ calls).compute Promotion.registry
        {} ⟨1⟩ .b .male Promotion.measurements).1 = .ok report ∧
      ((AnalysisState.after Promotion.registry {} ⟨held, {}⟩ calls).compute Promotion.registry
        {} ⟨1⟩ .b .male Promotion.measurements).1 = .ok other ∧
      report.Agrees other ∧ other.origin = .cache := by
  intro tabled held calls
  obtain ⟨lists, size, -, reports⟩ := table_lists_as_memory Promotion.table
  obtain ⟨listed, answered, -, sorted⟩ := lists .c .male
  obtain rfl := Except.ok.inj answered
  have alike := reports Promotion.registry {} calls ⟨1⟩ .b .male Promotion.measurements
    (by rintro _ ⟨⟩; decide +kernel)
  refine ⟨(sorted.stable 4).trans (by decide +kernel), size, ?_⟩
  have cached : ((AnalysisState.after Promotion.registry {} ⟨held, {}⟩ calls).compute
      Promotion.registry {} ⟨1⟩ .b .male Promotion.measurements).1.toOption.map (·.origin) =
      some .cache := by decide +kernel
  generalize ((AnalysisState.after Promotion.registry {} ⟨held, {}⟩ calls).compute
    Promotion.registry {} ⟨1⟩ .b .male Promotion.measurements).1 = served at cached alike
  generalize ((AnalysisState.after Promotion.registry {} ⟨tabled, {}⟩ calls).compute
    Promotion.registry {} ⟨1⟩ .b .male Promotion.measurements).1 = computed at alike
  cases alike with
  | failed => cases cached
  | reported agrees => exact ⟨_, _, rfl, rfl, agrees, Option.some.inj cached⟩

end GolfProgress
