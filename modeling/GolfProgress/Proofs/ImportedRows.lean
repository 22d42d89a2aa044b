import GolfProgress.Proofs.HostRuns
import Mathlib.Data.List.Basic

/-!
# Imports are exact

The records of a sheet are rows or they are passed over.  `RequirementImport.Exact` says
what an import owes to them: its counters, and for each category, gender and test that a
row is for exactly one row, the last of them, in the order of gender code, category and
test.

An import is the records worked in one after the other.  `RequirementImport.Tallied` says
where it stands after some of them, one more record keeps that (`Tallied.add`), and so do
all of them (`tallied_foldl`).  Rows that are kept apart by their keys have one order only
(`Requirement.eq_of_inOrder`), so `RequirementImport.ofSheet_perm` reads off that records
may be worked in in any order that leaves the rows of one key as they were.

`import_exact` says all this of every sheet that can be opened.
-/

set_option autoImplicit false

namespace GolfProgress

/-! ## Keys of rows -/

namespace Requirement

/-- What a row is for: a category, a gender and a test. -/
def key (row : Requirement) : Category × Gender × UInt8 := (row.category, row.gender, row.test)

/-- A row whose test is known to measure another domain. -/
def Misplaced (row : Requirement) : Prop := ∃ domain ∈ Domain.ofTest? row.test, domain ≠ row.domain

instance (row : Requirement) : Decidable row.Misplaced :=
  inferInstanceAs (Decidable (∃ domain ∈ _, _))

/-- The order of rows: by the code of the gender, then by category, then by test. -/
inductive Precedes (row other : Requirement) : Prop where
  | gender (lower : row.gender.code < other.gender.code)
  | category (tied : row.gender = other.gender)
      (lower : row.category.index < other.category.index)
  | test (tied : row.gender = other.gender) (same : row.category = other.category)
      (lower : row.test < other.test)

variable {row other : Requirement}

theorem sameKey_iff : row.sameKey other = true ↔ other.key = row.key := by
  simp only [sameKey, key, Bool.and_eq_true, decide_eq_true_eq, Prod.mk.injEq]
  exact ⟨fun ⟨⟨category, gender⟩, test⟩ => ⟨category.symm, gender.symm, test.symm⟩,
    fun ⟨category, gender, test⟩ => ⟨⟨category.symm, gender.symm⟩, test.symm⟩⟩

theorem isMisplaced_iff : row.isMisplaced = true ↔ row.Misplaced := by
  simp [isMisplaced, Misplaced, Option.any_eq_true]

theorem index_category_inj {category another : Category} :
    category.index = another.index ↔ category = another := by
  cases category <;> cases another <;> decide

theorem index_gender_inj {gender another : Gender} :
    gender.index = another.index ↔ gender = another := by
  cases gender <;> cases another <;> decide

theorem index_gender_lt {gender another : Gender} :
    gender.index < another.index ↔ gender.code < another.code := by
  cases gender <;> cases another <;> decide +kernel

/-- The three keys of the order, one after the other. -/
theorem before_iff : row.before other = true ↔
    row.gender.index < other.gender.index ∨ row.gender.index = other.gender.index ∧
      (row.category.index < other.category.index ∨ row.category.index = other.category.index ∧
        row.test.toNat ≤ other.test.toNat) := by
  simp only [before, ne_eq, ← index_gender_inj, ← index_category_inj]
  split
  · simp only [decide_eq_true_eq]
    omega
  · split
    · simp only [decide_eq_true_eq]
      omega
    · simp only [decide_eq_true_eq, UInt8.le_iff_toNat_le]
      omega

theorem before_trans (a b c : Requirement) (first : a.before b = true)
    (second : b.before c = true) : a.before c = true := by
  rw [before_iff] at *
  omega

theorem before_total (a b : Requirement) : (a.before b || b.before a) = true := by
  rw [Bool.or_eq_true, before_iff, before_iff]
  omega

/-- A row that stands before one with another key precedes it. -/
theorem precedes_of_before (before : row.before other = true) (apart : row.key ≠ other.key) :
    row.Precedes other := by
  rcases before_iff.mp before with lower | ⟨gender, lower | ⟨category, atMost⟩⟩
  · exact .gender (index_gender_lt.mp lower)
  · exact .category (index_gender_inj.mp gender) lower
  · have gender := index_gender_inj.mp gender
    have category := index_category_inj.mp category
    refine .test gender category (UInt8.lt_iff_toNat_lt.mpr (Nat.lt_of_le_of_ne atMost ?_))
    intro test
    exact apart (by rw [key, key, category, gender, UInt8.toNat_inj.mp test])

theorem Precedes.before (precedes : row.Precedes other) :
    row.before other = true ∧ other.before row = false := by
  rw [← Bool.not_eq_true, before_iff, before_iff]
  rcases precedes with lower | ⟨gender, lower⟩ | ⟨gender, category, lower⟩
  · have := index_gender_lt.mpr lower
    omega
  · rw [gender]
    omega
  · rw [gender, category]
    have := UInt8.lt_iff_toNat_lt.mp lower
    omega

/-- Rows in order, with keys of their own, have no other order. -/
theorem eq_of_inOrder {rows others : List Requirement} (perm : rows.Perm others)
    (left : rows.Pairwise Precedes) (right : others.Pairwise Precedes) : rows = others := by
  refine perm.eq_of_pairwise (fun a b _ _ first second => ?_) left right
  exact absurd second.before.1 (by simp [first.before.2])

/-- The last of some rows with a key. -/
def lastWith? (rows : List Requirement) (key : Category × Gender × UInt8) : Option Requirement :=
  (rows.filter fun row => row.key = key).getLast?

theorem lastWith?_concat_self (rows : List Requirement) (row : Requirement) :
    lastWith? (rows ++ [row]) row.key = some row := by
  simp [lastWith?, List.filter_append]

theorem lastWith?_concat_of_ne (rows : List Requirement) {row : Requirement}
    {key : Category × Gender × UInt8} (apart : row.key ≠ key) :
    lastWith? (rows ++ [row]) key = lastWith? rows key := by
  simp [lastWith?, List.filter_append, apart]

/-- The rows with one key, among rows without the key of a row. -/
theorem filter_without (rows : List Requirement) (row : Requirement)
    (key : Category × Gender × UInt8) :
    ((rows.filter fun other => !row.sameKey other).filter fun other => other.key = key) =
      if row.key = key then [] else rows.filter fun other => other.key = key := by
  rw [List.filter_filter]
  split
  · next same =>
      refine List.filter_eq_nil_iff.mpr fun other _ kept => ?_
      simp only [Bool.and_eq_true, decide_eq_true_eq, Bool.not_eq_true'] at kept
      rw [← Bool.not_eq_true, sameKey_iff] at kept
      exact kept.2 (kept.1.trans same.symm)
  · next apart =>
      refine List.filter_congr fun other _ => Bool.eq_iff_iff.mpr ?_
      simp only [Bool.and_eq_true, decide_eq_true_eq, Bool.not_eq_true', and_iff_left_iff_imp]
      rw [← Bool.not_eq_true, sameKey_iff]
      exact fun same other => apart (other.symm.trans same)

end Requirement

/-! ## What an import owes to a sheet -/

/-- The records of a sheet that are rows, in their order. -/
def Csv.Sheet.rows (sheet : Csv.Sheet) : List Requirement :=
  sheet.records.filterMap fun record => (Requirement.ofRecord sheet record).toOption

attribute [ext] ImportCounts RequirementImport

namespace RequirementImport

/-- An import that says exactly what the records of a sheet hold.  A counter has
thirty-two bits; fewer records than that are counted exactly. -/
structure Exact (sheet : Csv.Sheet) (imported : RequirementImport) : Prop where
  classified : sheet.rows.length + (passedOver sheet).length = sheet.records.length
  total : imported.counts.total = UInt32.ofNat sheet.records.length
  parsed : imported.counts.parsed = UInt32.ofNat sheet.rows.length
  failed : imported.counts.failed = UInt32.ofNat (passedOver sheet).length
  summed : imported.counts.total = imported.counts.parsed + imported.counts.failed
  misplaced : imported.counts.misplaced =
    UInt32.ofNat (sheet.rows.countP fun row => row.Misplaced)
  replaced : imported.counts.replaced =
    UInt32.ofNat (sheet.rows.length - imported.rows.length)
  length : UInt32.ofNat imported.rows.length = imported.counts.parsed - imported.counts.replaced
  /-- For every key there is exactly one row if it occurs, the last with it, and else none. -/
  kept : ∀ key, (imported.rows.filter fun row => row.key = key) =
    (Requirement.lastWith? sheet.rows key).toList
  inOrder : imported.rows.Pairwise Requirement.Precedes
  /-- No counter has turned over below `2 ^ 32` records. -/
  counted : sheet.records.length < UInt32.size →
    imported.counts.total.toNat = sheet.records.length ∧
    imported.counts.parsed.toNat + imported.counts.failed.toNat = sheet.records.length ∧
    imported.counts.misplaced.toNat = (sheet.rows.countP fun row => row.Misplaced) ∧
    imported.rows.length + imported.counts.replaced.toNat = imported.counts.parsed.toNat

/-! ## Records worked in one after the other -/

/-- Where an import stands after some records, each a row or not. -/
structure Tallied (seen : List (Option Requirement)) (state : RequirementImport) : Prop where
  total : state.counts.total = UInt32.ofNat seen.length
  parsed : state.counts.parsed = UInt32.ofNat (seen.filterMap id).length
  failed : state.counts.failed = UInt32.ofNat (seen.countP Option.isNone)
  misplaced : state.counts.misplaced =
    UInt32.ofNat ((seen.filterMap id).countP fun row => row.Misplaced)
  fewer : state.rows.length ≤ (seen.filterMap id).length
  replaced : state.counts.replaced =
    UInt32.ofNat ((seen.filterMap id).length - state.rows.length)
  kept : ∀ key, (state.rows.filter fun row => row.key = key) =
    (Requirement.lastWith? (seen.filterMap id) key).toList

variable {seen : List (Option Requirement)} {state : RequirementImport}

theorem Tallied.start : Tallied [] {} := by
  constructor <;> simp [Requirement.lastWith?]

/-- A row takes the place of the one with its key, if there is one. -/
theorem Tallied.length_place (tallied : Tallied seen state) (row : Requirement) :
    (row :: state.rows.filter fun other => !row.sameKey other).length +
      (if state.rows.any row.sameKey then 1 else 0) = state.rows.length + 1 := by
  have parts := List.length_eq_length_filter_add (l := state.rows) row.sameKey
  have same : state.rows.filter row.sameKey = state.rows.filter fun other => other.key = row.key :=
    List.filter_congr fun other _ => Bool.eq_iff_iff.mpr (by simp [Requirement.sameKey_iff])
  have once : (state.rows.filter row.sameKey).length ≤ 1 := by
    rw [same, tallied.kept]
    exact Option.length_toList_le
  have there : state.rows.any row.sameKey = true ↔ 0 < (state.rows.filter row.sameKey).length := by
    rw [List.length_filter_pos_iff, List.any_eq_true]
  rw [List.length_cons]
  split
  · next present =>
      have := there.mp present
      omega
  · next absent =>
      have := mt there.mpr absent
      omega

/-- The counters after one more row. -/
theorem counts_add (state : RequirementImport) (row : Requirement) :
    (state.add (some row)).counts =
      { total := state.counts.total + 1
        parsed := state.counts.parsed + 1
        failed := state.counts.failed
        misplaced := state.counts.misplaced + if row.Misplaced then 1 else 0
        replaced := state.counts.replaced + if state.rows.any row.sameKey then 1 else 0 } := by
  simp only [RequirementImport.add, Requirement.isMisplaced_iff]
  split <;> split <;> simp

/-- **One more record keeps the tally.** -/
theorem Tallied.add (tallied : Tallied seen state) (record : Option Requirement) :
    Tallied (seen ++ [record]) (state.add record) := by
  cases record with
  | none =>
      obtain ⟨total, parsed, failed, misplaced, fewer, replaced, kept⟩ := tallied
      constructor <;> simp_all [RequirementImport.add, UInt32.ofNat_add]
  | some row =>
      have place := tallied.length_place row
      obtain ⟨total, parsed, failed, misplaced, fewer, replaced, kept⟩ := tallied
      have grown : (seen ++ [some row]).filterMap id = seen.filterMap id ++ [row] := by simp
      have rows : (state.add (some row)).rows =
          row :: state.rows.filter fun other => !row.sameKey other := rfl
      constructor <;> simp only [grown, counts_add, rows]
      case total => simp [total, UInt32.ofNat_add]
      case parsed => simp [parsed, UInt32.ofNat_add]
      case failed => simp [failed]
      case misplaced =>
        rw [misplaced, List.countP_append, UInt32.ofNat_add, List.countP_singleton]
        simp only [decide_eq_true_eq]
        split <;> rfl
      case fewer =>
        rw [List.length_append, List.length_singleton]
        omega
      case replaced =>
        rw [List.length_append, List.length_singleton, replaced]
        split at place
        · next present =>
            rw [if_pos present, ← UInt32.ofNat_one, ← UInt32.ofNat_add]
            exact congrArg UInt32.ofNat (by omega)
        · next absent =>
            rw [if_neg absent, UInt32.add_zero]
            exact congrArg UInt32.ofNat (by omega)
      case kept =>
        intro key
        rw [List.filter_cons, Requirement.filter_without]
        by_cases same : row.key = key
        · subst same
          simp [Requirement.lastWith?_concat_self]
        · simp [same, Requirement.lastWith?_concat_of_ne, kept]

/-- **All records keep the tally.** -/
theorem tallied_foldl (records : List (Option Requirement)) :
    Tallied records (records.foldl RequirementImport.add {}) := by
  suffices later : ∀ seen state, Tallied seen state →
      Tallied (seen ++ records) (records.foldl RequirementImport.add state) by
    exact later [] {} .start
  induction records with
  | nil => exact fun seen state tallied => by simpa using tallied
  | cons record records ih =>
      intro seen state tallied
      have more := ih _ _ (tallied.add record)
      rwa [List.append_assoc, List.singleton_append] at more

/-! ## Sheets -/

variable {sheet : Csv.Sheet}

theorem length_passedOver (sheet : Csv.Sheet) :
    (passedOver sheet).length =
      sheet.records.countP fun record => (Requirement.ofRecord sheet record).toOption.isNone := by
  unfold passedOver
  generalize 2 = number
  induction sheet.records generalizing number with
  | nil => rfl
  | cons record records ih =>
      rw [List.zipIdx_cons, List.filterMap_cons, List.countP_cons, ← ih (number + 1)]
      cases read : Requirement.ofRecord sheet record <;> simp [read, Except.toOption]

theorem length_rows_add (sheet : Csv.Sheet) :
    sheet.rows.length + (passedOver sheet).length = sheet.records.length := by
  have parts := List.length_eq_countP_add_countP (l := sheet.records)
    fun record => (Requirement.ofRecord sheet record).toOption.isSome
  rw [length_passedOver, Csv.Sheet.rows, List.length_filterMap_eq_countP, parts]
  exact congrArg _ (List.countP_congr fun record _ => by simp)

theorem pairwise_key_ne {rows : List Requirement}
    (once : ∀ key, (rows.filter fun row => row.key = key).length ≤ 1) :
    rows.Pairwise fun row other => row.key ≠ other.key := by
  induction rows with
  | nil => exact .nil
  | cons row rows ih =>
      refine List.pairwise_cons.mpr ⟨fun other later same => ?_, ih fun key => ?_⟩
      · have both := once row.key
        rw [List.filter_cons_of_pos (by simp), List.length_cons] at both
        have : 0 < (rows.filter fun other => other.key = row.key).length :=
          List.length_filter_pos_iff.mpr ⟨other, later, by simp [same]⟩
        omega
      · exact Nat.le_trans ((List.sublist_cons_self row rows).filter _).length_le (once key)

theorem eq_toList_of_perm {rows : List Requirement} {last : Option Requirement}
    (perm : rows.Perm last.toList) : rows = last.toList := by
  cases last with
  | none => exact List.perm_nil.mp perm
  | some row => exact List.perm_singleton.mp perm

/-- The import of every sheet is exact. -/
theorem ofSheet_exact (sheet : Csv.Sheet) : (ofSheet sheet).Exact sheet := by
  let records := sheet.records.map fun record => (Requirement.ofRecord sheet record).toOption
  let state := records.foldl RequirementImport.add {}
  obtain ⟨total, parsed, failed, misplaced, fewer, replaced, kept⟩ := tallied_foldl records
  have valid : records.filterMap id = sheet.rows := List.filterMap_map
  have classified := length_rows_add sheet
  have faulty : records.countP Option.isNone = (passedOver sheet).length := by
    rw [List.countP_map, length_passedOver]
    rfl
  rw [List.length_map] at total
  rw [valid] at parsed misplaced fewer replaced kept
  rw [faulty] at failed
  -- sorting moves rows about, of which no two have one key
  have sorted : (ofSheet sheet).rows.Perm state.rows := List.mergeSort_perm _ _
  have keptSorted : ∀ key, ((ofSheet sheet).rows.filter fun row => row.key = key) =
      (Requirement.lastWith? sheet.rows key).toList := fun key =>
    eq_toList_of_perm ((kept key) ▸ sorted.filter _)
  have apart : (ofSheet sheet).rows.Pairwise fun row other => row.key ≠ other.key :=
    pairwise_key_ne fun key => by rw [keptSorted key]; exact Option.length_toList_le
  have length : (ofSheet sheet).rows.length = state.rows.length := sorted.length_eq
  exact {
    classified := classified
    total := total
    parsed := parsed
    failed := failed
    summed := by
      show state.counts.total = state.counts.parsed + state.counts.failed
      rw [total, parsed, failed, ← UInt32.ofNat_add, classified]
    misplaced := misplaced
    replaced := by
      rw [length]
      exact replaced
    length := by
      show _ = state.counts.parsed - state.counts.replaced
      rw [length, parsed, replaced, ← UInt32.ofNat_sub (Nat.sub_le _ _), Nat.sub_sub_self fewer]
    kept := keptSorted
    inOrder := ((List.pairwise_mergeSort Requirement.before_trans Requirement.before_total
      state.rows).and apart).imp fun ordered =>
        Requirement.precedes_of_before ordered.1 ordered.2
    counted := by
      intro few
      have exactly {count : Nat} (most : count ≤ sheet.records.length) :
          (UInt32.ofNat count).toNat = count :=
        UInt32.toNat_ofNat_of_lt' (Nat.lt_of_le_of_lt most few)
      show state.counts.total.toNat = _ ∧
        state.counts.parsed.toNat + state.counts.failed.toNat = _ ∧
        state.counts.misplaced.toNat = _ ∧
        _ + state.counts.replaced.toNat = state.counts.parsed.toNat
      have rows : sheet.rows.length ≤ sheet.records.length := by omega
      rw [total, parsed, failed, misplaced, replaced, length, exactly (Nat.le_refl _), exactly rows,
        exactly (by omega), exactly (Nat.le_trans List.countP_le_length rows),
        exactly (Nat.le_trans (Nat.sub_le _ _) rows)]
      exact ⟨rfl, classified, rfl, Nat.add_sub_cancel' fewer⟩ }

theorem mem_rows_iff {imported other : RequirementImport}
    (same : ∀ key, (imported.rows.filter fun row => row.key = key) =
      other.rows.filter fun row => row.key = key) (row : Requirement) :
    row ∈ imported.rows ↔ row ∈ other.rows := by
  have kept := same row.key
  constructor <;> intro member
  · have : row ∈ imported.rows.filter fun other => other.key = row.key := by simpa using member
    rw [kept] at this
    exact (List.mem_filter.mp this).1
  · have : row ∈ other.rows.filter fun other => other.key = row.key := by simpa using member
    rw [← kept] at this
    exact (List.mem_filter.mp this).1

/-- No row is kept only if no record is one. -/
theorem Exact.rows_eq_nil_iff {imported : RequirementImport} (exact : imported.Exact sheet) :
    imported.rows = [] ↔ sheet.rows = [] := by
  constructor <;> intro none <;> refine List.eq_nil_iff_forall_not_mem.mpr fun row member => ?_ <;>
    have kept := exact.kept row.key
  · rw [none, List.filter_nil, eq_comm, Option.toList_eq_nil_iff] at kept
    have gone := List.filter_eq_nil_iff.mp (List.getLast?_eq_none_iff.mp kept)
    exact gone row member (decide_eq_true rfl)
  · rw [none] at kept
    exact List.filter_eq_nil_iff.mp kept row member (decide_eq_true rfl)

theorem Exact.nodup {imported : RequirementImport} (exact : imported.Exact sheet) :
    imported.rows.Nodup :=
  exact.inOrder.imp fun precedes same => by
    have := (same ▸ precedes).before
    simp_all

/-- Records may be worked in in any order that leaves the last row of each key last. -/
theorem ofSheet_perm {records : List Csv.Record} (perm : records.Perm sheet.records)
    (stays : ∀ key, Requirement.lastWith? { sheet with records }.rows key =
      Requirement.lastWith? sheet.rows key) :
    ofSheet { sheet with records } = ofSheet sheet := by
  have left := ofSheet_exact { sheet with records }
  have right := ofSheet_exact sheet
  have valid : ({ sheet with records } : Csv.Sheet).rows.Perm sheet.rows := perm.filterMap _
  have faults : (passedOver { sheet with records }).length = (passedOver sheet).length := by
    have := left.classified
    have := right.classified
    have := valid.length_eq
    have : records.length = sheet.records.length := perm.length_eq
    simp only at *
    omega
  have rows : (ofSheet { sheet with records }).rows = (ofSheet sheet).rows := by
    refine Requirement.eq_of_inOrder ((List.perm_ext_iff_of_nodup left.nodup right.nodup).mpr
      (mem_rows_iff fun key => ?_)) left.inOrder right.inOrder
    rw [left.kept, right.kept, stays]
  have counts : (ofSheet { sheet with records }).counts = (ofSheet sheet).counts := by
    ext1
    · rw [left.total, right.total, perm.length_eq]
    · rw [left.parsed, right.parsed, valid.length_eq]
    · rw [left.failed, right.failed, faults]
    · rw [left.misplaced, right.misplaced, valid.countP_eq]
    · rw [left.replaced, right.replaced, valid.length_eq, rows]
  exact RequirementImport.ext rows counts

/-- Rows with keys of their own may come in any order. -/
theorem lastWith?_perm {rows others : List Requirement} (perm : rows.Perm others)
    (apart : others.Pairwise fun row other => row.key ≠ other.key)
    (key : Category × Gender × UInt8) :
    Requirement.lastWith? rows key = Requirement.lastWith? others key := by
  have kept := perm.filter fun row => row.key = key
  have alone := apart.filter fun row => row.key = key
  have keyed : ∀ row ∈ others.filter fun row => row.key = key, row.key = key :=
    fun row member => by simpa using (List.mem_filter.mp member).2
  unfold Requirement.lastWith?
  generalize (others.filter fun row => row.key = key) = found at kept alone keyed
  match found with
  | [] => rw [List.perm_nil.mp kept]
  | [row] => rw [List.perm_singleton.mp kept]
  | first :: second :: rest =>
      have differ := List.rel_of_pairwise_cons alone List.mem_cons_self
      rw [keyed first (by simp), keyed second (by simp)] at differ
      exact absurd rfl differ

end RequirementImport

/-- **The import of every sheet that can be opened is exact.**  It changes no file, and it
is the same for the same records in another order, if no two rows among them have one key,
or more generally if the last row of each key stays the last. -/
theorem import_exact (host : MemoryHost) (path : String) {content : List UInt8}
    (found : host.files.look? path = some (.file content)) :
    let sheet := Csv.Sheet.ofBytes content
    ∃ after,
      host.run (importRequirements path) = (.ok (.ofSheet sheet), after) ∧
      after.files = host.files ∧
      (RequirementImport.ofSheet sheet).Exact sheet ∧
      (∀ records, records.Perm sheet.records →
        (sheet.rows.Pairwise fun row other => row.key ≠ other.key) →
        RequirementImport.ofSheet { sheet with records } = .ofSheet sheet) ∧
      ∀ records, records.Perm sheet.records →
        (∀ key, Requirement.lastWith? { sheet with records }.rows key =
          Requirement.lastWith? sheet.rows key) →
        RequirementImport.ofSheet { sheet with records } = .ofSheet sheet := by
  intro sheet
  obtain ⟨lines, done⟩ := MemoryHost.run_importRequirements found
  refine ⟨_, done, rfl, RequirementImport.ofSheet_exact sheet, ?_, ?_⟩
  · intro records perm apart
    exact RequirementImport.ofSheet_perm perm
      (RequirementImport.lastWith?_perm (perm.filterMap _) apart)
  · exact fun records perm => RequirementImport.ofSheet_perm perm

/-! ## An export with a replaced row -/

namespace Export

/-- Four records: the last one is for the same as the first, and the second has no such
category.  The third has its domain from another test. -/
def content : List UInt8 :=
  Bytes.ofText "category,gender,test_number,minimum_value,is_hard_constraint,domain
C,M,1,250,true,TEE
Z,M,1,1,,TEE
B,K,2,\"8,5\",no,PUTT
C,M,1,255,true,TEE
"

/-- Surroundings that hold a sheet and nothing else. -/
def host (content : List UInt8) : MemoryHost :=
  { files := ({} : FileTree).put ["in.csv"] (.file content), clock := default }

theorem target?_host (content : List UInt8) (path : String) :
    (host content).files.target? path = ({} : FileTree).target? path :=
  FileTree.target?_put_file (by simp [FileTree.find?]) path

theorem look?_sheet (content : List UInt8) :
    (host content).files.look? "in.csv" = some (.file content) := by
  have target : ({} : FileTree).target? "in.csv" = some ["in.csv"] := by decide +kernel
  have usable : Path.isUsable "in.csv" = true := by decide +kernel
  simp only [FileTree.look?, usable, target?_host, target, Bool.not_true, Bool.false_eq_true,
    if_false]
  exact FileTree.find?_put {} ["in.csv"] (.file content) (List.cons_ne_nil _ _)

end Export

/-- Of the export three records are rows, two of them for one test; the later one is kept. -/
theorem import_exact_export :
    (Export.host Export.content).files.look? "in.csv" = some (.file Export.content) ∧
    ∃ imported after,
      (Export.host Export.content).run (importRequirements "in.csv") = (.ok imported, after) ∧
      imported.Exact (.ofBytes Export.content) ∧
      imported.counts = { total := 4, parsed := 3, failed := 1, misplaced := 1, replaced := 1 } ∧
      (imported.rows.filter fun row => row.key = (.c, .male, 1)) =
        [{ category := .c, gender := .male, test := 1, minimum := .ofNat 255, hard := true,
            domain := .teeShots }] := by
  obtain ⟨after, done, -, exact, -⟩ :=
    import_exact (Export.host Export.content) "in.csv" (Export.look?_sheet _)
  exact ⟨Export.look?_sheet _, _, after, done, exact, by decide +kernel,
    (exact.kept _).trans (by decide +kernel)⟩

end GolfProgress
