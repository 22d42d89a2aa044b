import GolfProgress.Proofs.RecordUpdate
import Mathlib.Data.List.Nodup

/-!
# The order of lists

The records of a player are listed by the instant of their creation, and those that were
created at once by their identifiers.  This is a total order of the records of a store:
dates are told apart by their numbers (`Date.eq_of_dayNumber`), so instants are in a total
order, and no two records have one identifier.

`BreakingPointStore.of_listForPlayer` says what a list holds and in which order.
-/

set_option autoImplicit false

namespace GolfProgress

/-! ## Dates -/

namespace Calendar

/-- The number of days of a year. -/
def yearLength (leap : Bool) : Nat := if leap then 366 else 365

theorem daysBeforeYear_succ (year : Int) :
    daysBeforeYear (year + 1) = daysBeforeYear year + yearLength (isLeap year) := by
  unfold daysBeforeYear yearLength isLeap
  grind

theorem daysBeforeYear_mono {first second : Int} (before : first ≤ second) :
    daysBeforeYear first ≤ daysBeforeYear second := by
  unfold daysBeforeYear
  omega

/-- Only the twelve months have days. -/
theorem month_of_monthLength {leap : Bool} {month : Nat} (days : 0 < monthLength leap month) :
    1 ≤ month ∧ month < 13 := by
  unfold monthLength at days
  split at days
  · cases days
  · next positive =>
      refine ⟨Nat.pos_of_ne_zero positive, Nat.lt_of_not_le fun beyond => ?_⟩
      have outside : (monthLengths leap).length ≤ month - 1 := by
        simp only [monthLengths, List.length_cons, List.length_nil]
        omega
      simp [List.getD_eq_getElem?_getD, List.getElem?_eq_none outside] at days

/-- A month ends within its year. -/
theorem daysBeforeMonth_add_le (leap : Bool) : ∀ month < 13, 1 ≤ month →
    daysBeforeMonth leap month + monthLength leap month ≤ yearLength leap := by
  cases leap <;> decide

/-- A month ends before the later months begin. -/
theorem daysBeforeMonth_add_le_of_lt (leap : Bool) : ∀ second < 13, ∀ first < second, 1 ≤ first →
    daysBeforeMonth leap first + monthLength leap first ≤ daysBeforeMonth leap second := by
  cases leap <;> decide

end Calendar

namespace Date

open Calendar

variable {first second : Date}

/-- The number of a date in its year, the first day being the first. -/
def dayOfYear (date : Date) : Nat := daysBeforeMonth (isLeap date.year) date.month + date.day

theorem month_bounds (date : Date) : 1 ≤ date.month ∧ date.month < 13 := by
  obtain ⟨-, -, first, last⟩ := date.exists_
  exact month_of_monthLength (Nat.lt_of_lt_of_le first last)

theorem dayOfYear_bounds (date : Date) :
    1 ≤ date.dayOfYear ∧ date.dayOfYear ≤ yearLength (isLeap date.year) := by
  obtain ⟨-, -, first, last⟩ := date.exists_
  obtain ⟨real, inside⟩ := date.month_bounds
  have room := daysBeforeMonth_add_le (isLeap date.year) date.month inside real
  unfold dayOfYear
  omega

theorem dayNumber_eq (date : Date) :
    date.dayNumber = daysBeforeYear date.year + date.dayOfYear := by
  simp [dayNumber, dayOfYear, Int.add_assoc]

theorem dayNumber_lt_of_year (before : first.year < second.year) :
    first.dayNumber < second.dayNumber := by
  have within := first.dayOfYear_bounds.2
  have begins := second.dayOfYear_bounds.1
  have next := daysBeforeYear_succ first.year
  have later : daysBeforeYear (first.year + 1) ≤ daysBeforeYear second.year :=
    daysBeforeYear_mono before
  rw [dayNumber_eq, dayNumber_eq]
  omega

theorem dayOfYear_lt_of_month (year : first.year = second.year)
    (before : first.month < second.month) : first.dayOfYear < second.dayOfYear := by
  obtain ⟨-, -, -, last⟩ := first.exists_
  obtain ⟨-, -, begins, -⟩ := second.exists_
  have ends := daysBeforeMonth_add_le_of_lt (isLeap first.year) second.month
    second.month_bounds.2 first.month before first.month_bounds.1
  unfold dayOfYear
  rw [year] at *
  omega

/-- Dates are in the order of their years, months and days. -/
theorem lt_iff : first < second ↔ first.year < second.year ∨
    first.year = second.year ∧ (first.month < second.month ∨
      first.month = second.month ∧ first.day < second.day) := by
  change first.dayNumber < second.dayNumber ↔ _
  rcases Int.lt_trichotomy first.year second.year with before | year | after
  · have apart := dayNumber_lt_of_year before
    omega
  · rw [dayNumber_eq, dayNumber_eq, year]
    rcases Nat.lt_trichotomy first.month second.month with before | month | after
    · have apart := dayOfYear_lt_of_month year before
      omega
    · unfold dayOfYear
      rw [year, month]
      omega
    · have apart := dayOfYear_lt_of_month year.symm after
      omega
  · have apart := dayNumber_lt_of_year after
    omega

/-- **No two dates have one number.** -/
theorem eq_of_dayNumber (same : first.dayNumber = second.dayNumber) : first = second := by
  have least : ¬ first < second := Int.not_lt.mpr (Int.le_of_eq same.symm)
  have most : ¬ second < first := Int.not_lt.mpr (Int.le_of_eq same)
  rw [lt_iff] at least most
  have fields : first.year = second.year ∧ first.month = second.month ∧ first.day = second.day := by
    omega
  cases first
  cases second
  simp_all

end Date

/-! ## Instants -/

namespace Instant

variable {first second third : Instant}

theorem le_iff : first ≤ second ↔ first.date.dayNumber < second.date.dayNumber ∨
    (first.date.dayNumber = second.date.dayNumber ∧ (first.second < second.second ∨
      (first.second = second.second ∧ first.nanosecond ≤ second.nanosecond))) := by
  have same : first.date = second.date ↔ first.date.dayNumber = second.date.dayNumber :=
    ⟨congrArg Date.dayNumber, Date.eq_of_dayNumber⟩
  change first.isAtMost second = true ↔ _
  simp only [isAtMost, Bool.or_eq_true, Bool.and_eq_true, decide_eq_true_eq, same]
  rfl

theorem le_total (first second : Instant) : first ≤ second ∨ second ≤ first := by
  rw [le_iff, le_iff]
  omega

theorem le_trans (early : first ≤ second) (late : second ≤ third) : first ≤ third := by
  rw [le_iff] at *
  omega

theorem le_antisymm (early : first ≤ second) (late : second ≤ first) : first = second := by
  rw [le_iff] at *
  have date : first.date = second.date := Date.eq_of_dayNumber (by omega)
  have clock : first.second = second.second ∧ first.nanosecond = second.nanosecond := by omega
  obtain ⟨second', nanosecond⟩ := clock
  cases first
  cases second
  simp_all

end Instant

/-! ## Records by identifier -/

namespace BreakingPointStore

variable {store : BreakingPointStore} {id : Uuid} {point : BreakingPoint}

/-- Every record is found under its own identifier. -/
theorem find?_eq_some :
    store.find? id = some point ↔ point ∈ store.records ∧ point.id = id := by
  constructor
  · exact fun found => ⟨List.mem_of_find?_eq_some found, id_of_find? found⟩
  · rintro ⟨inside, rfl⟩
    have known : (store.find? point.id).isSome = true :=
      List.find?_isSome.mpr ⟨point, inside, by simp⟩
    obtain ⟨stored, found⟩ := Option.isSome_iff_exists.mp known
    rw [found, List.inj_on_of_nodup_map store.distinct (List.mem_of_find?_eq_some found) inside
      (id_of_find? found)]

end BreakingPointStore

/-! ## Lists -/

/-- A record was created before another one, or at once with it and has the lower
identifier. -/
def BreakingPoint.Precedes (first second : BreakingPoint) : Prop :=
  (first.createdAt ≤ second.createdAt ∧ first.createdAt ≠ second.createdAt) ∨
    (first.createdAt = second.createdAt ∧ first.id.value < second.id.value)

namespace BreakingPointStore

theorem isListedBefore_iff {first second : BreakingPoint} : isListedBefore first second = true ↔
    first.createdAt ≤ second.createdAt ∧
      (first.createdAt = second.createdAt → first.id.value ≤ second.id.value) := by
  unfold isListedBefore
  split
  · next same =>
      have together : first.createdAt ≤ second.createdAt := by
        rcases Instant.le_total first.createdAt second.createdAt with before | after
        · exact before
        · rw [same] at after ⊢
          exact after
      simp [same ▸ together, same]
  · next apart => simp [apart]

theorem isListedBefore_trans (first second third : BreakingPoint)
    (early : isListedBefore first second = true) (late : isListedBefore second third = true) :
    isListedBefore first third = true := by
  rw [isListedBefore_iff] at *
  refine ⟨Instant.le_trans early.1 late.1, fun same => ?_⟩
  -- created at once, the three have one instant
  have met : first.createdAt = second.createdAt :=
    Instant.le_antisymm early.1 (same ▸ late.1)
  exact BitVec.le_trans (early.2 met) (late.2 (met ▸ same))

theorem isListedBefore_total (first second : BreakingPoint) :
    (isListedBefore first second || isListedBefore second first) = true := by
  rw [Bool.or_eq_true, isListedBefore_iff, isListedBefore_iff]
  by_cases same : first.createdAt = second.createdAt
  · have together : second.createdAt ≤ second.createdAt :=
      (Instant.le_total _ _).elim (fun le => le) (fun le => le)
    simpa [same, together] using BitVec.le_total first.id.value second.id.value
  · simpa [same, Ne.symm same] using Instant.le_total first.createdAt second.createdAt

theorem precedes_of_isListedBefore {first second : BreakingPoint}
    (before : isListedBefore first second = true) (apart : first.id ≠ second.id) :
    first.Precedes second := by
  rw [isListedBefore_iff] at before
  by_cases same : first.createdAt = second.createdAt
  · have apart : first.id.value.toNat ≠ second.id.value.toNat := fun equal =>
      apart (congrArg Uuid.mk (BitVec.eq_of_toNat_eq equal))
    have most := BitVec.le_def.mp (before.2 same)
    exact .inr ⟨same, BitVec.lt_def.mpr (by omega)⟩
  · exact .inl ⟨before.1, same⟩

/-- **A list holds the records of a player, each once and in order.** -/
theorem of_listForPlayer {store : BreakingPointStore} {player : Uuid}
    {points : List BreakingPoint} (listed : store.listForPlayer player = .ok points) :
    points.Pairwise BreakingPoint.Precedes ∧
      ∀ point, point ∈ points ↔ store.find? point.id = some point ∧ point.player = player := by
  unfold BreakingPointStore.listForPlayer at listed
  split at listed
  · cases listed
  · obtain rfl := Except.ok.inj listed
    have listed := List.mergeSort_perm
      (store.records.filter fun point => point.player = player) isListedBefore
    have apart : (((store.records.filter fun point => point.player = player).mergeSort
        isListedBefore).map (·.id)).Nodup :=
      (listed.map _).nodup_iff.mpr (List.Nodup.sublist (List.filter_sublist.map _) store.distinct)
    constructor
    · have ordered := List.pairwise_mergeSort isListedBefore_trans isListedBefore_total
        (store.records.filter fun point => point.player = player)
      exact (ordered.and (List.pairwise_map.mp apart)).imp fun both =>
        precedes_of_isListedBefore both.1 both.2
    · intro point
      rw [listed.mem_iff, List.mem_filter, find?_eq_some]
      simp

end BreakingPointStore

end GolfProgress
