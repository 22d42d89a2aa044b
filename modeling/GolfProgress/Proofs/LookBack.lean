import GolfProgress.Proofs.ListOrder
import GolfProgress.Rules.Window
import Mathlib.Logic.Function.Iterate

/-!
# Looking back

A window starts a number of days before its last day.  The days are counted through the day
number of a date, and the date of a number is found by whole cycles of four hundred, one hundred,
four and one years and then month by month.  Each of the two searches ends at the place that holds
the day (`yearAndIndex_spec`, `inMonths_spec`), so a number that the calendar reaches comes back as
the date that has it (`dayNumber_daysBack`).

Day numbers are no more than a device.  The day before a date is told by the calendar alone:
it is the day before in the month, or the last day of the month before, or the last day of the year
before (`Date.dayBefore`).  A window goes back one such day after the other, and stays at the first
day of the calendar once it is there (`Date.daysBack_eq_iterate`).
-/

set_option autoImplicit false

namespace GolfProgress

/-! ## Years -/

namespace Calendar

section Cycles

variable {centuries quads years : Nat}

/-- The days before a year that is found in cycles of four hundred, one hundred, four and one
years. -/
theorem daysBeforeYear_of_cycles (cycles : Int) (fewCenturies : centuries ≤ 3)
    (fewQuads : quads ≤ 24) (fewYears : years ≤ 3) :
    daysBeforeYear (400 * cycles + (100 * centuries + 4 * quads + years : Nat) + 1) =
      146097 * cycles + (36524 * centuries + 1461 * quads + 365 * years : Nat) := by
  unfold daysBeforeYear
  omega

/-- The last year of four is a leap year, but for the last year of a century that is not the
last of four. -/
theorem yearLength_of_cycles (cycles : Int) (fewCenturies : centuries ≤ 3)
    (fewQuads : quads ≤ 24) (fewYears : years ≤ 3) :
    yearLength (isLeap (400 * cycles + (100 * centuries + 4 * quads + years : Nat) + 1)) =
      if years = 3 ∧ (quads = 24 → centuries = 3) then 366 else 365 := by
  unfold yearLength isLeap
  grind

end Cycles

/-- The year in which a day number lies, and no other, begins before it and ends with it or
after it. -/
theorem year_unique {number first second : Int}
    (begins : daysBeforeYear first < number) (ends : number ≤ daysBeforeYear (first + 1))
    (begins' : daysBeforeYear second < number) (ends' : number ≤ daysBeforeYear (second + 1)) :
    first = second := by
  rcases Int.lt_trichotomy first second with before | same | after
  · have apart := daysBeforeYear_mono (show first + 1 ≤ second from before)
    omega
  · exact same
  · have apart := daysBeforeYear_mono (show second + 1 ≤ first from after)
    omega

end Calendar

namespace Date

open Calendar

/-- **A day number lies in the year that is found for it.** -/
theorem yearAndIndex_spec (number : Int) :
    daysBeforeYear (yearAndIndex number).1 + (yearAndIndex number).2 + 1 = number ∧
      (yearAndIndex number).2 < yearLength (isLeap (yearAndIndex number).1) := by
  obtain ⟨inCycle, rest⟩ : ∃ inCycle : Nat, (inCycle : Int) = (number - 1) % 146097 :=
    ⟨((number - 1) % 146097).toNat, by omega⟩
  unfold yearAndIndex
  simp only [← rest, Int.toNat_natCast]
  -- the last century of four has a day more, and so has the last year of four
  generalize century : min (inCycle / 36524) 3 = centuries
  generalize within : inCycle - centuries * 36524 = inCentury
  generalize last : min (inCentury % 1461 / 365) 3 = years
  have fewCenturies : centuries ≤ 3 := by omega
  have fewQuads : inCentury / 1461 ≤ 24 := by omega
  have fewYears : years ≤ 3 := by omega
  rw [daysBeforeYear_of_cycles _ fewCenturies fewQuads fewYears,
    yearLength_of_cycles _ fewCenturies fewQuads fewYears]
  constructor
  · omega
  · split <;> omega

end Date

/-! ## Months -/

namespace Date

open Calendar

/-- A day that lies in a run of months is found in the month that holds it. -/
theorem inMonths_spec (month index : Nat) (lengths : List Nat)
    (inside : index < lengths.foldl (· + ·) 0) :
    ∃ earlier length later, lengths = earlier ++ length :: later ∧
      earlier.foldl (· + ·) 0 ≤ index ∧ index < earlier.foldl (· + ·) 0 + length ∧
      inMonths month index lengths =
        (month + earlier.length, index - earlier.foldl (· + ·) 0 + 1) := by
  fun_induction inMonths month index lengths with
  | case1 => cases inside
  | case2 month index length rest here =>
      exact ⟨[], length, rest, rfl, Nat.zero_le _, by simpa using here, rfl⟩
  | case3 month index length rest beyond ih =>
      have total (lengths : List Nat) : (length :: lengths).foldl (· + ·) 0 =
          length + lengths.foldl (· + ·) 0 := by
        simp only [← List.sum_eq_foldl, List.sum_cons]
      rw [total] at inside
      obtain ⟨earlier, found, later, rfl, begins, ends, place⟩ := ih (by omega)
      refine ⟨length :: earlier, found, later, rfl, ?_, ?_, ?_⟩
      · rw [total]
        omega
      · rw [total]
        omega
      · rw [place, total, List.length_cons]
        congr 1
        · omega
        · omega

section Months

variable {leap : Bool} {earlier later : List Nat} {length : Nat}

/-- The month behind some others has its own length and their days before it. -/
theorem month_of_append (split : monthLengths leap = earlier ++ length :: later) :
    monthLength leap (1 + earlier.length) = length ∧
      daysBeforeMonth leap (1 + earlier.length) = earlier.foldl (· + ·) 0 := by
  constructor
  · simp [monthLength, split]
  · simp [daysBeforeMonth, split]

theorem monthLength_pos (leap : Bool) : ∀ month < 13, 1 ≤ month → 1 ≤ monthLength leap month := by
  cases leap <;> decide

/-- A month begins where the one before ends. -/
theorem daysBeforeMonth_pred (leap : Bool) : ∀ month < 13, 1 < month →
    daysBeforeMonth leap month =
      daysBeforeMonth leap (month - 1) + monthLength leap (month - 1) := by
  cases leap <;> decide

/-- A year ends with the last day of December. -/
theorem daysBeforeMonth_december (leap : Bool) :
    daysBeforeMonth leap 12 + 31 = yearLength leap := by
  cases leap <;> rfl

theorem foldl_monthLengths (leap : Bool) :
    (monthLengths leap).foldl (· + ·) 0 = yearLength leap := by
  cases leap <;> rfl

end Months

/-! ## Dates of day numbers -/

section Numbers

variable {date later : Date} {number : Int}

/-- A date is looked for where its day number lies in the years and months, whether they belong to
the calendar or not. -/
theorem exists_ofDayNumber?_eq (number : Int) : ∃ year month day,
    ofDayNumber? number = of? year month day ∧
      1 ≤ day ∧ day ≤ monthLength (isLeap year) month ∧
      daysBeforeYear year + daysBeforeMonth (isLeap year) month + day = number ∧
      number ≤ daysBeforeYear (year + 1) := by
  obtain ⟨year, index, found⟩ : ∃ year index, yearAndIndex number = (year, index) := ⟨_, _, rfl⟩
  have spec := yearAndIndex_spec number
  rw [found] at spec
  dsimp only at spec
  obtain ⟨counts, inside⟩ := spec
  have next := daysBeforeYear_succ year
  rw [← foldl_monthLengths] at inside
  obtain ⟨earlier, length, later, split, begins, ends, place⟩ := inMonths_spec 1 index _ inside
  obtain ⟨long, behind⟩ := month_of_append split
  rw [foldl_monthLengths] at inside
  refine ⟨year, 1 + earlier.length, index - earlier.foldl (· + ·) 0 + 1, ?_, ?_, ?_, ?_, ?_⟩
  · rw [ofDayNumber?, found]
    dsimp only
    rw [place]
  · omega
  · omega
  · omega
  · omega

theorem daysBeforeYear_lt_dayNumber (date : Date) :
    daysBeforeYear date.year < date.dayNumber ∧
      date.dayNumber ≤ daysBeforeYear (date.year + 1) := by
  have next := daysBeforeYear_succ date.year
  have bounds := date.dayOfYear_bounds
  rw [dayNumber_eq]
  omega

/-- **The date of a day number is the one that has it.** -/
theorem ofDayNumber?_eq_some : ofDayNumber? number = some date ↔ date.dayNumber = number := by
  obtain ⟨year, month, day, place, first, last, counts, ends⟩ := exists_ofDayNumber?_eq number
  rw [place]
  have sound {found : Date} (looked : of? year month day = some found) :
      found.dayNumber = number := by
    unfold of? at looked
    split at looked
    · cases looked
      exact counts
    · cases looked
  refine ⟨sound, fun has => ?_⟩
  have begins : daysBeforeYear year < number := by omega
  obtain ⟨begins', ends'⟩ := date.daysBeforeYear_lt_dayNumber
  rw [has] at begins' ends'
  obtain rfl : year = date.year := year_unique begins ends begins' ends'
  have known : Date.Exists date.year month day :=
    ⟨date.exists_.1, date.exists_.2.1, first, last⟩
  have looked : of? date.year month day = some ⟨date.year, month, day, known⟩ := dif_pos known
  rw [looked, eq_of_dayNumber ((sound looked).trans has.symm)]

/-- No date is before the first. -/
theorem first_le (date : Date) : first.dayNumber ≤ date.dayNumber := by
  have begins : first.dayNumber = daysBeforeYear minYear + 1 := rfl
  have early : daysBeforeYear minYear ≤ daysBeforeYear date.year :=
    daysBeforeYear_mono date.exists_.1
  have within := date.daysBeforeYear_lt_dayNumber
  omega

/-- The calendar has no gaps. -/
theorem exists_of_le (reached : first.dayNumber ≤ number) (upTo : number ≤ later.dayNumber) :
    ∃ date : Date, date.dayNumber = number := by
  obtain ⟨year, month, day, -, begins, ends, counts, next⟩ := exists_ofDayNumber?_eq number
  have within := later.daysBeforeYear_lt_dayNumber
  have early : minYear ≤ year := by
    refine Int.not_lt.mp fun before => ?_
    have apart := daysBeforeYear_mono (show year + 1 ≤ minYear from before)
    have begins : first.dayNumber = daysBeforeYear minYear + 1 := rfl
    omega
  have late : year ≤ maxYear := by
    refine Int.le_trans (Int.not_lt.mp fun after => ?_) later.exists_.2.1
    have apart := daysBeforeYear_mono (show later.year + 1 ≤ year from after)
    omega
  exact ⟨⟨year, month, day, early, late, begins, ends⟩, counts⟩

/-- **Going back takes the days off the number of a date**, down to the number of the first. -/
theorem dayNumber_daysBack (date : Date) (days : Nat) :
    (date.daysBack days).dayNumber = max (date.dayNumber - days) first.dayNumber := by
  unfold daysBack
  rcases Int.lt_or_le (date.dayNumber - days) first.dayNumber with before | reached
  · have none : ofDayNumber? (date.dayNumber - days) = none := by
      refine Option.eq_none_iff_forall_ne_some.mpr fun found looked => ?_
      have has := ofDayNumber?_eq_some.mp looked
      have least := found.first_le
      omega
    rw [none, Option.getD_none]
    omega
  · have upTo : date.dayNumber - days ≤ date.dayNumber := by omega
    obtain ⟨found, has⟩ := exists_of_le reached upTo
    rw [ofDayNumber?_eq_some.mpr has, Option.getD_some]
    omega

end Numbers

/-! ## The day before -/

/-- The day before a date as the calendar tells it: in the month, in the month before, or in the
year before.  The first date stays where it is. -/
def dayBefore (date : Date) : Date :=
  if inMonth : 1 < date.day then
    ⟨date.year, date.month, date.day - 1, by
      obtain ⟨early, late, -, last⟩ := date.exists_
      exact ⟨early, late, by omega, by omega⟩⟩
  else if inYear : 1 < date.month then
    ⟨date.year, date.month - 1, monthLength (isLeap date.year) (date.month - 1), by
      obtain ⟨early, late, -, -⟩ := date.exists_
      have inside := date.month_bounds.2
      exact ⟨early, late, monthLength_pos _ _ (by omega) (by omega), Nat.le_refl _⟩⟩
  else if inCalendar : minYear < date.year then
    ⟨date.year - 1, 12, 31, by
      obtain ⟨-, late, -, -⟩ := date.exists_
      exact ⟨by omega, by omega, by decide, by cases isLeap (date.year - 1) <;> decide⟩⟩
  else date

/-- The day before has the number before, unless there is none before the date. -/
theorem dayBefore_cases (date : Date) : date.dayBefore.dayNumber + 1 = date.dayNumber ∨
    date.dayBefore = date ∧ date.dayNumber = first.dayNumber := by
  obtain ⟨real, inside⟩ := date.month_bounds
  obtain ⟨early, -, positive, -⟩ := date.exists_
  unfold dayBefore
  split
  · next inMonth =>
      refine .inl ?_
      simp only [dayNumber]
      omega
  · split
    · next inYear =>
        have together := daysBeforeMonth_pred (isLeap date.year) date.month inside inYear
        refine .inl ?_
        simp only [dayNumber]
        omega
    · next newYear =>
        have month : date.month = 1 := by omega
        have january : daysBeforeMonth (isLeap date.year) date.month = 0 := by
          rw [month]
          rfl
        split
        · next inCalendar =>
            have next := daysBeforeYear_succ (date.year - 1)
            have december := daysBeforeMonth_december (isLeap (date.year - 1))
            rw [Int.sub_add_cancel] at next
            refine .inl ?_
            simp only [dayNumber]
            omega
        · next least =>
            have begins : first.dayNumber = daysBeforeYear minYear + 1 := rfl
            have year : date.year = minYear := by omega
            refine .inr ⟨rfl, ?_⟩
            rw [dayNumber, january, year]
            omega

theorem dayNumber_dayBefore (date : Date) :
    date.dayBefore.dayNumber = max (date.dayNumber - 1) first.dayNumber := by
  have least := date.dayBefore.first_le
  rcases date.dayBefore_cases with before | ⟨stays, has⟩
  · omega
  · rw [stays]
    omega

/-- **Going back is going to the day before, as many times as there are days.** -/
theorem daysBack_eq_iterate (date : Date) (days : Nat) :
    date.daysBack days = dayBefore^[days] date := by
  refine eq_of_dayNumber ?_
  rw [dayNumber_daysBack]
  induction days with
  | zero =>
      have least := date.first_le
      rw [Function.iterate_zero_apply]
      omega
  | succ days ih =>
      rw [Function.iterate_succ_apply', dayNumber_dayBefore, ← ih]
      omega

section Order

variable {earlier later : Date} {fewer more : Nat}

theorem daysBack_le (date : Date) (days : Nat) : date.daysBack days ≤ date := by
  have least := date.first_le
  change dayNumber _ ≤ dayNumber _
  rw [dayNumber_daysBack]
  omega

theorem daysBack_le_daysBack (dates : earlier ≤ later) (days : fewer ≤ more) :
    earlier.daysBack more ≤ later.daysBack fewer := by
  change earlier.dayNumber ≤ later.dayNumber at dates
  change dayNumber _ ≤ dayNumber _
  rw [dayNumber_daysBack, dayNumber_daysBack]
  omega

/-- Going back twice is going back by all the days. -/
theorem daysBack_daysBack (date : Date) (days further : Nat) :
    (date.daysBack days).daysBack further = date.daysBack (days + further) := by
  simp only [daysBack_eq_iterate]
  rw [Nat.add_comm, Function.iterate_add_apply]

end Order

end Date

/-! ## Windows -/

namespace RuleRequest

/-- **Windows look back by whole days, and no further than the calendar.**

A window starts at the one date that has the number of its last day less the days, or at the
first date when that number is before it.  So it starts where one comes who goes to the day before
once for each day; it starts no later than it ends, no earlier when it ends later or has fewer
days, and a window that ends where another one starts starts where their days together lead. -/
theorem windows_look_back (asOf : Date) (days : UInt32) :
    (∀ date : Date, date = windowStart asOf days ↔
      date.dayNumber = max (asOf.dayNumber - days.toNat) Date.first.dayNumber) ∧
    windowStart asOf days = Date.dayBefore^[days.toNat] asOf ∧
    windowStart asOf days ≤ asOf ∧
    (∀ later, asOf ≤ later → windowStart asOf days ≤ windowStart later days) ∧
    (∀ more, days ≤ more → windowStart asOf more ≤ windowStart asOf days) ∧
    ∀ further : UInt32, days.toNat + further.toNat < UInt32.size →
      windowStart (windowStart asOf days) further = windowStart asOf (days + further) := by
  have number : (windowStart asOf days).dayNumber = _ := asOf.dayNumber_daysBack days.toNat
  refine ⟨fun date => ⟨?_, fun has => Date.eq_of_dayNumber (has.trans number.symm)⟩,
    asOf.daysBack_eq_iterate days.toNat, asOf.daysBack_le days.toNat, ?_, ?_, ?_⟩
  · rintro rfl
    exact number
  · exact fun later dates => Date.daysBack_le_daysBack dates (Nat.le_refl _)
  · intro more longer
    have self : asOf ≤ asOf := Int.le_refl asOf.dayNumber
    exact Date.daysBack_le_daysBack self (UInt32.le_iff_toNat_le.mp longer)
  · intro further fits
    have total : (days + further).toNat = days.toNat + further.toNat := by
      rw [UInt32.toNat_add]
      exact Nat.mod_eq_of_lt fits
    unfold windowStart
    rw [total]
    exact asOf.daysBack_daysBack days.toNat further.toNat

/-- From the first of March in a leap year, a window of a day starts on the leap day.  The longest
window starts on the first day of the calendar, and is reached by way of the leap day as well. -/
theorem leap_day_windows :
    windowStart ⟨2024, 3, 1, by decide⟩ 1 = ⟨2024, 2, 29, by decide⟩ ∧
      windowStart ⟨2024, 3, 1, by decide⟩ 4294967295 = Date.first ∧
      windowStart (windowStart ⟨2024, 3, 1, by decide⟩ 1) 4294967294 =
        windowStart ⟨2024, 3, 1, by decide⟩ 4294967295 ∧
      windowStart ⟨2024, 3, 1, by decide⟩ 4294967295 ≤ windowStart ⟨2024, 3, 1, by decide⟩ 1 := by
  obtain ⟨start, -, -, -, shorter, adds⟩ := windows_look_back ⟨2024, 3, 1, by decide⟩ 1
  obtain ⟨start', -⟩ := windows_look_back ⟨2024, 3, 1, by decide⟩ 4294967295
  exact ⟨((start _).mpr (by decide)).symm, ((start' _).mpr (by decide)).symm,
    adds 4294967294 (by decide), shorter 4294967295 (by decide)⟩

/-- Fourteen days back from the middle of May, the end of April. -/
example : windowStart ⟨2026, 5, 12, by decide⟩ 14 = ⟨2026, 4, 28, by decide⟩ := by decide +kernel

end RuleRequest

end GolfProgress
