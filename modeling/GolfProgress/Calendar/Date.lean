/-!
# Dates of the proleptic Gregorian calendar

A date is a year, a month and a day that exist together, in the years -262143
to 262142.  `dayNumber` counts days so that the first day of the year 1 has
number 1, and `ofDayNumber?` finds the date of a number; dates are ordered by
their day numbers.
-/

set_option autoImplicit false

namespace GolfProgress

namespace Calendar

/-- Every fourth year is a leap year, except the centuries not divisible by
four hundred. -/
def isLeap (year : Int) : Bool := year % 4 = 0 && (year % 100 ≠ 0 || year % 400 = 0)

/-- The lengths of the months of a year, January first. -/
def monthLengths (leap : Bool) : List Nat :=
  [31, if leap then 29 else 28, 31, 30, 31, 30, 31, 31, 30, 31, 30, 31]

/-- The number of days in a month; zero when there is no such month. -/
def monthLength (leap : Bool) (month : Nat) : Nat :=
  if month = 0 then 0 else (monthLengths leap).getD (month - 1) 0

/-- The days of a year before its `month`. -/
def daysBeforeMonth (leap : Bool) (month : Nat) : Nat :=
  ((monthLengths leap).take (month - 1)).foldl (· + ·) 0

/-- The days from the first day of the year 1 to the first day of a year. -/
def daysBeforeYear (year : Int) : Int :=
  365 * (year - 1) + (year - 1) / 4 - (year - 1) / 100 + (year - 1) / 400

end Calendar

def Date.minYear : Int := -262143

/-- The last year of the calendar. -/
def Date.maxYear : Int := 262142

/-- A year, month and day that exist together. -/
def Date.Exists (year : Int) (month day : Nat) : Prop :=
  Date.minYear ≤ year ∧ year ≤ Date.maxYear ∧
    1 ≤ day ∧ day ≤ Calendar.monthLength (Calendar.isLeap year) month

instance (year : Int) (month day : Nat) : Decidable (Date.Exists year month day) :=
  inferInstanceAs (Decidable (_ ∧ _))

structure Date where
  year : Int
  month : Nat
  day : Nat
  exists_ : Date.Exists year month day
deriving DecidableEq

namespace Date

open Calendar

/-- The date of a year, month and day, when there is one. -/
def of? (year : Int) (month day : Nat) : Option Date :=
  if known : Exists year month day then some ⟨year, month, day, known⟩ else none

def first : Date := ⟨-262143, 1, 1, by decide⟩

instance : Inhabited Date := ⟨first⟩

/-! ## Day numbers -/

/-- The number of a date, counting days. -/
def dayNumber (date : Date) : Int :=
  daysBeforeYear date.year + daysBeforeMonth (isLeap date.year) date.month + date.day

/-- The month and day that hold the day of index `index` in a run of months. -/
def inMonths (month index : Nat) : List Nat → Nat × Nat
  | [] => (month, index + 1)
  | length :: rest =>
    if index < length then (month, index + 1) else inMonths (month + 1) (index - length) rest

/-- The year of a day number and the index of the day in that year, found by
whole cycles of four hundred, one hundred, four and one years. -/
def yearAndIndex (number : Int) : Int × Nat :=
  let cycles := (number - 1) / 146097
  let inCycle := ((number - 1) % 146097).toNat
  let centuries := min (inCycle / 36524) 3
  let inCentury := inCycle - centuries * 36524
  let quads := inCentury / 1461
  let inQuad := inCentury % 1461
  let years := min (inQuad / 365) 3
  (400 * cycles + (100 * centuries + 4 * quads + years : Nat) + 1, inQuad - years * 365)

/-- The date of a day number, when the calendar reaches it. -/
def ofDayNumber? (number : Int) : Option Date :=
  let (year, index) := yearAndIndex number
  let (month, day) := inMonths 1 index (monthLengths (isLeap year))
  of? year month day

instance : LE Date := ⟨fun a b => a.dayNumber ≤ b.dayNumber⟩
instance : LT Date := ⟨fun a b => a.dayNumber < b.dayNumber⟩
instance (a b : Date) : Decidable (a ≤ b) :=
  inferInstanceAs (Decidable (a.dayNumber ≤ b.dayNumber))
instance (a b : Date) : Decidable (a < b) :=
  inferInstanceAs (Decidable (a.dayNumber < b.dayNumber))

/-- The earlier of two dates. -/
def earlier (a b : Date) : Date := if b < a then b else a

/-- The date a number of days before another, or the first date of the calendar
when it does not reach back that far. -/
def daysBack (date : Date) (days : Nat) : Date :=
  (ofDayNumber? (date.dayNumber - days)).getD first

end Date

end GolfProgress
