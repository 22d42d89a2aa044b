import GolfProgress.Calendar.Date

/-!
# Instants in universal time

An instant is a date, a second of that day and a fraction in nanoseconds.  The
fraction of a leap second counts on past one whole second, so that the instants
of a leap second come after those of the second it extends.
-/

set_option autoImplicit false

namespace GolfProgress

structure Instant where
  date : Date
  second : Nat
  nanosecond : Nat
deriving DecidableEq, Inhabited

namespace Instant

/-- Instants are ordered by date, second and fraction in turn. -/
def isAtMost (a b : Instant) : Bool :=
  decide (a.date < b.date) || (decide (a.date = b.date) &&
    (decide (a.second < b.second) || (decide (a.second = b.second) &&
      decide (a.nanosecond ≤ b.nanosecond))))

instance : LE Instant := ⟨fun a b => a.isAtMost b = true⟩
instance (a b : Instant) : Decidable (a ≤ b) := inferInstanceAs (Decidable (_ = true))

/-- The instant whose clock shows a date and second `offset` seconds ahead of
universal time, when the calendar reaches it. -/
def ofLocal? (date : Date) (second nanosecond : Nat) (offset : Int) : Option Instant := do
  let universal := (second : Int) - offset
  let day ← Date.ofDayNumber? (date.dayNumber + universal / 86400)
  return ⟨day, (universal % 86400).toNat, nanosecond⟩

/-- The instant some seconds after the beginning of 1970, when the calendar
reaches it. -/
def ofSeconds? (seconds : Int) (nanosecond : Nat) : Option Instant := do
  ofLocal? (← Date.of? 1970 1 1) 0 nanosecond (-seconds)

end Instant

end GolfProgress
