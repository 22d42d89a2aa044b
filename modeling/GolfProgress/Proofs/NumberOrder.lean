import GolfProgress.Binary64.Basic

/-!
# The order of numbers

`Binary64.place` puts a number on the line of quanta, the infinities at the limits of
the format.  Numbers that are not not-a-number compare as their places do (`lt_iff`,
`le_iff`), so their order is that of integers.  The key of the total order, which ranks
the zeros and not-a-number too, is the place of a positive number (`orderKey_of_pos`).
-/

set_option autoImplicit false

namespace GolfProgress.Binary64

variable {a b : Binary64}

/-- The signed count of quanta of a number, that of an infinity being the limit of the
format. -/
def place : Binary64 → Int
  | .nan => 0
  | .infinite negative => signed negative limit
  | .finite negative quanta _ => signed negative quanta

/-! ## Comparing places -/

theorem signed_false (quanta : Nat) : signed false quanta = quanta := rfl

theorem signed_true (quanta : Nat) : signed true quanta = -(quanta : Int) := rfl

/-- The place of a finite number lies within the limits. -/
theorem signed_within (negative : Bool) {quanta : Nat} (fits : Fits quanta) :
    -(limit : Int) < signed negative quanta ∧ signed negative quanta < limit := by
  have below := fits.2
  cases negative <;> simp only [signed_false, signed_true] <;> omega

theorem not_isNaN_of_lt (less : a < b) : a.isNaN = false ∧ b.isNaN = false := by
  cases a <;> cases b <;> first | exact ⟨rfl, rfl⟩ | cases less

theorem not_isNaN_of_le (atMost : a ≤ b) : a.isNaN = false ∧ b.isNaN = false := by
  cases a <;> cases b <;> first | exact ⟨rfl, rfl⟩ | cases atMost

/-- Numbers are less as their places are. -/
theorem lt_iff (left : a.isNaN = false) (right : b.isNaN = false) :
    a < b ↔ a.place < b.place := by
  change isLess a b = true ↔ _
  have positive := limit_pos
  cases a with
  | nan => cases left
  | infinite s =>
      cases b with
      | nan => cases right
      | infinite t =>
          cases s <;> cases t <;> simp only [isLess, place, signed_false, signed_true,
            Bool.and_true, Bool.and_false, Bool.not_true, Bool.not_false, Bool.false_eq_true,
            false_iff, true_iff] <;> omega
      | finite t q fits =>
          have within := signed_within t fits
          cases s <;> simp only [isLess, place, signed_false, signed_true, Bool.false_eq_true,
            false_iff, true_iff] <;> omega
  | finite s p fits =>
      have within := signed_within s fits
      cases b with
      | nan => cases right
      | infinite t =>
          cases t <;> simp only [isLess, place, signed_false, signed_true, Bool.not_false,
            Bool.not_true, Bool.false_eq_true, false_iff, true_iff] <;> omega
      | finite t q _ => simp only [isLess, place, decide_eq_true_eq]

/-- Of two numbers, one is at most the other or the other is less. -/
theorem not_le (left : a.isNaN = false) (right : b.isNaN = false) : ¬ a ≤ b ↔ b < a := by
  change ¬ isAtMost a b = true ↔ isLess b a = true
  cases a with
  | nan => cases left
  | infinite s => cases b with
    | nan => cases right
    | infinite t => cases s <;> cases t <;> simp [isAtMost, isLess]
    | finite t q _ => cases s <;> simp [isAtMost, isLess]
  | finite s p _ => cases b with
    | nan => cases right
    | infinite t => cases t <;> simp [isAtMost, isLess]
    | finite t q _ => simp only [isAtMost, isLess, decide_eq_true_eq, Int.not_le]

/-- Of two numbers, one is less or the other is at most it. -/
theorem not_lt (left : a.isNaN = false) (right : b.isNaN = false) : ¬ a < b ↔ b ≤ a := by
  rw [← not_le right left, Classical.not_not]

/-- Numbers are at most one another as their places are. -/
theorem le_iff (left : a.isNaN = false) (right : b.isNaN = false) :
    a ≤ b ↔ a.place ≤ b.place := by
  rw [← Classical.not_not (a := a ≤ b), not_le left right, lt_iff right left, Int.not_lt]

theorem le_of_lt (less : a < b) : a ≤ b := by
  obtain ⟨left, right⟩ := not_isNaN_of_lt less
  rw [lt_iff left right] at less
  exact (le_iff left right).mpr (Int.le_of_lt less)

theorem le_refl (number : a.isNaN = false) : a ≤ a := (le_iff number number).mpr (Int.le_refl _)

theorem le_trans {c : Binary64} (first : a ≤ b) (second : b ≤ c) : a ≤ c := by
  obtain ⟨left, middle⟩ := not_isNaN_of_le first
  have right := (not_isNaN_of_le second).2
  rw [le_iff left middle] at first
  rw [le_iff middle right] at second
  exact (le_iff left right).mpr (Int.le_trans first second)

theorem lt_of_lt_of_le {c : Binary64} (first : a < b) (second : b ≤ c) : a < c := by
  obtain ⟨left, middle⟩ := not_isNaN_of_lt first
  have right := (not_isNaN_of_le second).2
  rw [lt_iff left middle] at first
  rw [le_iff middle right] at second
  exact (lt_iff left right).mpr (Int.lt_of_lt_of_le first second)

/-! ## Positive numbers -/

/-- The number zero is the positive one of the two zeros. -/
theorem zero_eq : (0 : Binary64) = .zero false := by decide +kernel

theorem isNaN_zero : (0 : Binary64).isNaN = false := by
  rw [zero_eq]
  rfl

/-- A positive number is the positive infinity or a positive count of quanta. -/
theorem pos_cases (positive : 0 < a) :
    a = .infinite false ∨ ∃ quanta fits, a = .finite false quanta fits ∧ 0 < quanta := by
  rw [lt_iff (by rw [zero_eq]; rfl) (not_isNaN_of_lt positive).2, zero_eq] at positive
  cases a with
  | nan => simp [place, zero, signed] at positive
  | infinite negative =>
      cases negative
      · exact .inl rfl
      · simp only [place, zero, signed_false, signed_true] at positive
        omega
  | finite negative quanta fits =>
      cases negative
      · refine .inr ⟨quanta, fits, rfl, ?_⟩
        simpa [place, zero, signed] using positive
      · simp only [place, zero, signed_false, signed_true] at positive
        omega

theorem isZero_of_pos (positive : 0 < a) : a.isZero = false := by
  rcases pos_cases positive with rfl | ⟨quanta, fits, rfl, some⟩
  · rfl
  · simpa [isZero] using Nat.ne_of_gt some

/-- The key of a positive number is its place. -/
theorem orderKey_of_pos (positive : 0 < a) : a.orderKey = a.place := by
  rcases pos_cases positive with rfl | ⟨quanta, fits, rfl, -⟩ <;>
    simp only [orderKey, place, signed_false, Bool.false_eq_true, if_false]

end GolfProgress.Binary64
