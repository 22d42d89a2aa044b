import GolfProgress.Binary64.Decimal
import GolfProgress.Proofs.Rounding

/-!
# Decimal text reads back

The text of a finite number denotes that number (`ofChars?_toChars`), the sign of a zero
included.  Its digits are chosen to read back (`ofDecimalValue_shortest`), and neither
the layout without an exponent nor the reading of that layout changes what they denote
(`readDecimal?_positional`, `ofDecimal_scaled`).
-/

set_option autoImplicit false

namespace GolfProgress

/-! ## Runs of digits -/

namespace Text

variable {value count : Nat} {text : List Char}

theorem isDigit_of_mem_digitsOf {c : Char} (member : c ∈ digitsOf value) : c.isDigit = true :=
  Nat.isDigit_of_mem_toDigits (by decide) (by decide) member

theorem takeWhile_isDigit (digits : ∀ c ∈ text, c.isDigit = true) :
    text.takeWhile Char.isDigit = text := by
  have kept : (text ++ []).takeWhile Char.isDigit = text ++ [].takeWhile Char.isDigit :=
    List.takeWhile_append_of_pos digits
  simpa using kept

theorem dropWhile_isDigit (digits : ∀ c ∈ text, c.isDigit = true) :
    text.dropWhile Char.isDigit = [] := by
  have dropped : (text ++ []).dropWhile Char.isDigit = [].dropWhile Char.isDigit :=
    List.dropWhile_append_of_pos digits
  simpa using dropped

theorem digitsOf_ne_nil (value : Nat) : digitsOf value ≠ [] := Nat.toDigits_ne_nil

theorem valueOf_append_zero (text : List Char) : valueOf (text ++ ['0']) = 10 * valueOf text := by
  rw [valueOf, List.foldl_append]
  rfl

/-- The digits of a number have its value. -/
theorem valueOf_digitsOf (value : Nat) : valueOf (digitsOf value) = value :=
  Nat.ofDigitChars_toDigits (by decide) (by decide)

theorem valueOf_append_zeros (text : List Char) (count : Nat) :
    valueOf (text ++ List.replicate count '0') = valueOf text * Nat.pow 10 count := by
  induction count with
  | zero => simp [Nat.pow]
  | succ count ih =>
      rw [List.replicate_succ', ← List.append_assoc, valueOf_append_zero, ih]
      exact (Nat.mul_left_comm _ _ _).trans (congrArg _ Nat.pow_succ'.symm)

theorem valueOf_zeros_append (count : Nat) (text : List Char) :
    valueOf (List.replicate count '0' ++ text) = valueOf text := by
  induction count with
  | zero => rfl
  | succ count ih => exact ih

theorem length_digitsOf_scaled (positive : 0 < value) (count : Nat) :
    (digitsOf (value * Nat.pow 10 count)).length = (digitsOf value).length + count := by
  induction count with
  | zero => simp [Nat.pow]
  | succ count ih =>
      have scaled : 0 < value * Nat.pow 10 count := Nat.mul_pos positive (Nat.pow_pos (by decide))
      have next : value * Nat.pow 10 (count + 1) = 10 * (value * Nat.pow 10 count) + 0 :=
        (congrArg _ Nat.pow_succ').trans (Nat.mul_left_comm _ _ _)
      have digits := Nat.toDigits_append_toDigits (b := 10) (d := 0) (by decide) scaled (by decide)
      rw [digitsOf, next, ← digits, List.length_append]
      exact congrArg (· + 1) ih

theorem length_digitsOf_le_iff (positive : 0 < count) :
    (digitsOf value).length ≤ count ↔ value < Nat.pow 10 count :=
  Nat.length_toDigits_le_iff (by decide) positive

theorem lt_length_digitsOf (positive : 0 < count) (most : Nat.pow 10 count ≤ value) :
    count < (digitsOf value).length :=
  Nat.lt_of_not_le fun few =>
    Nat.not_lt.mpr most ((length_digitsOf_le_iff positive).mp few)

end Text

namespace Binary64

open Text

/-! ## Reading the layout -/

section Layout

variable {whole fraction : List Char}

theorem readDecimal?_whole (digits : ∀ c ∈ whole, c.isDigit = true) (filled : whole ≠ []) :
    readDecimal? whole = some ⟨valueOf whole, 0⟩ := by
  simp [readDecimal?, takeWhile_isDigit digits, dropWhile_isDigit digits, filled, readExponent?]

theorem readDecimal?_point (digits : ∀ c ∈ whole, c.isDigit = true) (filled : whole ≠ [])
    (places : ∀ c ∈ fraction, c.isDigit = true) :
    readDecimal? (whole ++ '.' :: fraction) =
      some ⟨valueOf (whole ++ fraction), -(fraction.length : Int)⟩ := by
  have kept : (whole ++ '.' :: fraction).takeWhile Char.isDigit = whole := by
    rw [List.takeWhile_append_of_pos digits, List.takeWhile_cons_of_neg (by decide),
      List.append_nil]
  have rest : (whole ++ '.' :: fraction).dropWhile Char.isDigit = '.' :: fraction := by
    rw [List.dropWhile_append_of_pos digits, List.dropWhile_cons_of_neg (by decide)]
  simp [readDecimal?, kept, rest, takeWhile_isDigit places, dropWhile_isDigit places, filled,
    readExponent?]

theorem readDecimal?_among {digits : List Char} {places : Nat}
    (plain : ∀ c ∈ digits, c.isDigit = true) (among : places < digits.length) :
    readDecimal? (digits.take (digits.length - places) ++
      '.' :: digits.drop (digits.length - places)) = some ⟨valueOf digits, -(places : Int)⟩ := by
  have front : ∀ c ∈ digits.take (digits.length - places), c.isDigit = true :=
    fun c member => plain c (List.mem_of_mem_take member)
  have back : ∀ c ∈ digits.drop (digits.length - places), c.isDigit = true :=
    fun c member => plain c (List.mem_of_mem_drop member)
  have filled : digits.take (digits.length - places) ≠ [] := by
    refine List.ne_nil_of_length_pos ?_
    rw [List.length_take]
    omega
  rw [readDecimal?_point front filled back, List.take_append_drop, List.length_drop,
    Nat.sub_sub_self (Nat.le_of_lt among)]

theorem readDecimal?_before {digits : List Char} {places : Nat}
    (plain : ∀ c ∈ digits, c.isDigit = true) (before : digits.length ≤ places) :
    readDecimal? ('0' :: '.' :: (List.replicate (places - digits.length) '0' ++ digits)) =
      some ⟨valueOf digits, -(places : Int)⟩ := by
  have back : ∀ c ∈ List.replicate (places - digits.length) '0' ++ digits, c.isDigit = true := by
    intro c member
    rcases List.mem_append.mp member with zero | digit
    · rw [List.eq_of_mem_replicate zero]
      rfl
    · exact plain c digit
  have front : ∀ c ∈ ['0'], c.isDigit = true := fun c member => by
    rw [List.mem_singleton.mp member]
    rfl
  have value : valueOf (['0'] ++ (List.replicate (places - digits.length) '0' ++ digits)) =
      valueOf digits := (valueOf_zeros_append 1 _).trans (valueOf_zeros_append _ digits)
  have width : places - digits.length + digits.length = places := by omega
  have read := readDecimal?_point front (List.cons_ne_nil _ _) back
  rwa [value, List.length_append, List.length_replicate, width] at read

end Layout

/-- A decimal with its trailing zeros written out. -/
def writtenOut (value : Decimal) : Decimal :=
  if 0 ≤ value.exponent then ⟨value.digits * Nat.pow 10 value.exponent.toNat, 0⟩ else value

/-- The layout of a decimal is read as the decimal with its zeros written out. -/
theorem readDecimal?_positional (value : Decimal) :
    readDecimal? (positional value) = some (writtenOut value) := by
  obtain ⟨digits, exponent⟩ := value
  have plain : ∀ c ∈ digitsOf digits, c.isDigit = true := fun c => isDigit_of_mem_digitsOf
  have filled := digitsOf_ne_nil digits
  unfold positional writtenOut
  dsimp only
  split
  · next whole =>
      rw [readDecimal?_whole _ (by simp [filled]), valueOf_append_zeros, valueOf_digitsOf]
      intro c member
      rcases List.mem_append.mp member with digit | zero
      · exact plain c digit
      · rw [List.eq_of_mem_replicate zero]
        decide
  · next below =>
      obtain ⟨places, rfl⟩ : ∃ places : Nat, exponent = -(places : Int) :=
        ⟨(-exponent).toNat, by omega⟩
      simp only [Int.neg_neg, Int.toNat_natCast]
      split
      · next among => rw [readDecimal?_among plain among, valueOf_digitsOf]
      · next before =>
          rw [readDecimal?_before plain (Nat.le_of_not_lt before), valueOf_digitsOf]

/-! ## The digits denote the number -/

/-- Zeros may stand for a power of ten. -/
theorem ofDecimal_scaled (negative : Bool) (digits count : Nat) :
    ofDecimal negative (digits * Nat.pow 10 count) 0 = ofDecimal negative digits count := by
  rcases Nat.eq_zero_or_pos digits with rfl | positive
  · simp [ofDecimal]
  · have scaled : digits * Nat.pow 10 count ≠ 0 :=
      Nat.ne_of_gt (Nat.mul_pos positive (Nat.pow_pos (by decide)))
    have length : (((digitsOf (digits * Nat.pow 10 count)).length : Nat) : Int) + 0 =
        (digitsOf digits).length + (count : Int) := by
      rw [length_digitsOf_scaled positive]
      omega
    unfold digitsOf at length
    simp only [ofDecimal, length, scaled, Nat.ne_of_gt positive, Int.natCast_nonneg, Int.le_refl,
      Int.toNat_natCast, Int.toNat_zero, if_true, show Nat.pow 10 0 = 1 from rfl, Nat.mul_one]

theorem ofDecimalValue_writtenOut (negative : Bool) (value : Decimal) :
    ofDecimalValue negative (writtenOut value) = ofDecimalValue negative value := by
  obtain ⟨digits, exponent⟩ := value
  unfold writtenOut
  split
  · next whole =>
      obtain ⟨count, rfl⟩ := Int.eq_ofNat_of_zero_le whole
      exact ofDecimal_scaled negative digits count
  · rfl

/-- All the decimal places of a count of quanta denote it. -/
theorem ofDecimalValue_exactDecimal (negative : Bool) {quanta : Nat} (fits : Fits quanta)
    (positive : 0 < quanta) :
    ofDecimalValue negative (exactDecimal quanta) = ofQuotient negative quanta 1 := by
  -- the widths are named so that no power is worked out
  have some : 0 < Nat.pow 5 1074 := by decide +kernel
  obtain ⟨few, width, least⟩ : ∃ few, few = 743 ∧ Nat.pow 10 few ≤ Nat.pow 5 1074 :=
    ⟨743, rfl, by decide +kernel⟩
  obtain ⟨many, bound, most⟩ : ∃ many, many = 1404 ∧ limit * Nat.pow 5 1074 ≤ Nat.pow 10 many :=
    ⟨1404, rfl, by decide +kernel⟩
  have shape : Nat.pow 5 1074 * quantaPerUnit = Nat.pow 10 1074 := by decide +kernel
  unfold ofDecimalValue exactDecimal ofDecimal
  generalize Nat.pow 5 1074 = fives at some least most shape ⊢
  -- the places are between those that are answered without forming the power
  have low : few < (Nat.toDigits 10 (quanta * fives)).length :=
    lt_length_digitsOf (by omega) (Nat.le_trans least (Nat.le_mul_of_pos_left _ positive))
  have high : (Nat.toDigits 10 (quanta * fives)).length ≤ many :=
    (length_digitsOf_le_iff (by omega)).mpr
      (Nat.lt_of_lt_of_le (Nat.mul_lt_mul_of_pos_right (fits_iff.mp fits).2 some) most)
  have digits : quanta * fives ≠ 0 := Nat.ne_of_gt (Nat.mul_pos positive some)
  dsimp only
  rw [if_neg (by omega), if_neg (by omega), if_neg (by decide)]
  have tens : (-(-1074 : Int)).toNat = 1074 := rfl
  rw [tens, Nat.mul_assoc, shape]
  generalize 1074 = places
  have scaled : ofQuotient negative (quanta * Nat.pow 10 places) (1 * Nat.pow 10 places) =
      ofQuotient negative quanta 1 := ofQuotient_scaled negative (Nat.pow_pos (by decide))
  rwa [Nat.one_mul] at scaled

/-- The fewest digits that read back denote the number. -/
theorem ofDecimalValue_shortest (negative : Bool) {quanta : Nat} (fits : Fits quanta)
    (positive : 0 < quanta) :
    ofDecimalValue negative (shortest negative quanta) = .finite negative quanta fits := by
  rw [← ofQuotient_one negative fits, shortest]
  cases found : (List.range 24).findSome? fun (step : Nat) =>
      onGrid? negative quanta (coarsestExponent quanta - step) with
  | none => exact ofDecimalValue_exactDecimal negative fits positive
  | some value =>
      obtain ⟨step, -, chosen⟩ := List.exists_of_findSome?_eq_some found
      exact ofDecimalValue_of_onGrid? chosen

/-! ## Texts of numbers -/

theorem ofChars?_of_digit {first : Char} (digit : first.isDigit = true) (rest : List Char) :
    ofChars? (first :: rest) = ofUnsigned? false (first :: rest) := by
  unfold ofChars?
  split
  · next same =>
      obtain ⟨rfl, -⟩ := List.cons.inj same
      cases digit
  · next same =>
      obtain ⟨rfl, -⟩ := List.cons.inj same
      cases digit
  · rfl

/-- The layout of a decimal begins with a digit. -/
theorem positional_eq_cons (value : Decimal) :
    ∃ first rest, positional value = first :: rest ∧ first.isDigit = true := by
  have filled := digitsOf_ne_nil value.digits
  have plain : ∀ c ∈ digitsOf value.digits, c.isDigit = true := fun c => isDigit_of_mem_digitsOf
  unfold positional
  dsimp only
  cases digits : digitsOf value.digits with
  | nil => exact absurd digits filled
  | cons first rest =>
      rw [digits] at plain
      have digit := plain first List.mem_cons_self
      split
      · exact ⟨first, _, rfl, digit⟩
      · split
        · next among =>
            obtain ⟨kept, width⟩ := Nat.exists_eq_add_one.mpr (Nat.sub_pos_of_lt among)
            rw [width]
            exact ⟨first, _, rfl, digit⟩
        · exact ⟨'0', _, rfl, rfl⟩

theorem ofChars?_zero (negative : Bool) :
    ofChars? (zero negative).toChars = some (zero negative) := by
  cases negative <;> decide +kernel

/-- **The text of a finite number denotes that number.** -/
theorem ofChars?_toChars {value : Binary64} (finite : value.isFinite = true) :
    ofChars? value.toChars = some value := by
  cases value with
  | nan => cases finite
  | infinite negative => cases finite
  | finite negative quanta fits =>
      rcases Nat.eq_zero_or_pos quanta with rfl | positive
      · exact ofChars?_zero negative
      · have read : ofUnsigned? negative (positional (shortest negative quanta)) =
            some (.finite negative quanta fits) := by
          rw [ofUnsigned?, readDecimal?_positional]
          simp only [ofDecimalValue_writtenOut, ofDecimalValue_shortest negative fits positive]
        obtain ⟨first, rest, layout, digit⟩ := positional_eq_cons (shortest negative quanta)
        rw [toChars, if_neg (Nat.ne_of_gt positive)]
        cases negative
        · simp only [Bool.false_eq_true, if_false, List.nil_append]
          rw [layout] at read ⊢
          rw [ofChars?_of_digit digit, read]
        · exact read

theorem mem_positional {value : Decimal} {c : Char} (member : c ∈ positional value) :
    c.isDigit = true ∨ c = '.' := by
  have plain : c ∈ digitsOf value.digits → c.isDigit = true := isDigit_of_mem_digitsOf
  have zeros {count : Nat} (zero : c ∈ List.replicate count '0') : c.isDigit = true := by
    rw [List.eq_of_mem_replicate zero]
    rfl
  unfold positional at member
  dsimp only at member
  split at member
  · exact .inl ((List.mem_append.mp member).elim plain zeros)
  · split at member
    · rcases List.mem_append.mp member with whole | part
      · exact .inl (plain (List.mem_of_mem_take whole))
      · rcases List.mem_cons.mp part with point | place
        · exact .inr point
        · exact .inl (plain (List.mem_of_mem_drop place))
    · rcases List.mem_cons.mp member with zero | part
      · exact .inl (zero ▸ rfl)
      · rcases List.mem_cons.mp part with point | place
        · exact .inr point
        · exact .inl ((List.mem_append.mp place).elim zeros plain)

/-- The text of a finite number holds digits, a point and a sign. -/
theorem mem_toChars {value : Binary64} (finite : value.isFinite = true) {c : Char}
    (member : c ∈ value.toChars) : c.isDigit = true ∨ c = '.' ∨ c = '-' := by
  cases value with
  | nan => cases finite
  | infinite negative => cases finite
  | finite negative quanta fits =>
      rcases List.mem_append.mp member with sign | number
      · cases negative
        · cases sign
        · exact .inr (.inr (List.mem_singleton.mp sign))
      · split at number
        · exact .inl (List.mem_singleton.mp number ▸ rfl)
        · exact (mem_positional number).imp_right .inl

end Binary64

end GolfProgress
