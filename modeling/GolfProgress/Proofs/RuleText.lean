import GolfProgress.Proofs.DecimalText
import GolfProgress.Rules.Basic

/-!
# Stored rules read back

A rule is stored as parts with colons between them.  Blanks around its text, and no
others, are taken off before it is read (`Text.trim_eq_iff`).  When no part holds a blank
or a colon, the text keeps its parts (`Text.fieldsBy_joinedBy`, `Text.trim_eq_self`), and
the form of the parts tells the rule (`SuccessRule.ofParts?_parts`).  So a storable rule is
read back from its text (`SuccessRule.ofText?_toText`).
-/

set_option autoImplicit false

namespace GolfProgress

/-! ## Texts that keep their parts -/

namespace Text

variable {mark : Char} {text first : List Char}

theorem fieldsBy_of_not_mem (unmarked : mark ∉ text) : fieldsBy mark text = [text] := by
  induction text with
  | nil => rfl
  | cons c rest ih =>
      rw [List.mem_cons, not_or] at unmarked
      simp [fieldsBy, Ne.symm unmarked.1, ih unmarked.2]

theorem fieldsBy_append (unmarked : mark ∉ first) (text : List Char) :
    fieldsBy mark (first ++ mark :: text) = first :: fieldsBy mark text := by
  induction first with
  | nil => simp [fieldsBy]
  | cons c rest ih =>
      rw [List.mem_cons, not_or] at unmarked
      simp [fieldsBy, Ne.symm unmarked.1, ih unmarked.2]

/-- Parts without the mark are the fields of the joined text. -/
theorem fieldsBy_joinedBy {parts : List (List Char)} (filled : parts ≠ [])
    (unmarked : ∀ part ∈ parts, mark ∉ part) : fieldsBy mark (joinedBy mark parts) = parts := by
  induction parts with
  | nil => exact absurd rfl filled
  | cons first rest ih =>
      obtain ⟨here, later⟩ := List.forall_mem_cons.mp unmarked
      cases rest with
      | nil => exact fieldsBy_of_not_mem here
      | cons second others =>
          rw [joinedBy, fieldsBy_append here, ih (List.cons_ne_nil _ _) later]

theorem mem_joinedBy {parts : List (List Char)} {c : Char} (member : c ∈ joinedBy mark parts) :
    c = mark ∨ ∃ part ∈ parts, c ∈ part := by
  induction parts with
  | nil => cases member
  | cons first rest ih =>
      cases rest with
      | nil => exact .inr ⟨first, List.mem_singleton_self _, member⟩
      | cons second others =>
          rcases List.mem_append.mp member with here | later
          · exact .inr ⟨first, List.mem_cons_self, here⟩
          · rcases List.mem_cons.mp later with same | later
            · exact .inl same
            · exact (ih later).imp_right fun ⟨part, among, inside⟩ =>
                ⟨part, List.mem_cons_of_mem _ among, inside⟩

/-- What is left of a text without the blanks around it: it neither begins nor ends with a
blank. -/
structure Trimmed (text solid : List Char) : Prop where
  around : ∃ before after, text = before ++ solid ++ after ∧
    (∀ c ∈ before, isBlank c = true) ∧ ∀ c ∈ after, isBlank c = true
  first : ∀ c ∈ solid.head?, isBlank c = false
  last : ∀ c ∈ solid.getLast?, isBlank c = false

theorem first_dropWhile {c : Char} (text : List Char)
    (first : c ∈ (text.dropWhile isBlank).head?) : isBlank c = false := by
  have solid := List.head?_dropWhile_not isBlank text
  rw [Option.mem_def.mp first] at solid
  exact solid

/-- A text that does not begin with a blank stays as it is. -/
theorem dropWhile_of_first (first : ∀ c ∈ text.head?, isBlank c = false) :
    text.dropWhile isBlank = text := by
  cases text with
  | nil => rfl
  | cons c rest => exact List.dropWhile_cons_of_neg (by simp [first c rfl])

theorem of_mem_takeWhile {c : Char} (inside : c ∈ text.takeWhile isBlank) : isBlank c = true :=
  List.all_eq_true.mp List.all_takeWhile c inside

theorem trimmed_trim (text : List Char) : Trimmed text (trim text) := by
  have begun : text.takeWhile isBlank ++ trimStart text = text :=
    List.takeWhile_append_dropWhile
  have ended : trim text ++ ((trimStart text).reverse.takeWhile isBlank).reverse =
      trimStart text := by
    rw [trim, ← List.reverse_append, List.takeWhile_append_dropWhile, List.reverse_reverse]
  constructor
  case around =>
    refine ⟨text.takeWhile isBlank, ((trimStart text).reverse.takeWhile isBlank).reverse, ?_,
      fun c => of_mem_takeWhile, fun c inside => of_mem_takeWhile (List.mem_reverse.mp inside)⟩
    rw [List.append_assoc, ended, begun]
  case first =>
    -- what is left begins as the text without its leading blanks does
    intro c first
    refine first_dropWhile text (?_ : c ∈ (trimStart text).head?)
    rw [← ended, List.head?_append, Option.mem_def.mp first]
    rfl
  case last =>
    intro c last
    rw [trim, List.getLast?_reverse] at last
    exact first_dropWhile _ last

/-- **Trimming takes the blanks off both ends of a text, and nothing else.** -/
theorem trim_eq_iff {solid : List Char} : trim text = solid ↔ Trimmed text solid := by
  constructor
  · rintro rfl
    exact trimmed_trim text
  · rintro ⟨⟨before, after, rfl, leading, trailing⟩, first, last⟩
    have started : trimStart (before ++ solid ++ after) = (solid ++ after).dropWhile isBlank := by
      rw [trimStart, List.append_assoc, List.dropWhile_append_of_pos leading]
    have behind : ∀ c ∈ after.reverse, isBlank c = true :=
      fun c inside => trailing c (List.mem_reverse.mp inside)
    cases solid with
    | nil =>
        have gone : (after ++ []).dropWhile isBlank = [] := List.dropWhile_append_of_pos trailing
        rw [List.append_nil] at gone
        rw [trim, started, List.nil_append, gone]
        rfl
    | cons c rest =>
        have begins : ∀ d ∈ (c :: rest ++ after).head?, isBlank d = false := first
        rw [trim, started, dropWhile_of_first begins, List.reverse_append,
          List.dropWhile_append_of_pos behind, dropWhile_of_first, List.reverse_reverse]
        intro d inside
        rw [List.head?_reverse] at inside
        exact last d inside

/-- A text without blanks is all that is left of it when blanks are put around it. -/
theorem trim_append {before solid after : List Char} (leading : ∀ c ∈ before, isBlank c = true)
    (inside : ∀ c ∈ solid, isBlank c = false) (trailing : ∀ c ∈ after, isBlank c = true) :
    trim (before ++ solid ++ after) = solid :=
  trim_eq_iff.mpr ⟨⟨before, after, rfl, leading, trailing⟩,
    fun c first => inside c (List.mem_of_head? first),
    fun c last => inside c (List.mem_of_getLast? last)⟩

/-- Trimming takes nothing off a text without blanks. -/
theorem trim_eq_self (solid : ∀ c ∈ text, isBlank c = false) : trim text = text := by
  simpa using trim_append (List.forall_mem_nil _) solid (List.forall_mem_nil _)

end Text

/-! ## Rules -/

namespace SuccessRule

open Text

/-- A part of a stored rule that holds neither a blank nor a colon. -/
def Plain (part : List Char) : Prop := ∀ c ∈ part, isBlank c = false ∧ c ≠ ':'

instance (part : List Char) : Decidable (Plain part) :=
  decidable_of_iff (part.all (fun c => !isBlank c && c != ':') = true) (by simp [Plain])

/-- An identifier that a stored rule can hold: not empty, without blanks and colons. -/
def IsName (name : String) : Prop := name.toList ≠ [] ∧ Plain name.toList

instance (name : String) : Decidable (IsName name) := inferInstanceAs (Decidable (_ ∧ _))

/-- A rule whose text can be read: its identifier is a name and its number is finite. -/
def Storable : SuccessRule → Prop
  | .testPass test => IsName test
  | .metricThreshold metric _ threshold => IsName metric ∧ threshold.isFinite = true
  | .improvementPercent percent => percent.isFinite = true

theorem IsName.isIdentifier {name : String} (named : IsName name) :
    isIdentifier name.toList = true := by
  simp only [SuccessRule.isIdentifier, Bool.and_eq_true, Bool.not_eq_true', List.all_eq_true]
  exact ⟨List.isEmpty_eq_false_iff.mpr named.1, fun c member => (named.2 c member).1⟩

theorem plain_toChars {value : Binary64} (finite : value.isFinite = true) :
    Plain value.toChars := by
  intro c member
  rcases Binary64.mem_toChars finite member with digit | rfl | rfl
  · obtain ⟨low, high⟩ := Char.isDigit_iff_toNat.mp digit
    have low : 48 ≤ c.toNat := low
    have high : c.toNat ≤ 57 := high
    refine ⟨?_, fun colon => ?_⟩
    · simp [isBlank]
      omega
    · rw [colon] at high
      exact absurd high (by decide)
  · decide
  · decide

theorem number?_toChars {value : Binary64} (finite : value.isFinite = true) :
    number? value.toChars = some value := by
  simp [number?, Binary64.ofChars?_toChars finite, Binary64.finite?, finite]

theorem plain_symbol (comparison : Comparison) : Plain comparison.symbol.toList := by
  cases comparison <;> decide +kernel

theorem ofSymbol?_symbol (comparison : Comparison) :
    Comparison.ofSymbol? comparison.symbol = some comparison := by
  cases comparison <;> rfl

variable {rule : SuccessRule}

theorem Storable.plain (storable : rule.Storable) : ∀ part ∈ rule.parts, Plain part := by
  cases rule with
  | testPass test => simpa [parts] using ⟨storable.2, (by decide +kernel : Plain "pass".toList)⟩
  | metricThreshold metric comparison threshold =>
      simpa [parts] using ⟨storable.1.2, plain_symbol comparison,
        plain_toChars storable.2⟩
  | improvementPercent percent =>
      simpa [parts] using ⟨(by decide +kernel : Plain "improvement".toList),
        (by decide +kernel : Plain "percent".toList), plain_toChars storable⟩

/-- The parts of a storable rule tell the rule. -/
theorem ofParts?_parts (storable : rule.Storable) : ofParts? rule.parts = some rule := by
  cases rule with
  | testPass test => simp [parts, ofParts?, storable.isIdentifier]
  | metricThreshold metric comparison threshold =>
      simp [parts, ofParts?, storable.1.isIdentifier, ofSymbol?_symbol,
        number?_toChars storable.2]
  | improvementPercent percent =>
      have word : Comparison.ofSymbol? "percent" = none := by decide
      simp [parts, ofParts?, number?_toChars storable, word]

/-- **A storable rule is read back from its text.** -/
theorem ofText?_toText (storable : rule.Storable) : ofText? rule.toText = some rule := by
  have plain := storable.plain
  have filled : rule.parts ≠ [] := by cases rule <;> exact List.cons_ne_nil _ _
  have solid : ∀ c ∈ joinedBy ':' rule.parts, isBlank c = false := by
    intro c member
    rcases mem_joinedBy member with rfl | ⟨part, among, inside⟩
    · decide
    · exact (plain part among c inside).1
  have unmarked : ∀ part ∈ rule.parts, ':' ∉ part :=
    fun part among marked => (plain part among ':' marked).2 rfl
  rw [ofText?, toText, String.toList_ofList, trim_eq_self solid,
    fieldsBy_joinedBy filled unmarked, ofParts?_parts storable]

end SuccessRule

end GolfProgress
