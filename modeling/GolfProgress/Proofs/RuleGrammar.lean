import GolfProgress.Proofs.RuleText

/-!
# The grammar of stored rules

A rule has its texts (`SuccessRule.Spells`): one for a pass flag, and as many for the
other forms as there are notations of their number.  A text without the blanks around it
is cut at its colons, and the parts are those of a spelled rule exactly when the text
spells the rule (`SuccessRule.ofParts?_eq_some`).  Since no notation of a number holds a
colon (`Binary64.colon_not_mem`), nothing is lost by the cut.

`SuccessRule.grammar_exact` says that the texts that are read are exactly those of the
grammar, and `SuccessRule.toText_inverse` that reading undoes writing for the storable
rules and for no others.
-/

set_option autoImplicit false

namespace GolfProgress

/-! ## Notations of numbers -/

namespace Text

variable {mark : Char} {text : List Char}

/-- No field holds the mark that divides the text. -/
theorem not_mem_of_mem_fieldsBy {field : List Char} (among : field ∈ fieldsBy mark text) :
    mark ∉ field := by
  induction text generalizing field with
  | nil =>
      rw [List.mem_singleton.mp among]
      exact List.not_mem_nil
  | cons c rest ih =>
      simp only [fieldsBy] at among
      split at among
      · rcases List.mem_cons.mp among with rfl | later
        · exact List.not_mem_nil
        · exact ih later
      · next other =>
          cases fields : fieldsBy mark rest with
          | nil => exact absurd fields (fieldsBy_ne_nil mark rest)
          | cons first others =>
              rw [fields] at among ih
              rcases List.mem_cons.mp among with rfl | later
              · rw [List.mem_cons, not_or]
                exact ⟨Ne.symm other, ih List.mem_cons_self⟩
              · exact ih (List.mem_cons_of_mem _ later)

theorem isDigit_of_natOfDigits? {value : Nat} (read : natOfDigits? text = some value) :
    ∀ c ∈ text, c.isDigit = true := by
  unfold natOfDigits? at read
  split at read
  · next digits => exact List.all_eq_true.mp digits.2
  · cases read

end Text

namespace Binary64

open Text

variable {text : List Char}

theorem colon_not_mem_digits (digits : ∀ c ∈ text, c.isDigit = true) : ':' ∉ text :=
  fun colon => absurd (digits ':' colon) (by decide)

theorem colon_not_mem_exponent {exponent : Int} (read : readExponent? text = some exponent) :
    ':' ∉ text := by
  unfold readExponent? at read
  split at read
  · exact List.not_mem_nil
  · next c rest =>
      split at read
      · next letter =>
          have here : ':' ≠ c := by rcases letter with rfl | rfl <;> decide
          rw [List.mem_cons, not_or]
          refine ⟨here, ?_⟩
          split at read <;> obtain ⟨value, digits, -⟩ := Option.map_eq_some_iff.mp read
          · simpa using colon_not_mem_digits (isDigit_of_natOfDigits? digits)
          · obtain ⟨count, digits, -⟩ := Option.bind_eq_some_iff.mp digits
            simpa using colon_not_mem_digits (isDigit_of_natOfDigits? digits)
          · exact colon_not_mem_digits (isDigit_of_natOfDigits? digits)
      · cases read

theorem colon_not_mem_of_dropWhile (behind : ':' ∉ text.dropWhile Char.isDigit) : ':' ∉ text := by
  have front : ':' ∉ text.takeWhile Char.isDigit :=
    colon_not_mem_digits (List.all_eq_true.mp List.all_takeWhile)
  rw [← List.takeWhile_append_dropWhile (p := Char.isDigit) (l := text), List.mem_append, not_or]
  exact ⟨front, behind⟩

theorem colon_not_mem_decimal {value : Decimal} (read : readDecimal? text = some value) :
    ':' ∉ text := by
  refine colon_not_mem_of_dropWhile ?_
  simp only [readDecimal?] at read
  split at read <;> split at read
  · cases read
  · next after point _ =>
      obtain ⟨exponent, tail, -⟩ := Option.map_eq_some_iff.mp read
      rw [point, List.mem_cons, not_or]
      exact ⟨by decide, colon_not_mem_of_dropWhile (colon_not_mem_exponent tail)⟩
  · cases read
  · obtain ⟨exponent, tail, -⟩ := Option.map_eq_some_iff.mp read
    exact colon_not_mem_exponent tail

theorem colon_not_mem_unsigned {negative : Bool} {value : Binary64}
    (read : ofUnsigned? negative text = some value) : ':' ∉ text := by
  unfold ofUnsigned? at read
  split at read
  · next number => exact colon_not_mem_decimal number
  · intro colon
    -- the names of the infinities and of not-a-number hold letters alone
    have lowered : ':' ∈ text.map Char.toLower := List.mem_map.mpr ⟨':', colon, by decide⟩
    simp only at read
    split at read
    · next name =>
        rcases name with name | name <;> rw [name] at lowered <;> exact absurd lowered (by decide)
    · split at read
      · next name =>
          rw [name] at lowered
          exact absurd lowered (by decide)
      · cases read

/-- A notation of a number holds no colon. -/
theorem colon_not_mem {value : Binary64} (read : ofChars? text = some value) : ':' ∉ text := by
  unfold ofChars? at read
  split at read
  · simpa using colon_not_mem_unsigned read
  · simpa using colon_not_mem_unsigned read
  · exact colon_not_mem_unsigned read

end Binary64

/-! ## The grammar -/

namespace SuccessRule

open Text

/-- A text is a notation of a finite number. -/
def Denotes (digits : String) (value : Binary64) : Prop :=
  Binary64.ofText? digits = some value ∧ value.isFinite = true

/-- A text is one of those that the grammar has for a rule. -/
def Spells (text : String) : SuccessRule → Prop
  | .testPass test => IsName test ∧ text = test ++ ":pass"
  | .metricThreshold metric comparison threshold =>
    IsName metric ∧
      ∃ digits, text = metric ++ ":" ++ comparison.symbol ++ ":" ++ digits ∧
        Denotes digits threshold
  | .improvementPercent percent =>
    ∃ digits, text = "improvement:percent:" ++ digits ∧ Denotes digits percent

variable {text : String} {rule : SuccessRule}

theorem isName_iff {name : List Char} (unmarked : ':' ∉ name) :
    IsName (String.ofList name) ↔ isIdentifier name = true := by
  simp only [IsName, Plain, isIdentifier, String.toList_ofList, Bool.and_eq_true,
    Bool.not_eq_true', List.all_eq_true, List.isEmpty_eq_false_iff]
  refine and_congr_right fun _ => forall₂_congr fun c member => and_iff_left fun colon => ?_
  exact unmarked (colon ▸ member)

theorem number?_eq_some {digits : List Char} {value : Binary64} :
    number? digits = some value ↔ Denotes (String.ofList digits) value := by
  simp only [number?, Denotes, Binary64.ofText?, String.toList_ofList, Option.bind_eq_some_iff,
    Binary64.finite?]
  constructor
  · rintro ⟨read, found, finite⟩
    split at finite
    · next isFinite =>
        cases finite
        exact ⟨found, isFinite⟩
    · cases finite
  · rintro ⟨found, finite⟩
    exact ⟨value, found, if_pos finite⟩

theorem ofSymbol?_eq_some {symbol : String} {comparison : Comparison} :
    Comparison.ofSymbol? symbol = some comparison ↔ symbol = comparison.symbol := by
  constructor
  · intro read
    unfold Comparison.ofSymbol? at read
    split at read
    · next same => cases read; exact same
    · split at read
      · next same => cases read; exact same
      · cases read
  · rintro rfl
    exact ofSymbol?_symbol comparison

theorem IsName.unmarked {name : String} (named : IsName name) : ':' ∉ name.toList :=
  fun colon => (named.2 ':' colon).2 rfl

/-- The parts of a rule, joined by colons, spell it. -/
theorem spells_of_ofParts? {parts : List (List Char)} (unmarked : ∀ part ∈ parts, ':' ∉ part)
    (read : ofParts? parts = some rule) : Spells (String.ofList (joinedBy ':' parts)) rule := by
  unfold ofParts? at read
  split at read
  · next test word =>
      split at read
      · next fits =>
          obtain ⟨rfl, identifier⟩ := fits
          cases read
          refine ⟨(isName_iff (unmarked test List.mem_cons_self)).mpr identifier, ?_⟩
          rw [← String.toList_inj]
          simp [joinedBy]
      · cases read
  · next metric symbol digits =>
      split at read
      · next comparison identifier compares =>
          obtain ⟨threshold, denotes, rfl⟩ := Option.map_eq_some_iff.mp read
          refine ⟨(isName_iff (unmarked metric List.mem_cons_self)).mpr identifier,
            String.ofList digits, ?_, number?_eq_some.mp denotes⟩
          rw [← ofSymbol?_eq_some.mp compares, ← String.toList_inj]
          simp [joinedBy]
      · split at read
        · next words =>
            obtain ⟨rfl, rfl⟩ := words
            obtain ⟨percent, denotes, rfl⟩ := Option.map_eq_some_iff.mp read
            refine ⟨String.ofList digits, ?_, number?_eq_some.mp denotes⟩
            rw [← String.toList_inj]
            simp [joinedBy]
        · cases read
  · cases read

/-- A text that spells a rule is cut into the parts of the rule. -/
theorem ofParts?_of_spells (spelled : Spells text rule) :
    ofParts? (fieldsBy ':' text.toList) = some rule := by
  cases rule with
  | testPass test =>
      obtain ⟨named, rfl⟩ := spelled
      have cut : (test ++ ":pass").toList = test.toList ++ ':' :: "pass".toList := by simp
      rw [cut, fieldsBy_append named.unmarked, fieldsBy_of_not_mem (by decide +kernel)]
      simp [ofParts?, named.isIdentifier]
  | metricThreshold metric comparison threshold =>
      obtain ⟨named, digits, rfl, denotes⟩ := spelled
      have cut : (metric ++ ":" ++ comparison.symbol ++ ":" ++ digits).toList =
          metric.toList ++ ':' :: (comparison.symbol.toList ++ ':' :: digits.toList) := by simp
      have sign : ':' ∉ comparison.symbol.toList :=
        fun colon => (plain_symbol comparison ':' colon).2 rfl
      have number : number? digits.toList = some threshold := number?_eq_some.mpr (by simpa)
      rw [cut, fieldsBy_append named.unmarked, fieldsBy_append sign,
        fieldsBy_of_not_mem (Binary64.colon_not_mem denotes.1)]
      simp [ofParts?, named.isIdentifier, ofSymbol?_symbol, number]
  | improvementPercent percent =>
      obtain ⟨digits, rfl, denotes⟩ := spelled
      have cut : ("improvement:percent:" ++ digits).toList =
          "improvement".toList ++ ':' :: ("percent".toList ++ ':' :: digits.toList) := by simp
      have word : Comparison.ofSymbol? "percent" = none := by decide
      have number : number? digits.toList = some percent := number?_eq_some.mpr (by simpa)
      rw [cut, fieldsBy_append (by decide +kernel), fieldsBy_append (by decide +kernel),
        fieldsBy_of_not_mem (Binary64.colon_not_mem denotes.1)]
      simp [ofParts?, word, number]

/-- The parts of a text are those of a rule exactly when the text spells the rule. -/
theorem ofParts?_eq_some :
    ofParts? (fieldsBy ':' text.toList) = some rule ↔ Spells text rule := by
  constructor
  · intro read
    have spelled := spells_of_ofParts? (fun part among => not_mem_of_mem_fieldsBy among) read
    rwa [joinedBy_fieldsBy, String.ofList_toList] at spelled
  · exact ofParts?_of_spells

theorem ofText?_eq_some : ofText? text = some rule ↔ Spells (trimString text) rule := by
  rw [← ofParts?_eq_some, trimString, String.toList_ofList, ofText?]

/-- **The texts that are read are those of the grammar**: without the blanks around it,
and with all that stands between them, a text that is read spells the rule it is read as,
a text that is not read spells none, and no text spells two rules, be they of one form or
of two. -/
theorem grammar_exact (text : String) :
    Trimmed text.toList (trimString text).toList ∧
    (∀ rule, ofText? text = some rule ↔ Spells (trimString text) rule) ∧
      (ofText? text = none ↔ ∀ rule, ¬ Spells (trimString text) rule) ∧
      ∀ rule other, Spells text rule → Spells text other → rule = other := by
  refine ⟨?_, fun rule => ofText?_eq_some, ?_, fun rule other first second => ?_⟩
  · rw [trimString, String.toList_ofList]
    exact trimmed_trim text.toList
  · simp only [Option.eq_none_iff_forall_ne_some, ne_eq, ofText?_eq_some]
  · rw [← ofParts?_eq_some] at first second
    exact Option.some.inj (first.symm.trans second)

/-! ## Writing and reading -/

theorem Spells.storable (spelled : Spells text rule) : rule.Storable := by
  cases rule with
  | testPass test => exact spelled.1
  | metricThreshold metric comparison threshold =>
      obtain ⟨named, digits, -, denotes⟩ := spelled
      exact ⟨named, denotes.2⟩
  | improvementPercent percent =>
      obtain ⟨digits, -, denotes⟩ := spelled
      exact denotes.2

theorem storable_of_ofText? (read : ofText? text = some rule) : rule.Storable :=
  (ofText?_eq_some.mp read).storable

/-- **Reading undoes writing for the storable rules and for no others.**  Every rule that
is read is storable, so writing it and reading it again changes nothing. -/
theorem toText_inverse :
    (∀ rule : SuccessRule, ofText? rule.toText = some rule ↔ rule.Storable) ∧
      (∀ (text : String) (rule : SuccessRule), ofText? text = some rule → rule.Storable) ∧
      ∀ text : String, (ofText? text).bind (fun rule => ofText? rule.toText) = ofText? text := by
  refine ⟨fun rule => ⟨storable_of_ofText?, ofText?_toText⟩,
    fun text rule => storable_of_ofText?, fun text => ?_⟩
  cases read : ofText? text with
  | none => rfl
  | some rule => exact ofText?_toText (storable_of_ofText? read)

/-- An identifier with a blank in front is read back without it. -/
example : ofText? (testPass " 15").toText = some (.testPass "15") := by decide +kernel

end SuccessRule

end GolfProgress
