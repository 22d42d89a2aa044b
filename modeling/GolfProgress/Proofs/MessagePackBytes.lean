import GolfProgress.MessagePack.Basic
import GolfProgress.Proofs.Rounding

/-!
# Written values read back

The word of a double-precision number gives the number back, with the sign of a zero
(`Binary64.ofBits_toBits`).  So do the bytes of a MessagePack value whose numbers have at
most sixty-four bits and whose collections are not nested too deeply (`MessagePack.Fits`),
if there are fewer than `2 ^ 32` of them: whatever follows, the value is what comes off
their head (`MessagePack.take?_bytes`).  The proof has one case for each constructor, and
one lemma for the head of each kind of value in each of its lengths.
-/

set_option autoImplicit false

namespace GolfProgress

/-! ## Words of numbers -/

namespace Binary64

/-- A word of a sign, an exponent and a fraction. -/
def word (negative : Bool) (exponent fraction : Nat) : UInt64 :=
  UInt64.ofNat (signBit negative + (exponent * fractionSize + fraction))

/-- The sign, the exponent and the fraction that a word is read as. -/
def Holds (bits : UInt64) (negative : Bool) (exponent fraction : Nat) : Prop :=
  decide (signBit true ≤ bits.toNat) = negative ∧ bits.toNat / fractionSize % 2048 = exponent ∧
    bits.toNat % fractionSize = fraction

theorem holds_word (negative : Bool) {exponent fraction : Nat} (small : exponent < 2048)
    (within : fraction < fractionSize) :
    Holds (word negative exponent fraction) negative exponent fraction := by
  have size : fractionSize = 4503599627370496 := rfl
  have sign : signBit true = 9223372036854775808 := rfl
  have plain : signBit false = 0 := rfl
  rw [size] at within
  have bits : (word negative exponent fraction).toNat =
      signBit negative + (exponent * 4503599627370496 + fraction) := by
    rw [word, UInt64.toNat_ofNat', size]
    cases negative <;> simp only [sign, plain] <;> omega
  rw [Holds, bits, size, sign]
  cases negative
  · rw [plain, decide_eq_false_iff_not]
    omega
  · rw [sign, decide_eq_true_eq]
    omega

/-- A count of quanta with fewer bits than a fraction is its own fraction. -/
theorem toBits_small (negative : Bool) {quanta : Nat} (fits : Fits quanta)
    (small : quanta < fractionSize) :
    toBits (.finite negative quanta fits) = word negative 0 quanta := by
  have place : lastPlace quanta = 0 := by
    by_cases zero : quanta = 0
    · subst zero
      rfl
    · have := (Nat.log2_lt zero).mpr small
      rw [lastPlace]
      omega
  simp [toBits, word, place]

theorem lastPlace_lt {quanta : Nat} (fits : Fits quanta) : lastPlace quanta < 2046 := by
  by_cases zero : quanta = 0
  · subst zero
    decide
  · have width : 2098 ≤ 52 + 2046 := by decide
    have below := fits.2
    unfold limit at below
    generalize 2098 = top at below width
    have bits : quanta.log2 < top := (Nat.log2_lt zero).mpr below
    rw [lastPlace]
    omega

theorem reaches_of_le {quanta : Nat} (large : fractionSize ≤ quanta) :
    fractionSize ≤ quanta / spacing quanta := by
  rw [Nat.le_div_iff_mul_le (spacing_pos quanta)]
  rcases spacing_cases quanta with unit | reaches
  · rwa [unit, Nat.mul_one]
  · exact reaches

/-- Any other begins with the bit that the exponent stands for. -/
theorem toBits_large (negative : Bool) {quanta : Nat} (fits : Fits quanta)
    (large : fractionSize ≤ quanta) :
    toBits (.finite negative quanta fits) =
      word negative (lastPlace quanta + 1) (quanta / spacing quanta - fractionSize) := by
  have reaches := reaches_of_le large
  have carried : (lastPlace quanta + 1) * fractionSize +
      (quanta / spacing quanta - fractionSize) =
        lastPlace quanta * fractionSize + quanta / spacing quanta := by
    rw [Nat.add_mul, Nat.one_mul]
    omega
  rw [word, carried]
  rfl

/-- **The word of a number gives the number back.** -/
theorem ofBits_toBits (value : Binary64) : ofBits value.toBits = value := by
  have sized : 0 < fractionSize := two_pow_pos 52
  cases value with
  | nan => decide +kernel
  | infinite negative =>
      obtain ⟨sign, exponent, fraction⟩ := holds_word negative (show 2047 < 2048 by decide) sized
      have bits : toBits (.infinite negative) = word negative 2047 0 := rfl
      simp only [ofBits, bits, sign, exponent, fraction, if_true]
  | finite negative quanta fits =>
      rcases Nat.lt_or_ge quanta fractionSize with small | large
      · obtain ⟨sign, exponent, fraction⟩ := holds_word negative (show 0 < 2048 by decide) small
        simp only [ofBits, toBits_small negative fits small, sign, exponent, fraction, if_true]
        exact ofQuotient_one negative fits
      · have places := lastPlace_lt fits
        have within : quanta / spacing quanta - fractionSize < fractionSize := by
          have := (Nat.div_lt_iff_lt_mul (spacing_pos quanta)).mpr
            (lt_fractionSize_mul_spacing quanta)
          omega
        obtain ⟨sign, exponent, fraction⟩ :=
          holds_word negative (show lastPlace quanta + 1 < 2048 by omega) within
        simp only [ofBits, toBits_large negative fits large, sign, exponent, fraction]
        rw [if_neg (by omega), if_neg (by omega), Nat.add_sub_cancel' (reaches_of_le large),
          Nat.add_sub_cancel]
        have whole : quanta / spacing quanta * Nat.pow 2 (lastPlace quanta) = quanta :=
          Nat.div_mul_cancel (fits_iff.mp fits).1
        rw [whole]
        exact ofQuotient_one negative fits

end Binary64

/-! ## Bytes of values -/

namespace MessagePack

mutual

/-- A value whose numbers have at most sixty-four bits, with collections and extensions
nested at most so deep. -/
def Fits : MessagePack → Nat → Prop
  | .natural value, _ => value < UInt64.size
  | .signed value, _ => -(Int.ofNat (Nat.pow 2 63)) ≤ value ∧ value < Int.ofNat (Nat.pow 2 63)
  | .list items, depth => 0 < depth ∧ ItemsFit items (depth - 1)
  | .map entries, depth => 0 < depth ∧ EntriesFit entries (depth - 1)
  | .extension _ _, depth => 0 < depth
  | _, _ => True

def ItemsFit : List MessagePack → Nat → Prop
  | [], _ => True
  | item :: rest, depth => Fits item depth ∧ ItemsFit rest depth

/-- Entries of which the keys and the values fit. -/
def EntriesFit : List (MessagePack × MessagePack) → Nat → Prop
  | [], _ => True
  | (key, value) :: rest, depth => Fits key depth ∧ Fits value depth ∧ EntriesFit rest depth

end

variable {first offset depth length : Nat} {form : UInt8} {content rest tail : List UInt8}

theorem toNat_mark (small : first + offset < 256) : (mark first offset).toNat = first + offset := by
  simp only [mark, UInt8.toNat_ofNat']
  omega

/-- A mark of a value without parts. -/
def IsLeaf (form : Nat) : Prop :=
  (form < 0x80 ∨ 0xa0 ≤ form) ∧ (form < 0xc7 ∨ 0xc9 < form) ∧ (form < 0xd4 ∨ 0xd8 < form) ∧
    (form < 0xdc ∨ 0xdf < form)

instance (form : Nat) : Decidable (IsLeaf form) := inferInstanceAs (Decidable (_ ∧ _))

theorem take?_leaf (leaf : IsLeaf form.toNat) (depth : Nat) (rest : List UInt8) :
    take? depth (form :: rest) = takeLeaf? form.toNat rest := by
  obtain ⟨short, low, high, long⟩ := leaf
  have list : listSize? form.toNat rest = some (none, rest) := by
    rw [listSize?, if_neg (by omega), if_neg (by omega), if_neg (by omega)]
  have map : mapSize? form.toNat rest = some (none, rest) := by
    rw [mapSize?, if_neg (by omega), if_neg (by omega), if_neg (by omega)]
  have known : isExtension form = false := by
    simp only [isExtension, UInt8.le_iff_toNat_le, Bool.or_eq_false_iff, Bool.and_eq_false_iff,
      decide_eq_false_iff_not, UInt8.toNat_ofNat]
    omega
  cases depth <;> simp [take?, list, map, known]

theorem take?_marked (leaf : IsLeaf form.toNat) (depth width value : Nat) (rest : List UInt8) :
    take? depth (marked form width value ++ rest) =
      takeLeaf? form.toNat (Bytes.big width value ++ rest) := by
  rw [marked, List.cons_append, take?_leaf leaf]

/-! ### Heads -/

theorem sized?_big (width : Nat) (small : length < Nat.pow 256 width)
    (read : Nat → List UInt8 → Option (MessagePack × List UInt8)) :
    sized? width (Bytes.big width length ++ rest) read = read length rest := by
  rw [sized?, Bytes.takeBig?_big, Nat.mod_eq_of_lt small]
  rfl

theorem takeNatural?_big (width : Nat) {value : Nat} (small : value < Nat.pow 256 width) :
    takeNatural? width (Bytes.big width value ++ rest) = some (.natural value, rest) := by
  rw [takeNatural?, Bytes.takeBig?_big, Nat.mod_eq_of_lt small]
  rfl

theorem takeText?_append :
    takeText? content.length (content ++ rest) = some (.text content, rest) := by
  rw [takeText?, Bytes.take?_append]
  rfl

theorem takeBinary?_append :
    takeBinary? content.length (content ++ rest) = some (.binary content, rest) := by
  rw [takeBinary?, Bytes.take?_append]
  rfl

theorem takeExtension?_append {kind : UInt8} :
    takeExtension? content.length (kind :: (content ++ rest)) =
      some (.extension kind content, rest) := by
  rw [takeExtension?, Bytes.take?_append]
  rfl

/-- A natural number in any of its lengths. -/
theorem take?_naturalBytes {value : Nat} (small : value < UInt64.size) (depth : Nat)
    (rest : List UInt8) :
    take? depth (naturalBytes value ++ rest) = some (.natural value, rest) := by
  unfold naturalBytes
  split
  · next short =>
      have form : (mark 0 value).toNat = value := by rw [toNat_mark (by omega), Nat.zero_add]
      have leaf : IsLeaf (mark 0 value).toNat := by rw [form]; unfold IsLeaf; omega
      rw [List.singleton_append, take?_leaf leaf, form]
      unfold takeLeaf?
      rw [if_pos short]
  · split
    · next byte => exact (take?_marked (by decide) ..).trans (takeNatural?_big 1 byte)
    · split
      · next word => exact (take?_marked (by decide) ..).trans (takeNatural?_big 2 word)
      · split
        · next long => exact (take?_marked (by decide) ..).trans (takeNatural?_big 4 long)
        · exact (take?_marked (by decide) ..).trans (takeNatural?_big 8 small)

/-- A text in any of its lengths. -/
theorem take?_textHead (short : content.length < UInt32.size) (depth : Nat) (rest : List UInt8) :
    take? depth (textHead content.length ++ (content ++ rest)) = some (.text content, rest) := by
  unfold textHead
  split
  · next few =>
      have form : (mark 0xa0 content.length).toNat = 0xa0 + content.length :=
        toNat_mark (by omega)
      have leaf : IsLeaf (mark 0xa0 content.length).toNat := by rw [form]; unfold IsLeaf; omega
      rw [List.singleton_append, take?_leaf leaf, form]
      unfold takeLeaf?
      rw [if_neg (by omega), if_neg (by omega), if_pos (by omega), Nat.add_sub_cancel_left]
      exact takeText?_append
  · refine Eq.trans ?_ takeText?_append
    split
    · next byte => exact (take?_marked (by decide) ..).trans (sized?_big 1 byte _)
    · split
      · next word => exact (take?_marked (by decide) ..).trans (sized?_big 2 word _)
      · exact (take?_marked (by decide) ..).trans (sized?_big 4 short _)

/-- Bytes without a meaning in any of their lengths. -/
theorem take?_binaryHead (short : content.length < UInt32.size) (depth : Nat)
    (rest : List UInt8) :
    take? depth (binaryHead content.length ++ (content ++ rest)) =
      some (.binary content, rest) := by
  refine Eq.trans ?_ takeBinary?_append
  unfold binaryHead
  split
  · next byte => exact (take?_marked (by decide) ..).trans (sized?_big 1 byte _)
  · split
    · next word => exact (take?_marked (by decide) ..).trans (sized?_big 2 word _)
    · exact (take?_marked (by decide) ..).trans (sized?_big 4 short _)

theorem takeSize?_big (width : Nat) (small : length < Nat.pow 256 width) :
    ((Bytes.takeBig? width (Bytes.big width length ++ rest)).map fun (size, rest) =>
      (some size, rest)) = some (some length, rest) := by
  rw [Bytes.takeBig?_big, Nat.mod_eq_of_lt small]
  rfl

/-- What is read behind the head of a list. -/
theorem take?_listHead (short : length < UInt32.size) (depth : Nat) (rest : List UInt8) :
    take? (depth + 1) (listHead length ++ rest) =
      (many? (take? depth) length rest).map fun (items, rest) => (.list items, rest) := by
  have head : ∃ form tail, listHead length ++ rest = form :: tail ∧
      listSize? form.toNat tail = some (some length, rest) := by
    unfold listHead collectionHead
    split
    · next few =>
        refine ⟨_, _, List.singleton_append, ?_⟩
        rw [toNat_mark (by omega), listSize?, if_pos (by omega), Nat.add_sub_cancel_left]
    · split
      · next word => exact ⟨0xdc, _, rfl, takeSize?_big 2 word⟩
      · exact ⟨0xdd, _, rfl, takeSize?_big 4 short⟩
  obtain ⟨form, tail, head, size⟩ := head
  rw [head, take?, size]
  simp only [Option.bind_eq_bind, Option.bind_some]
  cases many? (take? depth) length rest <;> rfl

/-- What is read behind the head of a map. -/
theorem take?_mapHead (short : length < UInt32.size) (depth : Nat) (rest : List UInt8) :
    take? (depth + 1) (mapHead length ++ rest) =
      (many? (pair? (take? depth)) length rest).map fun (entries, rest) =>
        (.map entries, rest) := by
  have head : ∃ form tail, mapHead length ++ rest = form :: tail ∧
      listSize? form.toNat tail = some (none, tail) ∧
      mapSize? form.toNat tail = some (some length, rest) := by
    unfold mapHead collectionHead
    split
    · next few =>
        refine ⟨_, _, List.singleton_append, ?_, ?_⟩
        · rw [toNat_mark (by omega), listSize?, if_neg (by omega), if_neg (by omega),
            if_neg (by omega)]
        · rw [toNat_mark (by omega), mapSize?, if_pos (by omega), Nat.add_sub_cancel_left]
    · split
      · next word => exact ⟨0xde, _, rfl, rfl, takeSize?_big 2 word⟩
      · exact ⟨0xdf, _, rfl, rfl, takeSize?_big 4 short⟩
  obtain ⟨form, tail, head, list, size⟩ := head
  rw [head, take?, list]
  simp only [Option.bind_eq_bind, Option.bind_some, size]
  cases many? (pair? (take? depth)) length rest <;> rfl

/-- A whole number with a sign. -/
theorem take?_signedBytes {value : Int} (low : -(Int.ofNat (Nat.pow 2 63)) ≤ value)
    (high : value < Int.ofNat (Nat.pow 2 63)) (depth : Nat) (rest : List UInt8) :
    take? depth (marked 0xd3 8 (value % UInt64.size).toNat ++ rest) =
      some (.signed value, rest) := by
  have power : Int.ofNat (Nat.pow 2 63) = 9223372036854775808 := rfl
  have size : Nat.pow 256 8 = 18446744073709551616 := rfl
  have modulus : ((UInt64.size : Nat) : Int) = 18446744073709551616 := rfl
  have whole : ((18446744073709551616 : Nat) : Int) = 18446744073709551616 := rfl
  rw [power] at low high
  rw [modulus]
  have word : (value % 18446744073709551616).toNat % Nat.pow 256 8 =
      (value % 18446744073709551616).toNat :=
    Nat.mod_eq_of_lt (by rw [size]; omega)
  have same : Int.bmod (value % 18446744073709551616).toNat (Nat.pow 256 8) = value := by
    rw [Int.toNat_of_nonneg (by omega), size]
    refine (Int.emod_bmod ..).trans (Int.bmod_eq_of_le ?_ ?_) <;>
    · rw [whole]
      omega
  have read : takeLeaf? 0xd3 = takeSigned? 8 := rfl
  refine (take?_marked (by decide) ..).trans ((congrFun read _).trans ?_)
  rw [takeSigned?, Bytes.takeBig?_big, word]
  simp only [Option.map_some, same]

/-- A double-precision number. -/
theorem take?_floatBytes (value : Binary64) (depth : Nat) (rest : List UInt8) :
    take? depth (marked 0xcb 8 value.toBits.toNat ++ rest) = some (.float value, rest) := by
  have read (bytes : List UInt8) : takeLeaf? 0xcb bytes =
      (Bytes.takeBig? 8 bytes).map fun (word, rest) =>
        (.float (Binary64.ofBits (UInt64.ofNat word)), rest) := rfl
  refine (take?_marked (by decide) ..).trans ((read _).trans ?_)
  rw [Bytes.takeBig?_big,
    Nat.mod_eq_of_lt (show value.toBits.toNat < Nat.pow 256 8 from value.toBits.toNat_lt)]
  simp only [Option.map_some, UInt64.ofNat_toNat, Binary64.ofBits_toBits]

/-- Bytes of a kind that the format leaves open. -/
theorem take?_extensionBytes {kind : UInt8} (short : content.length < UInt32.size) (depth : Nat)
    (rest : List UInt8) :
    take? (depth + 1) (marked 0xc9 4 content.length ++ (kind :: (content ++ rest))) =
      some (.extension kind content, rest) :=
  (sized?_big 4 short takeExtension?).trans takeExtension?_append

/-! ### Values -/

theorem collectionHead_ne_nil (short : Nat) (medium long : UInt8) (size : Nat) :
    collectionHead short medium long size ≠ [] := by
  unfold collectionHead
  (repeat' split) <;> exact List.cons_ne_nil _ _

theorem bytes_ne_nil (value : MessagePack) : value.bytes ≠ [] := by
  cases value with
  | natural value =>
      rw [bytes, naturalBytes]
      (repeat' split) <;> exact List.cons_ne_nil _ _
  | text content =>
      refine List.append_ne_nil_of_left_ne_nil ?_ content
      unfold textHead
      (repeat' split) <;> exact List.cons_ne_nil _ _
  | binary content =>
      refine List.append_ne_nil_of_left_ne_nil ?_ content
      unfold binaryHead
      (repeat' split) <;> exact List.cons_ne_nil _ _
  | list items => exact List.append_ne_nil_of_left_ne_nil (collectionHead_ne_nil _ _ _ _) _
  | map entries => exact List.append_ne_nil_of_left_ne_nil (collectionHead_ne_nil _ _ _ _) _
  | _ => exact List.cons_ne_nil _ _

theorem length_le_itemsBytes (items : List MessagePack) :
    items.length ≤ (itemsBytes items).length := by
  induction items with
  | nil => exact Nat.le_refl 0
  | cons item items ih =>
      have := List.length_pos_iff.mpr item.bytes_ne_nil
      rw [itemsBytes, List.length_append, List.length_cons]
      omega

theorem length_le_entriesBytes (entries : List (MessagePack × MessagePack)) :
    entries.length ≤ (entriesBytes entries).length := by
  induction entries with
  | nil => exact Nat.le_refl 0
  | cons entry entries ih =>
      have := List.length_pos_iff.mpr entry.1.bytes_ne_nil
      rw [entriesBytes, List.length_append, List.length_append, List.length_cons]
      omega

theorem many?_succ {α : Type} {read : List UInt8 → Option (α × List UInt8)} {item : α}
    {items : List α} {count : Nat} {bytes tail rest : List UInt8}
    (first : read bytes = some (item, tail)) (others : many? read count tail = some (items, rest)) :
    many? read (count + 1) bytes = some (item :: items, rest) := by
  simp only [many?, first, others, Option.bind_eq_bind, Option.bind_some]
  rfl

mutual

/-- **The bytes of a value that fits give the value back**, whatever follows them. -/
theorem take?_bytes {value : MessagePack} {depth : Nat} (fits : Fits value depth)
    (short : value.bytes.length < UInt32.size) (rest : List UInt8) :
    take? depth (value.bytes ++ rest) = some (value, rest) := by
  match value with
  | .null => exact take?_leaf (by decide) depth rest
  | .bool true => exact take?_leaf (by decide) depth rest
  | .bool false => exact take?_leaf (by decide) depth rest
  | .natural value => exact take?_naturalBytes (by simpa only [Fits] using fits) depth rest
  | .signed value =>
      simp only [Fits] at fits
      exact take?_signedBytes fits.1 fits.2 depth rest
  | .float value => exact take?_floatBytes value depth rest
  | .text content =>
      rw [bytes, List.append_assoc]
      rw [bytes, List.length_append] at short
      exact take?_textHead (by omega) depth rest
  | .binary content =>
      rw [bytes, List.append_assoc]
      rw [bytes, List.length_append] at short
      exact take?_binaryHead (by omega) depth rest
  | .extension kind content =>
      rw [bytes, List.append_assoc]
      rw [bytes, List.length_append, List.length_cons] at short
      simp only [Fits] at fits
      obtain ⟨inner, rfl⟩ := Nat.exists_eq_add_one.mpr fits
      exact take?_extensionBytes (by omega) inner rest
  | .list items =>
      rw [bytes, List.length_append] at short
      simp only [Fits] at fits
      obtain ⟨inner, rfl⟩ := Nat.exists_eq_add_one.mpr fits.1
      have inside : ItemsFit items inner := fits.2
      have few := length_le_itemsBytes items
      rw [bytes, List.append_assoc, take?_listHead (by omega),
        many?_itemsBytes inside (by omega) rest, Option.map_some]
  | .map entries =>
      rw [bytes, List.length_append] at short
      simp only [Fits] at fits
      obtain ⟨inner, rfl⟩ := Nat.exists_eq_add_one.mpr fits.1
      have inside : EntriesFit entries inner := fits.2
      have few := length_le_entriesBytes entries
      rw [bytes, List.append_assoc, take?_mapHead (by omega),
        many?_entriesBytes inside (by omega) rest, Option.map_some]

/-- Values read one after the other. -/
theorem many?_itemsBytes {items : List MessagePack} {depth : Nat} (fits : ItemsFit items depth)
    (short : (itemsBytes items).length < UInt32.size) (rest : List UInt8) :
    many? (take? depth) items.length (itemsBytes items ++ rest) = some (items, rest) := by
  match items with
  | [] => rfl
  | item :: items =>
      rw [itemsBytes, List.length_append] at short
      simp only [ItemsFit] at fits
      rw [itemsBytes, List.append_assoc]
      exact many?_succ (take?_bytes fits.1 (by omega) _) (many?_itemsBytes fits.2 (by omega) rest)

/-- Keys and values read one after the other. -/
theorem many?_entriesBytes {entries : List (MessagePack × MessagePack)} {depth : Nat}
    (fits : EntriesFit entries depth) (short : (entriesBytes entries).length < UInt32.size)
    (rest : List UInt8) :
    many? (pair? (take? depth)) entries.length (entriesBytes entries ++ rest) =
      some (entries, rest) := by
  match entries with
  | [] => rfl
  | (key, value) :: entries =>
      rw [entriesBytes, List.length_append, List.length_append] at short
      simp only [EntriesFit] at fits
      obtain ⟨key_fits, value_fits, fits⟩ := fits
      rw [entriesBytes, List.append_assoc, List.append_assoc]
      refine many?_succ ?_ (many?_entriesBytes fits (by omega) rest)
      simp only [pair?, take?_bytes key_fits (show key.bytes.length < UInt32.size by omega),
        take?_bytes value_fits (show value.bytes.length < UInt32.size by omega),
        Option.bind_eq_bind, Option.bind_some]
      rfl

end

/-- A document gives the value that it was written from. -/
theorem ofBytes?_bytes {value : MessagePack} (fits : value.Fits maxDepth)
    (short : value.bytes.length < UInt32.size) : ofBytes? value.bytes = some value := by
  have read := take?_bytes fits short []
  rw [List.append_nil] at read
  rw [ofBytes?, read, Option.map_some]

end MessagePack

end GolfProgress
