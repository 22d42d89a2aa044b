import GolfProgress.Bytes.Order

/-!
# LZ4 blocks

A block is a list of sequences, each some literal bytes and then a copy of bytes
that came out earlier, and literal bytes at the end.  A copy may reach into the
bytes that it produces itself.  `expand?` gives the bytes that a block stands
for, `bytes` writes a block, and `ofBytes?` reads what `bytes` writes.
-/

set_option autoImplicit false

namespace GolfProgress.Lz4

/-- Literal bytes and a copy. -/
structure Sequence where
  literals : List UInt8
  /-- How far back the copy begins. -/
  distance : Nat
  /-- How many bytes are copied. -/
  length : Nat
deriving DecidableEq, Repr, Inhabited

/-- A block of compressed data. -/
structure Block where
  sequences : List Sequence
  tail : List UInt8
deriving DecidableEq, Repr, Inhabited

/-- The shortest copy. -/
def minCopy : Nat := 4

/-! ## What a block stands for -/

/-- What has come out after a copy of a byte at a time. -/
def copy? (distance : Nat) : Nat → Array UInt8 → Option (Array UInt8)
  | 0, out => some out
  | count + 1, out =>
    if distance = 0 ∨ out.size < distance then none
    else
      match out[out.size - distance]? with
      | none => none
      | some byte => copy? distance count (out.push byte)

/-- What has come out after some sequences. -/
def expandSequences? (out : Array UInt8) : List Sequence → Option (Array UInt8)
  | [] => some out
  | sequence :: rest => do
    let out ← copy? sequence.distance sequence.length (out ++ sequence.literals)
    expandSequences? out rest

/-- The bytes that a block stands for; none if a copy begins before them. -/
def Block.expand? (block : Block) : Option (List UInt8) :=
  (expandSequences? #[] block.sequences).map fun out => out.toList ++ block.tail

/-! ## Writing -/

/-- The part of a length that is kept in four bits. -/
def nibble (length : Nat) : Nat := min length 15

/-- The bytes of a number that ends with the first byte below 255. -/
def runBytes (value : Nat) : List UInt8 :=
  List.replicate (value / 255) 255 ++ [UInt8.ofNat (value % 255)]

/-- The bytes of what four bits do not hold of a length. -/
def lengthBytes (length : Nat) : List UInt8 :=
  if length < 15 then [] else runBytes (length - 15)

/-- The byte of two lengths. -/
def token (literals copied : Nat) : UInt8 := UInt8.ofNat (16 * nibble literals + nibble copied)

def Sequence.bytes (sequence : Sequence) : List UInt8 :=
  token sequence.literals.length (sequence.length - minCopy) ::
    (lengthBytes sequence.literals.length ++ (sequence.literals ++
      (Bytes.little 2 sequence.distance ++ lengthBytes (sequence.length - minCopy))))

/-- The bytes of literals at the end of a block. -/
def tailBytes (tail : List UInt8) : List UInt8 :=
  token tail.length 0 :: (lengthBytes tail.length ++ tail)

def Block.bytes (block : Block) : List UInt8 :=
  block.sequences.flatMap Sequence.bytes ++ tailBytes block.tail

/-! ## Reading -/

/-- A number that ends with the first byte below 255, and the bytes after it. -/
def takeRun? : List UInt8 → Option (Nat × List UInt8)
  | [] => none
  | byte :: rest =>
    if byte = 255 then (takeRun? rest).map fun (value, rest) => (value + 255, rest)
    else some (byte.toNat, rest)

/-- A length whose first part is known, and the bytes after it. -/
def takeLength? (first : Nat) (bytes : List UInt8) : Option (Nat × List UInt8) :=
  if first < 15 then some (first, bytes)
  else (takeRun? bytes).map fun (value, rest) => (15 + value, rest)

/-- The block that some bytes write, of at most so many sequences. -/
def takeBlock? : Nat → List UInt8 → Option Block
  | _, [] => none
  | 0, _ => none
  | fuel + 1, token :: bytes => do
    let (count, bytes) ← takeLength? (token.toNat / 16) bytes
    let (literals, bytes) ← Bytes.take? count bytes
    if bytes = [] then return ⟨[], literals⟩
    let (distance, bytes) ← Bytes.takeLittle? 2 bytes
    let (extra, bytes) ← takeLength? (token.toNat % 16) bytes
    let block ← takeBlock? fuel bytes
    return ⟨⟨literals, distance, extra + minCopy⟩ :: block.sequences, block.tail⟩

/-- The block that some bytes write. -/
def Block.ofBytes? (bytes : List UInt8) : Option Block := takeBlock? (bytes.length + 1) bytes

/-! ## Written blocks read back -/

/-- Reading a written run gives its number. -/
theorem takeRun?_runBytes (value : Nat) (rest : List UInt8) :
    takeRun? (runBytes value ++ rest) = some (value, rest) := by
  have run : ∀ count last : Nat, last < 255 →
      takeRun? (List.replicate count 255 ++ [UInt8.ofNat last] ++ rest) =
        some (last + 255 * count, rest) := by
    intro count last small
    induction count with
    | zero =>
      have differs : UInt8.ofNat last ≠ 255 := by
        intro same
        have := congrArg UInt8.toNat same
        simp at this
        omega
      simp [takeRun?, differs]
      omega
    | succ count ih =>
      simp only [List.replicate_succ, List.cons_append, takeRun?, if_true]
      rw [ih]
      simp
      omega
  rw [runBytes, run _ _ (Nat.mod_lt _ (by decide))]
  have := Nat.mod_add_div value 255
  simp [this]

/-- Reading a written length gives the length. -/
theorem takeLength?_lengthBytes (length : Nat) (rest : List UInt8) :
    takeLength? (nibble length) (lengthBytes length ++ rest) = some (length, rest) := by
  unfold lengthBytes nibble takeLength?
  by_cases short : length < 15
  · simp [short, Nat.min_eq_left (Nat.le_of_lt short)]
  · have least : min length 15 = 15 := by omega
    simp [short, least, takeRun?_runBytes]
    omega

/-- The two lengths of a token. -/
theorem toNat_token (literals copied : Nat) :
    (token literals copied).toNat / 16 = nibble literals ∧
      (token literals copied).toNat % 16 = nibble copied := by
  have small : nibble literals ≤ 15 ∧ nibble copied ≤ 15 := by
    constructor <;> (unfold nibble; omega)
  have value : (token literals copied).toNat = 16 * nibble literals + nibble copied := by
    simp [token]
    omega
  omega

/-- A sequence that the format can hold. -/
def Sequence.Fits (sequence : Sequence) : Prop :=
  sequence.distance < UInt16.size ∧ minCopy ≤ sequence.length

/-- Reading a written block gives the block. -/
theorem takeBlock?_bytes (sequences : List Sequence) (tail : List UInt8)
    (fits : ∀ sequence ∈ sequences, sequence.Fits) (fuel : Nat)
    (enough : sequences.length < fuel) :
    takeBlock? fuel (sequences.flatMap Sequence.bytes ++ tailBytes tail) =
      some ⟨sequences, tail⟩ := by
  induction sequences generalizing fuel with
  | nil =>
    obtain ⟨fuel, rfl⟩ : ∃ more, fuel = more + 1 := ⟨fuel - 1, by simp at enough; omega⟩
    have whole := Bytes.take?_append tail []
    rw [List.append_nil] at whole
    simp [takeBlock?, tailBytes, (toNat_token _ _).1, takeLength?_lengthBytes, whole]
  | cons sequence rest ih =>
    obtain ⟨fuel, rfl⟩ : ∃ more, fuel = more + 1 := ⟨fuel - 1, by simp at enough; omega⟩
    obtain ⟨near, long⟩ := fits sequence (by simp)
    have more := ih (fun other member => fits other (by simp [member])) fuel
      (by simp at enough; omega)
    have distance : sequence.distance % Nat.pow 256 2 = sequence.distance :=
      Nat.mod_eq_of_lt near
    have length : sequence.length - minCopy + minCopy = sequence.length := by omega
    have notEnd (bytes : List UInt8) : ¬ Bytes.little 2 sequence.distance ++ bytes = [] := by
      intro none
      have := congrArg List.length none
      simp at this
    simp only [List.flatMap_cons, Sequence.bytes, List.cons_append, List.append_assoc,
      takeBlock?, (toNat_token _ _).1, (toNat_token _ _).2, takeLength?_lengthBytes,
      Option.bind_eq_bind, Option.bind_some, Bytes.take?_append, notEnd, if_false,
      Bytes.takeLittle?_little, distance, more, length]
    rfl

/-- Each sequence takes at least one byte. -/
theorem length_le_length_bytes (sequences : List Sequence) :
    sequences.length ≤ (sequences.flatMap Sequence.bytes).length := by
  induction sequences with
  | nil => simp
  | cons sequence rest ih =>
    simp only [List.flatMap_cons, List.length_append, List.length_cons, Sequence.bytes]
    omega

/-- A written block reads back. -/
theorem Block.ofBytes?_bytes (block : Block)
    (fits : ∀ sequence ∈ block.sequences, sequence.Fits) :
    Block.ofBytes? block.bytes = some block := by
  have count := length_le_length_bytes block.sequences
  rw [Block.ofBytes?, Block.bytes]
  exact takeBlock?_bytes _ _ fits _ (by simp only [List.length_append]; omega)

end GolfProgress.Lz4
