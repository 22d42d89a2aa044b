import GolfProgress.Lz4.Block
import Std.Data.HashMap

/-!
# LZ4 compression

Data are kept with their size in four bytes, lowest first, and then a block.
The compressor looks up where the next four bytes were seen last and copies from
there as far as the bytes agree; every copy is checked before it is taken, so
whatever the table of places holds, the block stands for the data.  The last
bytes of a block are always literals.
-/

set_option autoImplicit false

namespace GolfProgress.Lz4

/-! ## Compressing -/

/-- Where each run of four bytes was seen last. -/
abbrev Places := Std.HashMap Nat Nat

/-- How many bytes from a place on, up to a limit, a copy from a distance gets right. -/
def agreeing (data : Array UInt8) (distance : Nat) : Nat → Nat → Nat
  | 0, _ => 0
  | limit + 1, place =>
    if place < data.size ∧ data[place - distance]? = data[place]? then
      agreeing data distance limit (place + 1) + 1
    else 0

def fourBytes? (data : Array UInt8) (place : Nat) : Option Nat := do
  return Bytes.ofLittle
    [← data[place]?, ← data[place + 1]?, ← data[place + 2]?, ← data[place + 3]?]

/-- The distance and length of a copy that is long enough for the bytes from a place on. -/
def copyAhead? (data : Array UInt8) (places : Places) (place : Nat) : Option (Nat × Nat) := do
  if data.size - place < 13 then none
  let earlier ← places.get? (← fourBytes? data place)
  let distance := place - earlier
  if distance = 0 ∨ UInt16.size ≤ distance then none
  let length := agreeing data distance (data.size - place - 5) place
  if length < minCopy then none else some (distance, length)

/-- The places with that of the four bytes at a place. -/
def noted (data : Array UInt8) (places : Places) (place : Nat) : Places :=
  match fourBytes? data place with
  | some key => places.insert key place
  | none => places

/-- The block of the bytes from `start` on, of which those before `place` are literals. -/
def blockFrom (data : Array UInt8) : Nat → Places → Nat → Nat → Block
  | 0, _, start, _ => ⟨[], (data.extract start data.size).toList⟩
  | fuel + 1, places, start, place =>
    if place < data.size then
      let after := noted data places place
      match copyAhead? data places place with
      | some (distance, length) =>
        let block := blockFrom data fuel after (place + length) (place + length)
        ⟨⟨(data.extract start place).toList, distance, length⟩ :: block.sequences,
          block.tail⟩
      | none => blockFrom data fuel after start (place + 1)
    else ⟨[], (data.extract start data.size).toList⟩

/-- The block of some data. -/
def Block.ofData (data : List UInt8) : Block := blockFrom data.toArray data.length {} 0 0

/-- The compressed form of some data. -/
def compress (data : List UInt8) : List UInt8 :=
  Bytes.little 4 data.length ++ (Block.ofData data).bytes

/-- The data of a compressed form; they may be shorter than the size in front,
but not longer. -/
def decompress? (bytes : List UInt8) : Option (List UInt8) := do
  let (size, rest) ← Bytes.takeLittle? 4 bytes
  let data ← (← Block.ofBytes? rest).expand?
  if data.length ≤ size then some data else none

/-! ## Compressed data come back -/

/-- The bytes before a place with the byte there are those before the next place. -/
theorem push_extract (data : Array UInt8) (place : Nat) (inside : place < data.size) :
    (data.extract 0 place).push data[place] = data.extract 0 (place + 1) := by
  rw [Array.push_extract_getElem inside, Nat.zero_min]

/-- A copy of bytes that agree produces them. -/
theorem copy?_agreeing (data : Array UInt8) (distance limit place : Nat)
    (positive : distance ≠ 0) (reached : distance ≤ place) :
    copy? distance (agreeing data distance limit place) (data.extract 0 place) =
      some (data.extract 0 (place + agreeing data distance limit place)) := by
  induction limit generalizing place with
  | zero => simp [agreeing, copy?]
  | succ limit ih =>
    simp only [agreeing]
    split
    · rename_i agrees
      obtain ⟨inside, same⟩ := agrees
      have size : (data.extract 0 place).size = place := by simp; omega
      have byte : (data.extract 0 place)[place - distance]? = some data[place] := by
        have before : place - distance < data.size := by omega
        rw [Array.getElem?_eq_getElem before, Array.getElem?_eq_getElem inside] at same
        rw [Array.getElem?_extract_of_lt (by omega)]
        simpa using same
      have near : ¬ (distance = 0 ∨ place < distance) := by omega
      simp only [copy?, size, near, if_false, byte, push_extract data place inside]
      rw [ih (place + 1) (by omega)]
      congr 2
      omega
    · simp [copy?]

/-- A copy found ahead is near and long enough, and produces the bytes ahead. -/
theorem copyAhead?_spec {data : Array UInt8} {places : Places} {place distance length : Nat}
    (found : copyAhead? data places place = some (distance, length)) :
    distance < UInt16.size ∧ minCopy ≤ length ∧
      copy? distance length (data.extract 0 place) =
        some (data.extract 0 (place + length)) := by
  simp only [copyAhead?, Option.bind_eq_bind] at found
  split at found
  · simp at found
  · obtain ⟨key, _, found⟩ := Option.bind_eq_some_iff.1 found
    obtain ⟨earlier, _, found⟩ := Option.bind_eq_some_iff.1 found
    split at found
    · simp at found
    · split at found
      · simp at found
      · rename_i near long
        simp only [Option.some.injEq, Prod.mk.injEq] at found
        obtain ⟨rfl, rfl⟩ := found
        exact ⟨by omega, by omega, copy?_agreeing data _ _ place (by omega) (by omega)⟩

/-- The bytes before one place and those from there to another. -/
theorem extract_append (data : Array UInt8) (start place : Nat) (ordered : start ≤ place) :
    data.extract 0 start ++ (data.extract start place).toList = data.extract 0 place := by
  rw [← Array.toList_inj]
  simp only [Array.toList_appendList, Array.toList_extract, List.extract_eq_take_drop,
    List.drop_zero, Nat.sub_zero]
  rw [← List.take_add, Nat.add_sub_cancel' ordered]

/-- The bytes before a place and those after it. -/
theorem toList_extract_append (data : Array UInt8) (start : Nat) :
    (data.extract 0 start).toList ++ (data.extract start data.size).toList = data.toList := by
  have rest : (data.toList.drop start).take (data.size - start) = data.toList.drop start :=
    List.take_of_length_le (by simp)
  simp only [Array.toList_extract, List.extract_eq_take_drop, List.drop_zero, Nat.sub_zero,
    rest, List.take_append_drop]

/-- The block of the bytes from a start on stands for them, and its sequences fit
the format. -/
theorem expandSequences?_blockFrom (data : Array UInt8) (fuel : Nat) (places : Places)
    (start place : Nat) (ordered : start ≤ place) :
    let block := blockFrom data fuel places start place
    (expandSequences? (data.extract 0 start) block.sequences).map (·.toList ++ block.tail) =
        some data.toList ∧
      ∀ sequence ∈ block.sequences, sequence.Fits := by
  have atEnd (start : Nat) :
      (expandSequences? (data.extract 0 start) []).map
        (·.toList ++ (data.extract start data.size).toList) = some data.toList := by
    rw [expandSequences?, Option.map_some, toList_extract_append]
  induction fuel generalizing places start place with
  | zero => exact ⟨atEnd start, by simp [blockFrom]⟩
  | succ fuel ih =>
    simp only [blockFrom]
    split
    · split
      · rename_i distance length found
        obtain ⟨near, long, copied⟩ := copyAhead?_spec found
        have more := ih (noted data places place) (place + length) (place + length)
          (Nat.le_refl _)
        refine ⟨?_, ?_⟩
        · simp only [expandSequences?, extract_append data start place ordered, copied,
            Option.bind_eq_bind, Option.bind_some, more.1]
        · intro sequence member
          rcases List.mem_cons.1 member with rfl | member
          · exact ⟨near, long⟩
          · exact more.2 sequence member
      · exact ih (noted data places place) start (place + 1) (by omega)
    · exact ⟨atEnd start, by simp⟩

/-- The block of some data stands for the data. -/
theorem Block.expand?_ofData (data : List UInt8) : (Block.ofData data).expand? = some data := by
  have expanded :=
    (expandSequences?_blockFrom data.toArray data.length {} 0 0 (Nat.le_refl _)).1
  simpa [Block.expand?, Block.ofData] using expanded

/-- The sequences of the block of some data fit the format. -/
theorem Block.fits_ofData (data : List UInt8) :
    ∀ sequence ∈ (Block.ofData data).sequences, sequence.Fits :=
  (expandSequences?_blockFrom data.toArray data.length {} 0 0 (Nat.le_refl _)).2

/-- Data of a size that four bytes hold come back from their compressed form. -/
theorem decompress?_compress (data : List UInt8) (short : data.length < UInt32.size) :
    decompress? (compress data) = some data := by
  have size : data.length % Nat.pow 256 4 = data.length := Nat.mod_eq_of_lt short
  have written : Bytes.takeLittle? 4 (compress data) =
      some (data.length, (Block.ofData data).bytes) := by
    rw [compress, Bytes.takeLittle?_little, size]
  have read : Block.ofBytes? (Block.ofData data).bytes = some (Block.ofData data) :=
    Block.ofBytes?_bytes _ (Block.fits_ofData data)
  simp only [decompress?, written, read, Block.expand?_ofData, Option.bind_eq_bind,
    Option.bind_some, Nat.le_refl, if_true]

end GolfProgress.Lz4
