import GolfProgress.Bytes.Hex
import GolfProgress.Bytes.Order

/-!
# SHA-256

The digest of a sequence of bytes: the message is padded to whole blocks of
sixty-four bytes, and each block is worked into eight words by sixty-four rounds.
-/

set_option autoImplicit false

namespace GolfProgress.Sha256

/-- The eight words of the chaining state. -/
structure State where
  a : UInt32
  b : UInt32
  c : UInt32
  d : UInt32
  e : UInt32
  f : UInt32
  g : UInt32
  h : UInt32
deriving DecidableEq, Repr, Inhabited

/-- The state before the first block. -/
def State.start : State :=
  ⟨0x6a09e667, 0xbb67ae85, 0x3c6ef372, 0xa54ff53a, 0x510e527f, 0x9b05688c, 0x1f83d9ab,
    0x5be0cd19⟩

/-- The constants of the rounds. -/
def roundConstants : List UInt32 := [
  0x428a2f98, 0x71374491, 0xb5c0fbcf, 0xe9b5dba5, 0x3956c25b, 0x59f111f1, 0x923f82a4,
  0xab1c5ed5, 0xd807aa98, 0x12835b01, 0x243185be, 0x550c7dc3, 0x72be5d74, 0x80deb1fe,
  0x9bdc06a7, 0xc19bf174, 0xe49b69c1, 0xefbe4786, 0x0fc19dc6, 0x240ca1cc, 0x2de92c6f,
  0x4a7484aa, 0x5cb0a9dc, 0x76f988da, 0x983e5152, 0xa831c66d, 0xb00327c8, 0xbf597fc7,
  0xc6e00bf3, 0xd5a79147, 0x06ca6351, 0x14292967, 0x27b70a85, 0x2e1b2138, 0x4d2c6dfc,
  0x53380d13, 0x650a7354, 0x766a0abb, 0x81c2c92e, 0x92722c85, 0xa2bfe8a1, 0xa81a664b,
  0xc24b8b70, 0xc76c51a3, 0xd192e819, 0xd6990624, 0xf40e3585, 0x106aa070, 0x19a4c116,
  0x1e376c08, 0x2748774c, 0x34b0bcb5, 0x391c0cb3, 0x4ed8aa4a, 0x5b9cca4f, 0x682e6ff3,
  0x748f82ee, 0x78a5636f, 0x84c87814, 0x8cc70208, 0x90befffa, 0xa4506ceb, 0xbef9a3f7,
  0xc67178f2]

/-- A word turned right. -/
def rotate (word : UInt32) (places : UInt32) : UInt32 :=
  (word >>> places) ||| (word <<< (32 - places))

/-- The mixing of a word of the schedule fifteen places back. -/
def earlyMix (word : UInt32) : UInt32 := rotate word 7 ^^^ rotate word 18 ^^^ (word >>> 3)

/-- The mixing of a word of the schedule two places back. -/
def lateMix (word : UInt32) : UInt32 := rotate word 17 ^^^ rotate word 19 ^^^ (word >>> 10)

/-- A schedule, latest word first, with further words. -/
def extended : Nat → List UInt32 → List UInt32
  | 0, words => words
  | count + 1, words =>
    extended count ((words.getD 15 0 + earlyMix (words.getD 14 0) + words.getD 6 0 +
      lateMix (words.getD 1 0)) :: words)

/-- The words of some bytes. -/
def wordsOf : List UInt8 → List UInt32
  | b0 :: b1 :: b2 :: b3 :: rest => UInt32.ofNat (Bytes.ofBig [b0, b1, b2, b3]) :: wordsOf rest
  | _ => []

/-- The sixty-four words of the schedule of a block. -/
def schedule (block : List UInt8) : List UInt32 := (extended 48 (wordsOf block).reverse).reverse

def State.round (state : State) (constant word : UInt32) : State :=
  let choice := (state.e &&& state.f) ^^^ ((~~~ state.e) &&& state.g)
  let majority := (state.a &&& state.b) ^^^ (state.a &&& state.c) ^^^ (state.b &&& state.c)
  let first := state.h + (rotate state.e 6 ^^^ rotate state.e 11 ^^^ rotate state.e 25) +
    choice + constant + word
  let second := (rotate state.a 2 ^^^ rotate state.a 13 ^^^ rotate state.a 22) + majority
  ⟨first + second, state.a, state.b, state.c, state.d + first, state.e, state.f, state.g⟩

/-- The sum of two states, word by word. -/
def State.add (x y : State) : State :=
  ⟨x.a + y.a, x.b + y.b, x.c + y.c, x.d + y.d, x.e + y.e, x.f + y.f, x.g + y.g, x.h + y.h⟩

def State.block (state : State) (bytes : List UInt8) : State :=
  state.add <| (roundConstants.zip (schedule bytes)).foldl
    (fun state (constant, word) => state.round constant word) state

/-- The state after so many blocks off the head of some bytes. -/
def State.blocks (state : State) : Nat → List UInt8 → State
  | 0, _ => state
  | count + 1, bytes => (state.block (bytes.take 64)).blocks count (bytes.drop 64)

/-- A message made up to whole blocks. -/
def padded (message : List UInt8) : List UInt8 :=
  message ++ 0x80 :: List.replicate ((119 - message.length % 64) % 64) 0 ++
    Bytes.big 8 (8 * message.length)

def State.bytes (state : State) : List UInt8 :=
  [state.a, state.b, state.c, state.d, state.e, state.f, state.g, state.h].flatMap fun word =>
    Bytes.big 4 word.toNat

def digest (message : List UInt8) : List UInt8 :=
  let bytes := padded message
  (State.start.blocks (bytes.length / 64) bytes).bytes

/-- The digest of a message as hexadecimal text. -/
def hexDigest (message : List UInt8) : String := Bytes.toHex (digest message)

end GolfProgress.Sha256
