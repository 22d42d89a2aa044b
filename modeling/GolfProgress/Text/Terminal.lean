import GolfProgress.Bytes.Utf8

/-!
# Texts without control sequences

A terminal takes some characters for controls: the escape character begins a
sequence that moves, colours or names things and is not shown.  What is left of a
text when every control is taken out is what a reader of a plain file should
find.

Line ends and other blanks are no controls.  Inside a sequence they are left in
the text, and what follows them is text again up to the next control, which goes
on with the sequence; the strings that a terminal is sent keep them.
-/

set_option autoImplicit false

namespace GolfProgress.Terminal

/-- Where a terminal is in what it is sent. -/
inductive State where
  | text
  /-- Inside a character of which some bytes are still to come. -/
  | character (pending : Nat)
  /-- After the escape character. -/
  | escape
  /-- After the escape character and a mark. -/
  | escapeMark
  /-- Inside a sequence that ends with a letter. -/
  | sequence
  /-- At the head of a message to the device. -/
  | device
  /-- Among the numbers at the head of a message to the device. -/
  | deviceNumber
  /-- Among the marks at the head of a message to the device. -/
  | deviceMark
  /-- Inside a string that is passed over. -/
  | string
  /-- Inside a command to the system, which a bell may end. -/
  | command
deriving DecidableEq, Repr, Inhabited

/-- The byte of the escape character. -/
def escapeByte : UInt8 := 0x1B

/-- Whether a byte breaks off what is sent. -/
def isCancel (byte : UInt8) : Bool := byte == 0x18 || byte == 0x1A

/-- Whether a byte is a blank or a line end that is no control. -/
def isBlank (byte : UInt8) : Bool :=
  byte == 0x09 || byte == 0x0A || byte == 0x0C || byte == 0x0D

/-- Whether a byte lies between two others. -/
def isWithin (low high byte : UInt8) : Bool := low ≤ byte && byte ≤ high

namespace State

/-- What the byte after the escape character begins. -/
def ofIntroducer? (byte : UInt8) : Option State :=
  if isWithin 0x20 0x2F byte then some .escapeMark
  else if !isWithin 0x30 0x7E byte then none
  else match Char.ofNat byte.toNat with
    | '[' => some .sequence
    | ']' => some .command
    | 'P' => some .device
    | 'X' | '^' | '_' => some .string
    | _ => some .text

/-- What a byte at the head of a message to the device leads to, given what a
digit and what a sign of comparison lead to. -/
def afterHead? (digit sign : Option State) (byte : UInt8) : Option State :=
  if isWithin 0x20 0x2F byte then some .deviceMark
  else if isWithin 0x30 0x3B byte then digit
  else if isWithin 0x3C 0x3F byte then sign
  else if isWithin 0x40 0x7E byte then some .string
  else none

/-- The state that a byte leads to, unless it leaves the terminal where it is. -/
def after? (state : State) (byte : UInt8) : Option State :=
  match state with
  | .character pending => some (if pending ≤ 1 then .text else .character (pending - 1))
  | state =>
    if byte = escapeByte then some .escape
    else if isCancel byte then some .text
    else match state with
      | .text =>
        if isWithin 0xC2 0xF4 byte then (Bytes.followers? byte).map .character else none
      | .character _ => none
      | .escape => ofIntroducer? byte
      | .escapeMark => if isWithin 0x30 0x7E byte then some .text else none
      | .sequence => if isWithin 0x40 0x7E byte then some .text else none
      | .device => afterHead? (some .deviceNumber) (some .deviceNumber) byte
      | .deviceNumber => afterHead? none (some .string) byte
      | .deviceMark => afterHead? (some .string) (some .string) byte
      | .string => if byte = 0x9C then some .text else none
      | .command => if byte = 0x07 then some .text else none

/-- Whether a byte is left in the text. -/
def shows (state : State) (byte : UInt8) : Bool :=
  match state with
  | .text => isBlank byte || isWithin 0x20 0x7E byte || isWithin 0xC2 0xF4 byte
  | .character _ => true
  | .escape | .escapeMark | .sequence => isBlank byte
  | _ => false

end State

/-- The bytes of a text without control sequences.  While bytes are shown they
count as text, also inside a sequence that a blank has broken; the byte that ends
the showing is a part of the sequence again. -/
def shownBytes (state : State) (showing : Bool) : List UInt8 → List UInt8
  | [] => []
  | byte :: rest =>
    let current : State := match state with
      | .character pending => .character pending
      | state => if showing then .text else state
    if current.shows byte then
      byte :: shownBytes ((current.after? byte).getD state) true rest
    else
      let begun := if showing then (current.after? byte).getD state else state
      shownBytes ((begun.after? byte).getD begun) false rest

/-- A text without control sequences. -/
def shown (text : String) : String :=
  (Bytes.toText? (shownBytes .text false (Bytes.ofText text))).getD ""

/-! ## Styles -/

/-- A text in some styles, each by its number. -/
def styled (styles : List Nat) (text : String) : String :=
  String.join (styles.map fun style => "\x1b[" ++ toString style ++ "m") ++ text ++ "\x1b[0m"

/-- A text in yellow. -/
def highlighted : String → String := styled [33]

/-- A text in green. -/
def approved : String → String := styled [32]

/-- A text in heavy red. -/
def alarming : String → String := styled [1, 31]

/-- A text in heavy letters. -/
def heavy : String → String := styled [1]

/-- A text in slanted letters. -/
def slanted : String → String := styled [3]

/-- A text that stands back. -/
def faint : String → String := styled [2]

end GolfProgress.Terminal
