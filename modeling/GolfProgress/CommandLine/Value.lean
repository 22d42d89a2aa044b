import GolfProgress.Constraints.Report
import GolfProgress.Registry.Codes
import GolfProgress.Text.Blank
import GolfProgress.Uuid.Fault

/-!
# Values of options

Readers of what a user may write after an option, and the faults that they find.
A count is read as a signed number first, so that one below zero is out of range
and not badly written.
-/

set_option autoImplicit false

namespace GolfProgress

/-- What is wrong with a text that should be a whole number. -/
inductive NumberFault where
  | empty
  | digit
  | tooLarge
  | tooSmall
deriving DecidableEq, Repr, Inhabited

/-- The text of a fault. -/
def NumberFault.message : NumberFault → String
  | .empty => "cannot parse integer from empty string"
  | .digit => "invalid digit found in string"
  | .tooLarge => "number too large to fit in target type"
  | .tooSmall => "number too small to fit in target type"

/-- What is wrong with the value of an option. -/
inductive ValueFault where
  /-- Nothing stands where a path should. -/
  | absent
  /-- A measurement without an equals sign. -/
  | measurement (text : String)
  /-- A measurement of something that is no test number. -/
  | test (text : String)
  /-- A measurement that is no number. -/
  | reading (text : String)
  /-- A measurement that is not finite. -/
  | infinite (test : UInt8)
  | number (fault : NumberFault)
  /-- A whole number that is no count. -/
  | range (value : Int)
  | identifier (fault : UuidFault)
  /-- A code that the engine refuses. -/
  | code (failure : Failure)
deriving DecidableEq, Inhabited

def ValueFault.message : ValueFault → String
  | .absent => "nothing stands where a path should"
  | .measurement text => "expected TEST=VALUE, got '" ++ text ++ "'"
  | .test text => "invalid test number '" ++ text ++ "'"
  | .reading text => "invalid value '" ++ text ++ "'"
  | .infinite which => "value for test " ++ toString which.toNat ++ " is not finite"
  | .number fault => fault.message
  | .range value => toString value ++ " is not in 0..=" ++ toString (UInt32.size - 1)
  | .identifier fault => fault.message
  | .code failure => failure.message

namespace CommandLine

/-- The signed number of 64 bits that some digits write.  Digits are judged from
the left, so a number that has grown too long hides what follows it. -/
def signedOfDigits (negative : Bool) (digits : List Char) : Except NumberFault Int :=
  let leading := digits.takeWhile Char.isDigit
  let value := Text.valueOf leading
  if negative && decide (UInt64.size < 2 * value) then .error .tooSmall
  else if !negative && decide (UInt64.size ≤ 2 * value) then .error .tooLarge
  else if digits = [] ∨ leading.length < digits.length then .error .digit
  else .ok (if negative then -(value : Int) else value)

/-- The signed number of 64 bits that a text writes. -/
def signedOfText : List Char → Except NumberFault Int
  | [] => .error .empty
  | '-' :: digits => signedOfDigits true digits
  | '+' :: digits => signedOfDigits false digits
  | digits => signedOfDigits false digits

/-- The count that a text writes. -/
def countOfText (text : String) : Except ValueFault UInt32 :=
  match signedOfText text.toList with
  | .error fault => .error (.number fault)
  | .ok value =>
    if 0 ≤ value ∧ value < UInt32.size then .ok (UInt32.ofNat value.toNat)
    else .error (.range value)

/-- The test and value of a measurement `TEST=VALUE`, with blanks around either. -/
def measurementOfText (text : String) : Except ValueFault (UInt8 × Binary64) :=
  let (before, after) := text.toList.span (· ≠ '=')
  match after with
  | [] => .error (.measurement text)
  | _ :: after =>
    let before := Text.trim before
    let after := Text.trim after
    match Text.natAtMost? 255 before, Binary64.ofChars? after with
    | none, _ => .error (.test (String.ofList before))
    | some _, none => .error (.reading (String.ofList after))
    | some test, some value =>
      if value.isFinite then .ok (UInt8.ofNat test, value)
      else .error (.infinite (UInt8.ofNat test))

/-- A path, which is not empty. -/
def pathOfText (text : String) : Except ValueFault String :=
  if text = "" then .error .absent else .ok text

/-- A player's identifier. -/
def playerOfText (text : String) : Except ValueFault Uuid :=
  match Uuid.ofText? text with
  | some player => .ok player
  | none => .error (.identifier (Uuid.faultOf text))

/-- A category by its letter. -/
def categoryOfText (text : String) : Except ValueFault Category :=
  (Category.ofText text).mapError .code

/-- A gender by its code. -/
def genderOfText (text : String) : Except ValueFault Gender :=
  (Gender.ofText text).mapError .code

end CommandLine

end GolfProgress
