import GolfProgress.Calendar.Instant
import GolfProgress.Text.Blank
import GolfProgress.Text.Digits

/-!
# Written dates and instants

Dates are written `YYYY-MM-DD`, years outside 0 to 9999 with a sign and at
least four digits; instants add `T`, the time with as few of 0, 3, 6 or 9
decimals as hold it, and `Z`.

Reading is more liberal: parts need no padding, blanks may stand around the
numbers of a date and of a time of day, a time may follow its date after a space
or a small `t`, and its offset from universal time is `Z`, `UTC` or signed hours
and minutes.
-/

set_option autoImplicit false

namespace GolfProgress

namespace Calendar

/-! ## Writing -/

/-- A year of at least four digits, signed outside 0 to 9999. -/
def yearText (year : Int) : List Char :=
  if 0 ≤ year ∧ year ≤ 9999 then Text.padded 4 year.toNat
  else (if year < 0 then '-' else '+') :: Text.padded 4 year.natAbs

/-- The decimals of a second: none, or 3, 6 or 9 digits after a point. -/
def fractionText (nanosecond : Nat) : List Char :=
  if nanosecond = 0 then []
  else if nanosecond % 1000000 = 0 then '.' :: Text.padded 3 (nanosecond / 1000000)
  else if nanosecond % 1000 = 0 then '.' :: Text.padded 6 (nanosecond / 1000)
  else '.' :: Text.padded 9 nanosecond

/-- A written date. -/
def dateText (date : Date) : List Char :=
  yearText date.year ++ '-' :: Text.padded 2 date.month ++ '-' :: Text.padded 2 date.day

/-- A written instant up to its offset from universal time; the fraction of a leap
second shows as second 60. -/
def instantText (instant : Instant) : List Char :=
  let leap := instant.nanosecond / 1000000000
  dateText instant.date ++ 'T' :: Text.padded 2 (instant.second / 3600) ++
    ':' :: Text.padded 2 (instant.second / 60 % 60) ++
    ':' :: Text.padded 2 (instant.second % 60 + leap) ++
    fractionText (instant.nanosecond % 1000000000)

/-! ## Reading -/

/-- A number of one to `width` digits after blanks, and the text after it. -/
def number? (width : Nat) (text : List Char) : Option (Nat × List Char) :=
  let start := Text.trimStart text
  let digits := (start.takeWhile Char.isDigit).take width
  if digits = [] then none else some (Text.valueOf digits, start.drop digits.length)

/-- A year: up to four digits, or a sign and any number of digits. -/
def year? (text : List Char) : Option (Int × List Char) :=
  let signedYear (sign : Int) (rest : List Char) : Option (Int × List Char) :=
    let digits := rest.takeWhile Char.isDigit
    if digits = [] then none else some (sign * Text.valueOf digits, rest.drop digits.length)
  match Text.trimStart text with
  | '-' :: rest => signedYear (-1) rest
  | '+' :: rest => signedYear 1 rest
  | start => (number? 4 start).map fun (value, rest) => ((value : Int), rest)

/-- One expected character after blanks. -/
def mark? (mark : Char) (text : List Char) : Option (List Char) :=
  match Text.trimStart text with
  | c :: rest => if c = mark then some rest else none
  | [] => none

def date? (text : List Char) : Option (Date × List Char) := do
  let (year, text) ← year? text
  let (month, text) ← number? 2 (← mark? '-' text)
  let (day, text) ← number? 2 (← mark? '-' text)
  return (← Date.of? year month day, text)

/-- The nanoseconds that the decimals of a second stand for; digits beyond the
ninth are dropped. -/
def nanoseconds (digits : List Char) : Nat :=
  let kept := digits.take 9
  Text.valueOf kept * Nat.pow 10 (9 - kept.length)

/-- The decimals after a second, if any, and the text after them. -/
def fraction? (text : List Char) : Option (Nat × List Char) :=
  match text with
  | '.' :: rest =>
    let digits := rest.takeWhile Char.isDigit
    if digits = [] then none else some (nanoseconds digits, rest.drop digits.length)
  | _ => some (0, text)

/-- A time of day as the second of the day and its nanoseconds. -/
def timeOfDay? (text : List Char) : Option ((Nat × Nat) × List Char) := do
  let (hour, text) ← number? 2 text
  let (minute, text) ← number? 2 (← mark? ':' text)
  let (second, text) ← number? 2 (← mark? ':' text)
  let (fraction, text) ← fraction? text
  if hour < 24 ∧ minute < 60 ∧ second ≤ 60 then
    let leap := second / 60
    return ((hour * 3600 + minute * 60 + (second - leap), leap * 1000000000 + fraction), text)
  else none

/-- Signed hours and minutes, in seconds, and the text after them. -/
def signedOffset? (sign : Int) (text : List Char) : Option (Int × List Char) :=
  match text with
  | h :: h' :: rest =>
    if h.isDigit && h'.isDigit then
      match rest.dropWhile fun c => c == ':' || Text.isBlank c with
      | m :: m' :: rest =>
        if '0' ≤ m ∧ m ≤ '5' ∧ m'.isDigit then
          some (sign * (Text.valueOf [h, h'] * 3600 + Text.valueOf [m, m'] * 60), rest)
        else none
      | _ => none
    else none
  | _ => none

/-- The offset from universal time, in seconds, and the text after it. -/
def offset? (text : List Char) : Option (Int × List Char) :=
  if (text.take 3).map Char.toUpper = ['U', 'T', 'C'] then some (0, text.drop 3)
  else
    match text with
    | 'Z' :: rest => some (0, rest)
    | 'z' :: rest => some (0, rest)
    | '+' :: rest => signedOffset? 1 rest
    | '-' :: rest => signedOffset? (-1) rest
    | '\u2212' :: rest => signedOffset? (-1) rest
    | _ => none

end Calendar

/-- A written date. -/
def Date.toText (date : Date) : String := String.ofList (Calendar.dateText date)

/-- The date that a string writes. -/
def Date.ofText? (text : String) : Option Date := do
  let (date, rest) ← Calendar.date? text.toList
  if Text.trimStart rest = [] then some date else none

/-- A written instant. -/
def Instant.toText (instant : Instant) : String :=
  String.ofList (Calendar.instantText instant ++ ['Z'])

/-- A written instant with its offset from universal time in numbers. -/
def Instant.toOffsetText (instant : Instant) : String :=
  String.ofList (Calendar.instantText instant ++ ['+', '0', '0', ':', '0', '0'])

/-- The instant that a string writes; offsets of a day or more are refused. -/
def Instant.ofText? (text : String) : Option Instant := do
  let (date, rest) ← Calendar.date? text.toList
  let rest ← match rest with
    | c :: rest => if c = 'T' ∨ c = 't' ∨ c = ' ' then some rest else none
    | [] => none
  let ((second, nanosecond), rest) ← Calendar.timeOfDay? rest
  let (offset, rest) ← Calendar.offset? (Text.trimStart rest)
  if Text.trimStart rest = [] ∧ offset.natAbs < 86400 then
    Instant.ofLocal? date second nanosecond offset
  else none

end GolfProgress
