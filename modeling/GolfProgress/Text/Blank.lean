/-!
# White space

The white space of texts is the Unicode property `White_Space`, twenty-five
characters in all.  Trimming takes it off both ends and nothing else.
-/

set_option autoImplicit false

namespace GolfProgress.Text

/-- The characters with the Unicode property `White_Space`. -/
def isBlank (c : Char) : Bool :=
  let code := c.toNat
  (9 ≤ code && code ≤ 13) || code == 0x20 || code == 0x85 || code == 0xA0 ||
    code == 0x1680 || (0x2000 ≤ code && code ≤ 0x200A) || code == 0x2028 ||
    code == 0x2029 || code == 0x202F || code == 0x205F || code == 0x3000

/-- A text without its leading blanks. -/
def trimStart (text : List Char) : List Char := text.dropWhile isBlank

/-- A text without the blanks at both ends. -/
def trim (text : List Char) : List Char :=
  (((trimStart text).reverse).dropWhile isBlank).reverse

/-- A string without the blanks at both ends. -/
def trimString (text : String) : String := String.ofList (trim text.toList)

/-- A string with its ASCII capitals made small. -/
def lowerAscii (text : String) : String := String.ofList (text.toList.map Char.toLower)

/-- A string with its ASCII small letters made capitals. -/
def upperAscii (text : String) : String := String.ofList (text.toList.map Char.toUpper)

/-- A string with every comma made a decimal point. -/
def commaToPoint (text : List Char) : List Char :=
  text.map fun c => if c = ',' then '.' else c

end GolfProgress.Text
