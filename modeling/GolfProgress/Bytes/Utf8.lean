/-!
# Bytes of texts

Texts are kept in files as UTF-8.
-/

set_option autoImplicit false

namespace GolfProgress.Bytes

def ofText (text : String) : List UInt8 := text.toUTF8.data.toList

/-- The text of some bytes, unless they are not UTF-8. -/
def toText? (bytes : List UInt8) : Option String := String.fromUTF8? ⟨bytes.toArray⟩

/-- The bytes of a text are the text again. -/
theorem toText?_ofText (text : String) : toText? (ofText text) = some text := by
  have same : (⟨text.toUTF8.data.toList.toArray⟩ : ByteArray) = text.toByteArray := rfl
  rw [toText?, ofText, same]
  simp [String.fromUTF8?, String.fromUTF8, text.isValidUTF8]

/-- How many bytes follow the first byte of a character. -/
def followers? (byte : UInt8) : Option Nat :=
  if byte < 0x80 then some 0
  else if byte < 0xC0 then none
  else if byte < 0xE0 then some 1
  else if byte < 0xF0 then some 2
  else if byte < 0xF8 then some 3
  else none

end GolfProgress.Bytes
