import GolfProgress.Text.Digits

/-!
# Bytes as hexadecimal text

Two digits a byte, written small; either case is read.
-/

set_option autoImplicit false

namespace GolfProgress.Bytes

/-- The hexadecimal text of some bytes. -/
def toHex (bytes : List UInt8) : String :=
  String.ofList (bytes.flatMap fun byte => Text.hexPadded 2 byte.toNat)

def ofHexDigits? : List Char → Option (List UInt8)
  | [] => some []
  | [_] => none
  | high :: low :: rest => do
    let byte := 16 * (← Text.hexValue? high) + (← Text.hexValue? low)
    return UInt8.ofNat byte :: (← ofHexDigits? rest)

/-- The bytes of a hexadecimal text. -/
def ofHex? (text : String) : Option (List UInt8) := ofHexDigits? text.toList

end GolfProgress.Bytes
