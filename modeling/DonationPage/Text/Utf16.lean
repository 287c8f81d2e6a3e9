import DonationPage.Text.Utf8
/-! UTF-16: the reading of bytes as 16-bit units in either order, and of units that need not pair up. -/
namespace DonationPage

inductive ByteOrder where
  | littleEndian
  | bigEndian
deriving DecidableEq

def ByteOrder.unit (order : ByteOrder) (first second : UInt8) : Nat :=
  match order with
  | .littleEndian => second.toNat * 256 + first.toNat
  | .bigEndian => first.toNat * 256 + second.toNat

/-- The characters of units; `leading` is a first half that waits for its second. A half without the
other becomes one replacement character, and so does what is left over at the end. -/
def utf16Read (order : ByteOrder) (leading : Option Nat) : List UInt8 → List Char
  | first :: second :: bytes =>
    let unit := order.unit first second
    if 0xDC00 ≤ unit ∧ unit ≤ 0xDFFF then
      match leading with
      | some half =>
        Char.ofNat ((half - 0xD800) * 0x400 + (unit - 0xDC00) + 0x10000) ::
          utf16Read order none bytes
      | none => replacement :: utf16Read order none bytes
    else
      let lone := if leading.isSome then [replacement] else []
      if 0xD800 ≤ unit ∧ unit ≤ 0xDBFF then lone ++ utf16Read order (some unit) bytes
      else lone ++ Char.ofNat unit :: utf16Read order none bytes
  | bytes => if leading.isSome ∨ bytes ≠ [] then [replacement] else []

/-- Reads the bytes of a message body. The mark U+FEFF in front, in the form of an encoding, tells that
encoding and is no part of the text; without a mark it is UTF-8. -/
def decodeBody : List UInt8 → List Char
  | 0xEF :: 0xBB :: 0xBF :: bytes => utf8Decode bytes
  | 0xFF :: 0xFE :: bytes => utf16Read .littleEndian none bytes
  | 0xFE :: 0xFF :: bytes => utf16Read .bigEndian none bytes
  | bytes => utf8Decode bytes

end DonationPage
