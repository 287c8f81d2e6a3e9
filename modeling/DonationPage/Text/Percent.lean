import DonationPage.Text.Utf8
/-! Percent-encoding: a byte that may not stand for itself is written as a percent sign and two
upper-case hexadecimal digits. -/
namespace DonationPage

def upperHexDigit (n : Nat) : Char :=
  if n < 10 then Char.ofNat (48 + n) else Char.ofNat (55 + n)

def hexDigitValue? (c : Char) : Option Nat :=
  if '0' ≤ c ∧ c ≤ '9' then some (c.toNat - 48)
  else if 'A' ≤ c ∧ c ≤ 'F' then some (c.toNat - 55)
  else if 'a' ≤ c ∧ c ≤ 'f' then some (c.toNat - 87)
  else none

def percentByte (b : UInt8) : List Char :=
  ['%', upperHexDigit (b.toNat / 16), upperHexDigit (b.toNat % 16)]

/-- The text with each character that may not stand for itself written byte by byte. -/
def percentEncode (keeps : Char → Bool) (cs : List Char) : List Char :=
  cs.flatMap fun c => if keeps c then [c] else (utf8Bytes c).flatMap percentByte

/-- The bytes of a percent-encoded text. A percent sign before anything but two digits stands for
itself. -/
def percentDecode : List Char → List UInt8
  | [] => []
  | '%' :: a :: b :: cs =>
    match hexDigitValue? a, hexDigitValue? b with
    | some high, some low => UInt8.ofNat (high * 16 + low) :: percentDecode cs
    | _, _ => utf8Bytes '%' ++ percentDecode (a :: b :: cs)
  | c :: cs => utf8Bytes c ++ percentDecode cs

def isUnreserved (c : Char) : Bool :=
  c.isAlphanum || c = '-' || c = '_' || c = '.' || c = '~'

def encodeQueryValue (text : String) : String :=
  String.ofList (percentEncode isUnreserved text.toList)

end DonationPage
