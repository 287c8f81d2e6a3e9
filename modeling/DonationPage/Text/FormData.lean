import DonationPage.Text.Percent
import DonationPage.Text.Split
/-! Form data as a message body: pairs of a name and a value, with ampersands between them. -/
namespace DonationPage

/-- The characters that stand for themselves in form data; a space becomes a plus sign. -/
def isFormSafe (c : Char) : Bool :=
  c.isAlphanum || c = '*' || c = '-' || c = '.' || c = '_'

def encodeFormPart (cs : List Char) : List Char :=
  (percentEncode (fun c => isFormSafe c || c = ' ') cs).map fun c => if c = ' ' then '+' else c

def encodeFormPair (pair : String × String) : List Char :=
  encodeFormPart pair.1.toList ++ '=' :: encodeFormPart pair.2.toList

def encodeForm (pairs : List (String × String)) : String :=
  String.ofList (['&'].intercalate (pairs.map encodeFormPair))

/-- Plus signs are spaces before any percent sign is looked at. -/
def decodeFormPart (cs : List Char) : String :=
  String.ofList (utf8Decode (percentDecode (cs.map fun c => if c = '+' then ' ' else c)))

def decodeFormPair (cs : List Char) : String × String :=
  let (name, value?) := cutAt '=' cs
  (decodeFormPart name, decodeFormPart (value?.getD []))

/-- The pairs that a body carries. Parts with nothing in them carry none. -/
def decodeForm (body : String) : List (String × String) :=
  ((splitAt '&' body.toList).filter (· ≠ [])).map decodeFormPair

end DonationPage
