import DonationPage.Json.Number
import DonationPage.Json.Text
/-! Values without parts: reading them, writing them, and the fault of meeting one that is not
expected. -/
namespace DonationPage.Json

def scalarReader? (first : Char) : Option (Reader Scalar) :=
  if first = 'n' then some (do readWord ['n', 'u', 'l', 'l']; return .null)
  else if first = 't' then some (do readWord ['t', 'r', 'u', 'e']; return .bool true)
  else if first = 'f' then some (do readWord ['f', 'a', 'l', 's', 'e']; return .bool false)
  else if first = '-' ∨ first.isDigit then some readNumber
  else if first = '"' then some fun cs => do
    let (s, rest) ← readText (cs.drop 1)
    return (.text s, rest)
  else none

/-- The fault of a value that is not of the expected kind. The faults inside a value without parts
go first; a value with parts is not looked into. -/
def mismatch (expected : Expected) : List Char → Fault
  | [] => .atEnd .endInValue
  | c :: rest =>
    match scalarReader? c with
    | some read =>
      match read (c :: rest) with
      | .ok (s, rest) => .before (.wrongType (.scalar s) expected) rest
      | .error fault => fault
    | none =>
      if c = '[' then .before (.wrongType .list expected) (c :: rest)
      else if c = '\x7b' then .before (.wrongType .object expected) (c :: rest)
      else .on .expectedValue (c :: rest)

def writeScalar : Scalar → List Char
  | .null => ['n', 'u', 'l', 'l']
  | .bool true => ['t', 'r', 'u', 'e']
  | .bool false => ['f', 'a', 'l', 's', 'e']
  | .int n => intDigits n
  | .float x => floatText x
  | .text s => writeText s

end DonationPage.Json
