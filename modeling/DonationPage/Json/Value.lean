import DonationPage.Json.Sequence
import DonationPage.Json.Table
/-! JSON values: reading one of at most 127 nested lists and objects, and writing one without spaces. -/
namespace DonationPage.Json

/-- The members of an object ascend by key. -/
inductive Value where
  | scalar (s : Scalar)
  | list (items : List Value)
  | object (members : List (String × Value))

namespace Value

def readMember (inner : Reader Value) (key : String) (members : List (String × Value)) :
    Reader (List (String × Value)) := do
  readColon
  let value ← inner
  return insertMember key value members

/-- Takes a value, the values inside it by the given reader; none means that it may hold none. -/
def readAround (inner? : Option (Reader Value)) : Reader Value := fun cs =>
  match skipSpaces cs with
  | [] => .error (.atEnd .endInValue)
  | c :: rest =>
    match scalarReader? c, inner? with
    | some read, _ => (read (c :: rest)).map fun (s, rest) => (.scalar s, rest)
    | none, some inner =>
      if c = '[' then
        (readItems inner rest).map fun (items, rest) => (.list items, rest)
      else if c = '\x7b' then
        (readMembers (readMember inner) [] rest).map fun (members, rest) => (.object members, rest)
      else .error (.on .expectedValue (c :: rest))
    | none, none =>
      if c = '[' ∨ c = '\x7b' then .error (.on .tooDeep (c :: rest))
      else .error (.on .expectedValue (c :: rest))

def readWithin : Nat → Reader Value
  | 0 => readAround none
  | levels + 1 => readAround (some (readWithin levels))

def maxDepth : Nat := 127

def read : Reader Value := readWithin maxDepth

mutual

def write : Value → List Char
  | scalar s => writeScalar s
  | list items => writeList (writeItems items)
  | object members => writeObject (writeMembers members)

def writeItems : List Value → List (List Char)
  | [] => []
  | v :: vs => v.write :: writeItems vs

def writeMembers : List (String × Value) → List (List Char)
  | [] => []
  | (key, v) :: ms => writeMember key v.write :: writeMembers ms

end

end Value

end DonationPage.Json
