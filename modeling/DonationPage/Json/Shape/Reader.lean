import DonationPage.Json.Shape
import DonationPage.Json.Skip
/-! Reading a payload of a given shape. A record may be an object, in any order and with members
that nobody wants, or a list of its fields in order. -/
namespace DonationPage.Json

def readNull : Reader Unit := fun cs =>
  match skipSpaces cs with
  | 'n' :: rest => readWord ['u', 'l', 'l'] rest
  | rest => .error (mismatch .null rest)

def readTextValue : Reader String := fun cs =>
  match skipSpaces cs with
  | '"' :: rest => readText rest
  | rest => .error (mismatch .text rest)

def readInteger {α : Type} (expected : Expected) (ofInt? : Int → Option α) : Reader α := fun cs =>
  let cs := skipSpaces cs
  if cs.head?.any fun c => c = '-' ∨ c.isDigit then do
    let (s, rest) ← readNumber cs
    match s with
    | .int n =>
      match ofInt? n with
      | some a => .ok (a, rest)
      | none => .error (.before (.wrongInteger n expected) rest)
    | s => .error (.before (.wrongType (.scalar s) expected) rest)
  else .error (mismatch expected cs)

def int64? (n : Int) : Option Int64 :=
  if Int64.minValue.toInt ≤ n ∧ n ≤ Int64.maxValue.toInt then some (Int64.ofInt n) else none

def uint64? (n : Int) : Option UInt64 :=
  if 0 ≤ n ∧ n < UInt64.size then some (UInt64.ofInt n) else none

def readVariant (names : List String) : Reader (Fin names.length) := fun cs => do
  let (name, rest) ← readText cs
  match names.finIdxOf? name with
  | some i => .ok (i, rest)
  | none => .error (.before (.unknownVariant name names) rest)

def readChoiceMember (names : List String) : Reader (Fin names.length) := fun cs =>
  match skipSpaces cs with
  | [] => .error (.atEnd .endInObject)
  | c :: rest =>
    if c = '\x7d' then .error (.on .expectedValue (c :: rest))
    else if c = '"' then do
      let (i, rest) ← readVariant names rest
      let ((), rest) ← readColon rest
      let ((), rest) ← readNull rest
      match skipSpaces rest with
      | [] => .error (.atEnd .endInObject)
      | d :: rest =>
        if d = '\x7d' then .ok (i, rest) else .error (.before .expectedValue (d :: rest))
    else .error (.on .keyNotText (c :: rest))

/-- Takes a variant: its name, or an object whose one member has that name and the value null. -/
def readChoice (names : List String) : Reader (Fin names.length) := fun cs =>
  match skipSpaces cs with
  | [] => .error (.atEnd .endInValue)
  | c :: rest =>
    if c = '"' then readVariant names rest
    else if c = '\x7b' then readChoiceMember names rest
    else .error (.on .expectedValue (c :: rest))

def readOptional {α : Type} (content : Reader α) : Reader (Option α) := fun cs =>
  match skipSpaces cs with
  | 'n' :: rest => (readWord ['u', 'l', 'l'] rest).map fun (_, rest) => (none, rest)
  | rest => (content rest).map fun (a, rest) => (some a, rest)

def readListValue {α : Type} (item : Reader α) : Reader (List α) := fun cs =>
  match skipSpaces cs with
  | '[' :: rest => readItems item rest
  | rest => .error (mismatch .list rest)

/-- Takes an object as a table; of two members with one key the later counts. -/
def readTable {α : Type} (item : Reader α) : Reader (Table α) := fun cs =>
  match skipSpaces cs with
  | '\x7b' :: rest =>
    readMembers
      (fun key t => do
        readColon
        let a ← item
        return t.insert key a) .empty rest
  | rest => .error (mismatch .object rest)

/-- The fault of a field met twice. It is noticed at the key, after which spaces, and the end of the
object, are still taken. -/
def duplicateFault {α : Type} (name : String) : Reader α := fun cs =>
  match skipSpaces cs with
  | '\x7d' :: rest => .error (.before (.duplicateField name) rest)
  | rest => .error (.before (.duplicateField name) rest)

def readFieldsEnd : Reader Unit := fun cs =>
  match skipSpaces cs with
  | [] => .error (.atEnd .endInList)
  | ']' :: rest => .ok ((), rest)
  | ',' :: rest =>
    match skipSpaces rest with
    | ']' :: rest => .error (.on .trailingComma (']' :: rest))
    | rest => .error (.on .trailingCharacters rest)
  | rest => .error (.on .trailingCharacters rest)

/-- Takes a record by a reader of its members, or one of its fields in order. -/
def readRecord {α σ : Type} (name : String) (member : String → σ → Reader σ) (start : σ)
    (fill : σ → Except String α) (inOrder : Reader α) : Reader α := fun cs =>
  match skipSpaces cs with
  | '\x7b' :: rest => do
    let (slots, rest) ← readMembers member start rest
    match fill slots with
    | .ok v => .ok (v, rest)
    | .error missing => .error (.before (.missingField missing) rest)
  | '[' :: rest => inOrder rest
  | rest => .error (mismatch (.record name) rest)

mutual

def Shape.read : (shape : Shape) → Reader shape.Val
  | .text => readTextValue
  | .int64 => readInteger .int64 int64?
  | .uint64 => readInteger .uint64 uint64?
  | .list item => readListValue item.read
  | .optional content => readOptional content.read
  | .table item => readTable item.read
  | .choice names => readChoice names
  | .record name fields =>
    readRecord name fields.readMember fields.noSlots fields.fill
      (fields.readInOrder name fields.size 0)

/-- Takes what follows a key: the value of the field of that name, or one to pass over. -/
def Fields.readMember : (fields : Fields) → String → fields.Slots → Reader fields.Slots
  | .nil, _, slots => do
    readColon
    skipValue
    return slots
  | .cons name _ shape rest, key, (slot, slots) =>
    if key = name then
      if slot.isSome then duplicateFault name
      else do
        readColon
        let v ← shape.read
        return (some v, slots)
    else do
      let slots ← rest.readMember key slots
      return (slot, slots)

def Fields.readInOrder (record : String) (size : Nat) : Nat → (fields : Fields) → Reader fields.Val
  | _, .nil => readFieldsEnd
  | before, .cons name presence shape rest => do
    if ← (if before = 0 then startItems else nextItem) then
      let v ← shape.read
      let vs ← rest.readInOrder record size (before + 1)
      return (v, vs)
    else fun cs =>
      match (Fields.cons name presence shape rest).cutOff before with
      | .ok vs => .ok (vs, cs)
      | .error length => .error (.before (.wrongLength length record size) cs)

end

end DonationPage.Json
