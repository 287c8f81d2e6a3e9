import DonationPage.Json.Scalar
/-! The punctuation of lists and objects: brackets, commas and keys, around readers of the items and
members. -/
namespace DonationPage.Json

/-- After an opening bracket: whether an item follows. A closing bracket is taken. -/
def startItems : Reader Bool := fun cs =>
  match skipSpaces cs with
  | [] => .error (.atEnd .endInList)
  | c :: rest => if c = ']' then .ok (false, rest) else .ok (true, c :: rest)

def nextItem : Reader Bool := fun cs =>
  match skipSpaces cs with
  | [] => .error (.atEnd .endInList)
  | c :: rest =>
    if c = ']' then .ok (false, rest)
    else if c ≠ ',' then .error (.on .expectedCommaOrBracket (c :: rest))
    else match skipSpaces rest with
      | [] => .error (.atEnd .endInValue)
      | d :: rest =>
        if d = ']' then .error (.on .trailingComma (d :: rest)) else .ok (true, d :: rest)

/-- Takes items up to the closing bracket, one in each step. -/
def readItemsIn {α : Type} (item : Reader α) : Nat → Bool → Reader (List α)
  | 0, _ => fun _ => .error (.atEnd .endInList)
  | steps + 1, first => do
    if ← (if first then startItems else nextItem) then
      let a ← item
      let as ← readItemsIn item steps false
      return a :: as
    else return []

def readItems {α : Type} (item : Reader α) : Reader (List α) := fun cs =>
  readItemsIn item (cs.length + 1) true cs

def readKey : Reader String := fun cs =>
  match cs with
  | '"' :: rest => readText rest
  | _ => .error (.on .keyNotText cs)

def startMembers : Reader (Option String) := fun cs =>
  match skipSpaces cs with
  | [] => .error (.atEnd .endInObject)
  | c :: rest =>
    if c = '\x7d' then .ok (none, rest)
    else (readKey (c :: rest)).map fun (key, rest) => (some key, rest)

def nextMember : Reader (Option String) := fun cs =>
  match skipSpaces cs with
  | [] => .error (.atEnd .endInObject)
  | c :: rest =>
    if c = '\x7d' then .ok (none, rest)
    else if c ≠ ',' then .error (.on .expectedCommaOrBrace (c :: rest))
    else match skipSpaces rest with
      | [] => .error (.atEnd .endInValue)
      | d :: rest =>
        if d = '\x7d' then .error (.on .trailingComma (d :: rest))
        else (readKey (d :: rest)).map fun (key, rest) => (some key, rest)

/-- Takes members up to the closing brace, one in each step; `member` takes what follows a key and
adds it to what was read before. -/
def readMembersIn {σ : Type} (member : String → σ → Reader σ) : Nat → Bool → σ → Reader σ
  | 0, _, _ => fun _ => .error (.atEnd .endInObject)
  | steps + 1, first, s => do
    match ← (if first then startMembers else nextMember) with
    | none => return s
    | some key =>
      let s ← member key s
      readMembersIn member steps false s

def readMembers {σ : Type} (member : String → σ → Reader σ) (s : σ) : Reader σ := fun cs =>
  readMembersIn member (cs.length + 1) true s cs

def separate (items : List (List Char)) : List Char := [','].intercalate items

def writeList (items : List (List Char)) : List Char := '[' :: separate items ++ [']']

def writeMember (key : String) (value : List Char) : List Char := writeText key ++ ':' :: value

def writeObject (members : List (List Char)) : List Char :=
  '\x7b' :: separate members ++ ['\x7d']

end DonationPage.Json
