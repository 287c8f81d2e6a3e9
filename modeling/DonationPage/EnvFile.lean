import DonationPage.Environment
import DonationPage.Text.Alphanumeric
import DonationPage.Text.Blank
/-! Files of variables, a line for each: a name, an equals sign and a value. A value may be quoted,
may go on over lines inside quotation marks, and may name other variables. Reading stops at the first
line that is none of that; the variables before it count. -/
namespace DonationPage.EnvFile

/-- Where a line ends, as far as quotation marks say: inside a pair of them it goes on. -/
inductive LineState where
  | plain
  | escape
  | blank
  | weak
  | weakEscape
  | strong
  | strongEscape
  | comment
deriving DecidableEq

/-- What a character makes of the state of a line. A comment starts after a blank only. -/
def LineState.step (s : LineState) (c : Char) : LineState :=
  let opening : LineState :=
    if c = '\\' then .escape else if c = '"' then .weak else if c = '\'' then .strong else .plain
  match s with
  | .plain => if isBlank c ∧ c ≠ '\n' ∧ c ≠ '\r' then .blank else opening
  | .blank => if c = '#' then .comment else opening
  | .escape => .plain
  | .weak => if c = '\\' then .weakEscape else if c = '"' then .plain else .weak
  | .weakEscape => .weak
  | .strong => if c = '\\' then .strongEscape else if c = '\'' then .plain else .strong
  | .strongEscape => .strong
  | .comment => .comment

def physicalLines : List Char → List (List Char)
  | [] => []
  | c :: cs =>
    if c = '\n' then [c] :: physicalLines cs
    else
      match physicalLines cs with
      | [] => [[c]]
      | line :: lines => (c :: line) :: lines

def scanLine (s : LineState) : List Char → LineState × List Char
  | [] => (s, [])
  | c :: cs =>
    let next := s.step c
    if next = .comment then (next, [])
    else
      let (last, kept) := scanLine next cs
      (last, c :: kept)

def dropLineEnd (line : List Char) : List Char :=
  match line.reverse with
  | '\n' :: '\r' :: rest => rest.reverse
  | '\n' :: rest => rest.reverse
  | _ => line

/-- Joins the physical lines that quotation marks keep together; none is a line without an end. -/
def logicalLines (s : LineState) (pending : List Char) : List (List Char) → List (Option (List Char))
  | [] => if s = .plain then [] else [none]
  | line :: lines =>
    if (pending ++ line).dropWhile isBlank |>.head? |>.any (· = '#') then
      some [] :: logicalLines .plain [] lines
    else
      match scanLine s line with
      | (.plain, _) => some (dropLineEnd (pending ++ line)) :: logicalLines .plain [] lines
      | (.comment, kept) => some (pending ++ kept) :: logicalLines .plain [] lines
      | (s, _) => logicalLines s (pending ++ line) lines

/-- What a value's reader is inside of: nothing, quotation marks, or the name of a variable, which a
brace may open. What it has read of the name and of the value has its last character first. -/
structure ValueState where
  strong : Bool
  weak : Bool
  escaped : Bool
  ending : Bool
  name? : Option (Bool × List Char)
  output : List Char

def ValueState.substitute (lookup : Lookup) (s : ValueState) (name : List Char) : ValueState :=
  { s with
    output := ((lookup (String.ofList name.reverse)).getD "").toList.reverse ++ s.output
    name? := none }

def ValueState.push (s : ValueState) (c : Char) : ValueState := { s with output := c :: s.output }

def ValueState.step (lookup : Lookup) (s : ValueState) (c : Char) : Option ValueState :=
  if s.ending then (if c = ' ' ∨ c = '\t' then some s else none)
  else if s.escaped then
    if ['\\', '\'', '"', '$', ' '].contains c then some { s.push c with escaped := false }
    else if c = 'n' then some { s.push '\n' with escaped := false }
    else none
  else if s.strong then some (if c = '\'' then { s with strong := false } else s.push c)
  else
    match s.name? with
    | some (braced, name) =>
      if isAlphanumeric c then some { s with name? := some (braced, c :: name) }
      else if braced then
        if c = '\x7d' then some (s.substitute lookup name)
        else some { s with name? := some (true, c :: name) }
      else if c = '\x7b' ∧ name = [] then some { s with name? := some (true, []) }
      else if c = '$' then some { s.substitute lookup name with name? := some (false, []) }
      else some ((s.substitute lookup name).push c)
    | none =>
      if c = '$' then some { s with name? := some (false, []) }
      else if s.weak then
        if c = '"' then some { s with weak := false }
        else if c = '\\' then some { s with escaped := true }
        else some (s.push c)
      else if c = '\'' then some { s with strong := true }
      else if c = '"' then some { s with weak := true }
      else if c = '\\' then some { s with escaped := true }
      else if c = ' ' ∨ c = '\t' then some { s with ending := true }
      else some (s.push c)

def ValueState.text (s : ValueState) : String := String.ofList s.output.reverse

def readValueFrom (lookup : Lookup) (s : ValueState) : List Char → Option String
  | [] =>
    match s.strong || s.weak, s.name? with
    | true, _ => none
    | false, some (true, _) => none
    | false, some (false, name) => some (s.substitute lookup name).text
    | false, none => some s.text
  | c :: cs =>
    if s.ending ∧ c = '#' then some s.text
    else (s.step lookup c).bind fun s => readValueFrom lookup s cs

def readValue (lookup : Lookup) (cs : List Char) : Option String :=
  readValueFrom lookup ⟨false, false, false, false, none, []⟩ cs

def readName (cs : List Char) : Option (String × List Char) :=
  let isStart (c : Char) : Bool := c.isAlpha || c = '_'
  let isPart (c : Char) : Bool := c.isAlphanum || c = '_' || c = '.'
  if cs.head?.any isStart then some (String.ofList (cs.takeWhile isPart), cs.dropWhile isPart) else none

/-- Takes a name and the equals sign after it; the word export may precede a name. -/
def readAssignment (cs : List Char) : Option (String × List Char) := do
  let (name, cs) ← readName cs
  let rest := cs.dropWhile isBlank
  match rest with
  | '=' :: rest => return (name, rest)
  | _ =>
    guard (name = "export")
    let (name, rest) ← readName rest
    match rest.dropWhile isBlank with
    | '=' :: rest => return (name, rest)
    | _ => none

/-- A line's variable, if it is not blank or a comment; the outer none is a line that is neither. -/
def readLine (lookup : Lookup) (line : List Char) : Option (Option (String × String)) :=
  let line := trim line
  if line.head?.all (· = '#') then some none
  else do
    let (name, rest) ← readAssignment line
    let value := rest.dropWhile isBlank
    if value.head?.all (· = '#') then return some (name, "")
    let text ← readValue lookup value
    return some (name, text)

/-- The variables of lines, behind those found so far. A variable that is set outside of the file is
not set again, nor is one that the file has set. -/
def readLines (outside : Lookup) (found : List (String × String)) :
    List (Option (List Char)) → Except VariableFault (List (String × String))
  | some line :: lines =>
    let known := outside.orElse (.ofList found)
    match readLine known.entry line with
    | some (some (name, value)) =>
      if (known name).isSome then readLines outside found lines
      else do
        checkVariable name value
        readLines outside (found ++ [(name, value)]) lines
    | some none => readLines outside found lines
    | none => .ok found
  | _ => .ok found

def read (outside : Lookup) (text : String) : Except VariableFault Lookup := do
  let cs := if text.toList.head? = some '\uFEFF' then text.toList.drop 1 else text.toList
  let found ← readLines outside [] (logicalLines .plain [] (physicalLines cs))
  return outside.orElse (.ofList found)

end DonationPage.EnvFile
