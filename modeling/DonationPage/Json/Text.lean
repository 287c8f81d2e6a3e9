import DonationPage.Json.Reader
/-! Texts in JSON: between quotation marks, with escapes. Writing escapes only what must be escaped;
reading takes every escape, and a character above U+FFFF also as two escapes of its halves. -/
namespace DonationPage.Json

def hexDigit? (c : Char) : Option Nat :=
  if c.isDigit then some (c.toNat - 48)
  else if 'a' ≤ c ∧ c ≤ 'f' then some (c.toNat - 87)
  else if 'A' ≤ c ∧ c ≤ 'F' then some (c.toNat - 55)
  else none

/-- The fault of digits that are none, which counts the four bytes in their place. -/
def hexFault (cs : List Char) : Fault :=
  if utf8Length cs < 4 then .atEnd .endInText else ⟨.invalidEscape, utf8Length cs - 4⟩

def readFourHex : Reader Nat := fun cs =>
  match cs with
  | a :: b :: c :: d :: rest =>
    match hexDigit? a, hexDigit? b, hexDigit? c, hexDigit? d with
    | some a, some b, some c, some d => .ok (((a * 16 + b) * 16 + c) * 16 + d, rest)
    | _, _, _, _ => .error (hexFault cs)
  | _ => .error (hexFault cs)

def isLeadingSurrogate (n : Nat) : Bool := 0xD800 ≤ n && n ≤ 0xDBFF

def isTrailingSurrogate (n : Nat) : Bool := 0xDC00 ≤ n && n ≤ 0xDFFF

def readPairPart (part : Char) : Reader Unit := fun cs =>
  match cs with
  | [] => .error (.atEnd .endInText)
  | c :: rest => if c = part then .ok ((), rest) else .error (.on .unfinishedSurrogatePair cs)

/-- Takes the trailing half that must follow a leading one, and gives the character of both. -/
def readTrailing (leading : Nat) : Reader Char := do
  readPairPart '\\'
  readPairPart 'u'
  let trailing ← readFourHex
  fun rest =>
    if isTrailingSurrogate trailing then
      .ok (Char.ofNat ((leading - 0xD800) * 0x400 + (trailing - 0xDC00) + 0x10000), rest)
    else .error (.before .loneSurrogate rest)

def readNumberEscape : Reader Char := do
  let n ← readFourHex
  if isLeadingSurrogate n then readTrailing n
  else fun rest =>
    if isTrailingSurrogate n then .error (.before .loneSurrogate rest)
    else .ok (Char.ofNat n, rest)

def escapedChar? (c : Char) : Option Char :=
  if c = '"' ∨ c = '\\' ∨ c = '/' then some c
  else if c = 'b' then some '\x08'
  else if c = 'f' then some '\x0c'
  else if c = 'n' then some '\n'
  else if c = 'r' then some '\r'
  else if c = 't' then some '\t'
  else none

def readEscape : Reader Char := fun cs =>
  match cs with
  | [] => .error (.atEnd .endInText)
  | c :: rest =>
    if c = 'u' then readNumberEscape rest
    else match escapedChar? c with
      | some e => .ok (e, rest)
      | none => .error (.on .invalidEscape cs)

def readCharsIn : Nat → Reader (List Char)
  | 0, _ => .error (.atEnd .endInText)
  | _ + 1, [] => .error (.atEnd .endInText)
  | steps + 1, c :: rest =>
    if c = '"' then .ok ([], rest)
    else if c = '\\' then do
      let (e, rest) ← readEscape rest
      let (es, rest) ← readCharsIn steps rest
      .ok (e :: es, rest)
    else if c.toNat < 0x20 then .error (.on .controlCharacter (c :: rest))
    else do
      let (es, rest) ← readCharsIn steps rest
      .ok (c :: es, rest)

def readText : Reader String := fun cs =>
  match readCharsIn cs.length cs with
  | .ok (es, rest) => .ok (String.ofList es, rest)
  | .error fault => .error fault

private def hexDigits : List Char :=
  ['0', '1', '2', '3', '4', '5', '6', '7', '8', '9', 'a', 'b', 'c', 'd', 'e', 'f']

def writeChar (c : Char) : List Char :=
  if c = '"' ∨ c = '\\' then ['\\', c]
  else if c = '\x08' then ['\\', 'b']
  else if c = '\x0c' then ['\\', 'f']
  else if c = '\n' then ['\\', 'n']
  else if c = '\r' then ['\\', 'r']
  else if c = '\t' then ['\\', 't']
  else if c.toNat < 0x20 then
    ['\\', 'u', '0', '0', if c.toNat < 0x10 then '0' else '1', hexDigits.getD (c.toNat % 16) '0']
  else [c]

def writeText (s : String) : List Char :=
  '"' :: s.toList.flatMap writeChar ++ ['"']

end DonationPage.Json
