import DonationPage.Json.Sequence
/-! Passing over a value that nobody wants: it must be well formed, but escapes by number need not
make characters, numbers may be of any size, and lists and objects nest without a limit. -/
namespace DonationPage.Json

def skipEscape : Reader Unit := fun cs =>
  match cs with
  | [] => .error (.atEnd .endInText)
  | c :: rest =>
    if c = 'u' then (readFourHex rest).map fun (_, rest) => ((), rest)
    else if (escapedChar? c).isSome then .ok ((), rest)
    else .error (.on .invalidEscape cs)

def skipCharsIn : Nat → Reader Unit
  | 0, _ => .error (.atEnd .endInText)
  | _ + 1, [] => .error (.atEnd .endInText)
  | steps + 1, c :: rest =>
    if c = '"' then .ok ((), rest)
    else if c = '\\' then do
      let ((), rest) ← skipEscape rest
      skipCharsIn steps rest
    else if c.toNat < 0x20 then .error (.before .controlCharacter (c :: rest))
    else skipCharsIn steps rest

def skipText : Reader Unit := fun cs => skipCharsIn cs.length cs

def skipDigits : Reader Unit := fun cs =>
  if cs.head?.any Char.isDigit then .ok ((), cs.dropWhile Char.isDigit)
  else .error (.on .invalidNumber cs)

def skipExponent : Reader Unit := fun cs =>
  match cs with
  | [] => .ok ((), [])
  | c :: rest =>
    if c = 'e' ∨ c = 'E' then
      skipDigits (if rest.head?.any (fun c => c = '+' ∨ c = '-') then rest.drop 1 else rest)
    else .ok ((), cs)

def skipUnsigned : Reader Unit := fun cs => do
  let ((), rest) ← skipDigits cs
  if cs.head? = some '0' ∧ cs.tail.head?.any Char.isDigit then
    .error (.on .invalidNumber cs.tail)
  else if rest.head? = some '.' then do
    let ((), rest) ← skipDigits (rest.drop 1)
    skipExponent rest
  else skipExponent rest

def scalarSkipper? (first : Char) : Option (Reader Unit) :=
  if first = 'n' then some (readWord ['n', 'u', 'l', 'l'])
  else if first = 't' then some (readWord ['t', 'r', 'u', 'e'])
  else if first = 'f' then some (readWord ['f', 'a', 'l', 's', 'e'])
  else if first = '-' then some fun cs => skipUnsigned (cs.drop 1)
  else if first.isDigit then some skipUnsigned
  else if first = '"' then some fun cs => skipText (cs.drop 1)
  else none

inductive Open where
  | list
  | object

def skipKey : Reader Unit := fun cs =>
  match skipSpaces cs with
  | [] => .error (.atEnd .endInObject)
  | c :: rest =>
    if c ≠ '"' then .error (.on .keyNotText (c :: rest))
    else do
      let ((), rest) ← skipText rest
      readColon rest

mutual

/-- Passes over a value and what remains of those around it, the innermost first. -/
def skipValueIn : Nat → List Open → Reader Unit
  | 0, _, _ => .error (.atEnd .endInValue)
  | steps + 1, around, cs =>
    match skipSpaces cs with
    | [] => .error (.atEnd .endInValue)
    | c :: rest =>
      match scalarSkipper? c with
      | some skip => do
        let ((), rest) ← skip (c :: rest)
        skipRestIn steps around rest
      | none =>
        if c = '[' then
          match skipSpaces rest with
          | [] => .error (.atEnd .endInList)
          | d :: rest =>
            if d = ']' then skipRestIn steps around rest
            else skipValueIn steps (.list :: around) (d :: rest)
        else if c = '\x7b' then
          match skipSpaces rest with
          | [] => .error (.atEnd .endInObject)
          | d :: rest =>
            if d = '\x7d' then skipRestIn steps around rest
            else do
              let ((), rest) ← skipKey (d :: rest)
              skipValueIn steps (.object :: around) rest
        else .error (.on .expectedValue (c :: rest))

def skipRestIn : Nat → List Open → Reader Unit
  | _, [], cs => .ok ((), cs)
  | 0, _ :: _, _ => .error (.atEnd .endInValue)
  | steps + 1, .list :: around, cs =>
    match skipSpaces cs with
    | [] => .error (.atEnd .endInList)
    | c :: rest =>
      if c = ',' then skipValueIn steps (.list :: around) rest
      else if c = ']' then skipRestIn steps around rest
      else .error (.on .expectedCommaOrBracket (c :: rest))
  | steps + 1, .object :: around, cs =>
    match skipSpaces cs with
    | [] => .error (.atEnd .endInObject)
    | c :: rest =>
      if c = ',' then do
        let ((), rest) ← skipKey rest
        skipValueIn steps (.object :: around) rest
      else if c = '\x7d' then skipRestIn steps around rest
      else .error (.on .expectedCommaOrBrace (c :: rest))

end

def skipValue : Reader Unit := fun cs => skipValueIn (2 * cs.length + 2) [] cs

end DonationPage.Json
