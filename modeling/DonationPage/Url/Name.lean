import DonationPage.Text.Direction
import DonationPage.Text.Joining
import DonationPage.Url.Fault
import DonationPage.Url.Punycode
import DonationPage.Url.Spelling
/-! The names of hosts: which texts are names, and how they are read. Accents count as they are written,
whether or not they are composed with their letters. -/
namespace DonationPage

/-- The characters among the first 128 that no name may hold: controls, the blank, and what parts a
URL. -/
def isForbidden (c : Char) : Bool :=
  c.toNat ≤ 0x20 || c.toNat = 0x7F || "#%/:<>?@[\\]^|".toList.contains c

private def isPlain (c : Char) : Bool := c.toNat < 0x80

def spell? (cs : List Char) : Option (List Char) := do
  let spelled := (← cs.mapM spellChar?).flatten
  guard (spelled.all fun c => ¬ isForbidden c)
  return spelled

/-- The longest label with characters beyond the first 128. -/
def longestLabel : Nat := 1000

def longestCodedLabel : Nat := 2000

def readLabel? (label : List Char) : Option (List Char) :=
  match dropStart? "xn--".toList label with
  | none => if label.all isPlain ∨ label.length ≤ longestLabel then some label else none
  | some coded => do
    guard (coded.all isPlain ∧ coded.getLast?.any (· ≠ '-') ∧ coded.length ≤ longestCodedLabel)
    let text ← Punycode.decode? coded
    guard (text.all fun c => isPlain c || isSpelledOut c)
    return text

/-- Whether a label is well formed by itself: it starts with no mark, and what is seen only in how
letters join stands where they may join. -/
def isWellFormed (label : List Char) : Bool :=
  !label.head?.any startsAsMark && joinsWell [] label

def Direction.goesLeft : Direction → Bool
  | left | europeanNumber | neutral | mark => true
  | right | arabicNumber => false

def Direction.goesRight : Direction → Bool
  | right | arabicNumber | europeanNumber | neutral | mark => true
  | left => false

/-- Whether all of a label goes one way: it starts with a letter and ends, but for marks, with a letter of
the same direction or a digit; from right to left, its digits are of one kind. -/
def goesOneWay (label : List Char) : Bool :=
  let directions := label.map Direction.ofChar
  match directions with
  | [] => true
  | first :: rest =>
    let rest := (rest.reverse.dropWhile (· = .mark)).reverse
    match first with
    | .left =>
      rest.all Direction.goesLeft && rest.getLast?.all fun d => d = .left || d = .europeanNumber
    | .right =>
      rest.all Direction.goesRight &&
        (rest.getLast?.all fun d => d = .right || d = .europeanNumber || d = .arabicNumber) &&
        !(rest.contains .europeanNumber && rest.contains .arabicNumber)
    | _ => false

def hasRight (label : List Char) : Bool :=
  label.any fun c => Direction.ofChar c = .right || Direction.ofChar c = .arabicNumber

def readName? (cs : List Char) : Option (List (List Char)) := do
  let labels := splitAt '.' (← spell? cs)
  let meant ← labels.mapM readLabel?
  guard (meant.all isWellFormed ∧ (meant.any hasRight → meant.all goesOneWay))
  return labels

end DonationPage
