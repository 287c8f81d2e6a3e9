import DonationPage.Text.Split
/-! Labels of names in letters, digits and hyphens that stand for labels with other characters. What
stands behind the last hyphen is a list of numbers; each says how far on the next character is, counted
over the places in the text so far and over the characters in their order. -/
namespace DonationPage.Punycode

/-- The value of a digit: letters first, of either case, then digits. -/
def digitValue? (c : Char) : Option Nat :=
  if c.isLower then some (c.toNat - 97)
  else if c.isUpper then some (c.toNat - 65)
  else if c.isDigit then some (c.toNat - 22)
  else none

def threshold (position bias : Nat) : Nat := min 26 (max 1 (position - bias))

/-- The bias that a distance calls for, by halving it again and again on the scale of digits. -/
def biasOf (position distance : Nat) : Nat :=
  if 455 < distance then biasOf (position + 36) (distance / 35)
  else position + 36 * distance / (distance + 38)
termination_by distance
decreasing_by omega

/-- The bias after a distance, the first of which counts less; `length` is that of the text. -/
def adapt (distance length : Nat) (first : Bool) : Nat :=
  let distance := if first then distance / 700 else distance / 2
  biasOf 0 (distance + distance / length)

/-- What is read so far: the text, the number of the last character, and the place after it. Of the
number that is being read it has the place that it leads to so far, the weight of the next digit, and the
position of that digit. -/
structure State where
  text : List Char
  code : Nat
  place : Nat
  bias : Nat
  reached : Nat
  weight : Nat
  position : Nat

def State.step (s : State) (digit : Nat) : Option State :=
  let reached := s.reached + digit * s.weight
  let limit := threshold s.position s.bias
  if digit < limit then
    let length := s.text.length + 1
    let code := s.code + reached / length
    if code.isValidChar then
      some {
        text := s.text.insertIdx (reached % length) (Char.ofNat code)
        code
        place := reached % length + 1
        bias := adapt (reached - s.place) length (s.place = 0)
        reached := reached % length + 1
        weight := 1
        position := 36 }
    else none
  else some { s with reached, weight := s.weight * (36 - limit), position := s.position + 36 }

/-- The text before the last hyphen, and what follows it; a hyphen at the start is none that parts. -/
def cutAtLast (cs : List Char) : List Char × List Char :=
  let after := (cs.reverse.takeWhile (· ≠ '-')).reverse
  let before := (cs.take (cs.length - after.length)).dropLast
  if before = [] then ([], cs) else (before, after)

def decode? (cs : List Char) : Option (List Char) := do
  let (plain, digits) := cutAtLast cs
  let s ← digits.foldlM (fun (s : State) c => do s.step (← digitValue? c))
    ⟨plain, 128, 0, 72, 0, 1, 36⟩
  guard (s.position = 36)
  return s.text

end DonationPage.Punycode
