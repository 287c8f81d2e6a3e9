import DonationPage.Decimal.Digits
import DonationPage.Text.Blank
import DonationPage.Text.Split
/-! Months of the calendar, as donation reports name them: a year, a hyphen and the month's number. A
month is read as the date of its first day. -/
namespace DonationPage

inductive DateFault where
  | endOfText
  | wrongCharacter
  | outOfRange
  | trailingText
deriving DecidableEq

def DateFault.message : DateFault → String
  | endOfText => "premature end of input"
  | wrongCharacter => "input contains invalid characters"
  | outOfRange => "input is out of range"
  | trailingText => "trailing input"

structure Date where
  year : Int
  month : Nat
  day : Nat
deriving DecidableEq

namespace Date

/-- Takes a run of digits, no more than the width if there is one, as a number below `2 ^ 63`. -/
def readNumber (width? : Option Nat) (cs : List Char) : Except DateFault (Nat × List Char) :=
  let run := cs.takeWhile Char.isDigit
  let taken := (width?.map run.take).getD run
  if cs = [] then .error .endOfText
  else if taken = [] then .error .wrongCharacter
  else if Nat.pow 2 63 ≤ digitsValue taken then .error .outOfRange
  else .ok (digitsValue taken, cs.drop taken.length)

/-- Takes a year after any blanks: four digits at most, or any number of them after a sign. -/
def readYear (cs : List Char) : Except DateFault (Int × List Char) := do
  let cs := cs.dropWhile isBlank
  let (year, cs) ←
    match cs with
    | '-' :: cs => do
      let (n, cs) ← readNumber none cs
      pure (-(n : Int), cs)
    | '+' :: cs => do
      let (n, cs) ← readNumber none cs
      pure ((n : Int), cs)
    | cs => do
      let (n, cs) ← readNumber (some 4) cs
      pure ((n : Int), cs)
  if Int32.minValue.toInt ≤ year ∧ year ≤ Int32.maxValue.toInt then .ok (year, cs)
  else .error .outOfRange

def readPart (greatest : Nat) (cs : List Char) : Except DateFault (Nat × List Char) := do
  let (n, cs) ← readNumber (some 2) (cs.dropWhile isBlank)
  if 1 ≤ n ∧ n ≤ greatest then .ok (n, cs) else .error .outOfRange

def readHyphen : List Char → Except DateFault (List Char)
  | [] => .error .endOfText
  | c :: cs => if c = '-' then .ok cs else .error .wrongCharacter

def inCalendar (year : Int) : Bool := -262143 ≤ year && year ≤ 262142

def daysIn (year : Int) (month : Nat) : Nat :=
  if month = 2 then (if year % 4 = 0 ∧ (year % 100 ≠ 0 ∨ year % 400 = 0) then 29 else 28)
  else if month = 4 ∨ month = 6 ∨ month = 9 ∨ month = 11 then 30
  else 31

/-- Reads a date. Numbers are checked as they are met, the date as a whole at the end. -/
def read (cs : List Char) : Except DateFault Date := do
  let (year, cs) ← readYear cs
  let cs ← readHyphen cs
  let (month, cs) ← readPart 12 cs
  let cs ← readHyphen cs
  let (day, cs) ← readPart 31 cs
  if cs ≠ [] then .error .trailingText
  else if inCalendar year ∧ day ≤ daysIn year month then .ok ⟨year, month, day⟩
  else .error .outOfRange

end Date

def readMonth (text : String) : Except DateFault Date :=
  Date.read (text.toList ++ ['-', '0', '1'])

def Date.monthLabel (d : Date) : String :=
  String.ofList (twoDigits d.month ++ '-' :: intDigits d.year)

end DonationPage
