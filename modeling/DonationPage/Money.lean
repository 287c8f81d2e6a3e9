import DonationPage.Failure
import DonationPage.Text.Split
import DonationPage.Text.Utf8
/-! Amounts of money in whole cents: the amounts that texts stand for, and the texts of amounts. -/
namespace DonationPage

structure Money where
  cents : Int64
deriving DecidableEq

namespace Money

instance : Json.Payload Money where
  shape := .record "Money" (.cons "amount_cents" .required .int64 .nil)
  toVal m := (m.cents, ())
  ofVal v := ⟨v.1⟩
  ofVal_toVal _ := rfl

/-- The digits of a whole part, which may be grouped by commas: a first group of one to three bytes,
and three in each other group. -/
def ungroup? (cs : List Char) : Option (List Char) :=
  match splitAt ',' cs with
  | [] => none
  | first :: groups =>
    if groups ≠ [] ∧ ¬ (1 ≤ utf8Length first ∧ utf8Length first ≤ 3) then none
    else if groups.all fun group => utf8Length group = 3 then some (first ++ groups.flatten)
    else none

/-- The cents of a fraction of no more than two digits; one digit counts tenths. -/
def fractionCents (cs : List Char) : Nat :=
  if utf8Length cs = 1 then digitsValue cs * 10 else digitsValue cs

/-- A number, if 64 bits hold it beside a sign. -/
def checked? (n : Nat) : Option Nat :=
  if n < Nat.pow 2 63 then some n else none

def magnitude? (cs : List Char) : Option Nat := do
  let (grouped, fraction?) := cutAt '.' cs
  let fraction := fraction?.getD []
  let whole ← ungroup? grouped
  guard (whole ≠ [] ∧ utf8Length fraction ≤ 2)
  guard (whole.all Char.isDigit ∧ fraction.all Char.isDigit)
  let dollars ← checked? (digitsValue whole)
  let cents ← checked? (dollars * 100)
  checked? (cents + fractionCents fraction)

/-- The amount that a text stands for: blanks around it aside, a minus sign and a dollar sign, each
of which may be missing, a whole part and perhaps a fraction. -/
def ofText? (text : String) : Option Money := do
  let (negative, cs) := takeFlag '-' (trim text.toList)
  let cents ← magnitude? (takeFlag '$' cs).2
  return ⟨Int64.ofInt (if negative then -cents else cents)⟩

def ofText (text : String) : Except Failure Money :=
  match ofText? text with
  | some m => .ok m
  | none => .error (.invalidAmount text)

def layout (m : Money) (currency : List Char) (whole : List Char → List Char) : String :=
  let n := m.cents.toInt.natAbs
  let sign := if m.cents < 0 then ['-'] else []
  String.ofList (sign ++ currency ++ whole (digits (n / 100)) ++ '.' :: twoDigits (n % 100))

def decimalText (m : Money) : String := m.layout [] id

/-- Puts a comma before every third digit from the end, but for the first digit. -/
def groupThousands : List Char → List Char
  | [] => []
  | c :: cs =>
    if cs ≠ [] ∧ cs.length % 3 = 0 then c :: ',' :: groupThousands cs else c :: groupThousands cs

def text (m : Money) : String := m.layout ['$'] groupThousands

end Money

end DonationPage
