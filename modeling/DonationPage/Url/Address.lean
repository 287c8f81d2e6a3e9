import DonationPage.Json.Error
import DonationPage.Text.Percent
import DonationPage.Text.Split
/-! The addresses of hosts: of 32 bits, as numbers with dots between them, and of 128 bits, as
hexadecimal groups with colons between them. -/
namespace DonationPage

def valueInBase? (base : Nat) (ds : List Char) : Option Nat :=
  ds.foldlM (fun n d => do
    let value ← hexDigitValue? d
    guard (value < base)
    return n * base + value) 0

/-- A number of an address: hexadecimal behind a zero and an x, octal behind any other zero, and else
decimal. -/
def readAddressNumber? : List Char → Option Nat
  | [] => none
  | '0' :: d :: ds => if d = 'x' ∨ d = 'X' then valueInBase? 16 ds else valueInBase? 8 (d :: ds)
  | ds => valueInBase? 10 ds

def dropRoot (labels : List (List Char)) : List (List Char) :=
  if labels.getLast? = some [] then labels.dropLast else labels

/-- Whether a name can only be an address, since its last label is a number. -/
def endsInNumber (labels : List (List Char)) : Bool :=
  (dropRoot labels).getLast?.any fun label =>
    (label ≠ [] && label.all Char.isDigit) || (readAddressNumber? label).isSome

/-- An address of 32 bits: up to four numbers, each but the last of eight bits, and the last of as many
as are left. -/
def readV4? (labels : List (List Char)) : Option Nat := do
  let numbers ← (dropRoot labels).mapM readAddressNumber?
  let last ← numbers.getLast?
  let firsts := numbers.dropLast
  guard (firsts.length ≤ 3 ∧ firsts.all (· < 256) ∧ last < Nat.pow 256 (4 - firsts.length))
  return firsts.foldl (fun n byte => n * 256 + byte) 0 * Nat.pow 256 (4 - firsts.length) + last

def readGroup? (cs : List Char) : Option Nat :=
  if cs ≠ [] ∧ cs.length ≤ 4 then valueInBase? 16 cs else none

def readByte? (cs : List Char) : Option Nat := do
  guard (cs ≠ [] ∧ cs.all Char.isDigit ∧ (cs.head? = some '0' → cs.length = 1))
  let n ← valueInBase? 10 cs
  guard (n < 256)
  return n

def readDotted? (cs : List Char) : Option (List Nat) := do
  match ← (splitAt '.' cs).mapM readByte? with
  | [a, b, c, d] => return [a * 256 + b, c * 256 + d]
  | _ => none

/-- Groups, the last two of which may be bytes. -/
def readGroups? : List (List Char) → Option (List Nat)
  | [] => some []
  | [part] => (readDotted? part).or ((readGroup? part).map fun group => [group])
  | part :: parts => do return (← readGroup? part) :: (← readGroups? parts)

def cutAtGap : List Char → List Char × Option (List Char)
  | [] => ([], none)
  | ':' :: ':' :: rest => ([], some rest)
  | c :: cs =>
    let (before, after?) := cutAtGap cs
    (c :: before, after?)

def colonParts (cs : List Char) : List (List Char) := if cs = [] then [] else splitAt ':' cs

/-- The eight groups of an address of 128 bits. Two colons in a row, once, stand for zeros. -/
def readV6? (cs : List Char) : Option (List Nat) := do
  match cutAtGap cs with
  | (all, none) =>
    let groups ← readGroups? (colonParts all)
    guard (groups.length = 8)
    return groups
  | (before, some after) =>
    let before ← (colonParts before).mapM readGroup?
    let after ← readGroups? (colonParts after)
    let length := before.length + after.length
    guard (length < 8)
    return before ++ List.replicate (8 - length) 0 ++ after

def v4Text (address : Nat) : String :=
  ".".intercalate ([3, 2, 1, 0].map fun i => Json.intText (address / Nat.pow 256 i % 256))

def v6Text (groups : List Nat) : String :=
  ":".intercalate (groups.map fun group => String.ofList (Nat.toDigits 16 group))

end DonationPage
