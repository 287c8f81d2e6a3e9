import DonationPage.Json.Reader
/-! Numbers in JSON. One without fraction and exponent that fits 64 bits is an integer; any other is
the binary number nearest to its first digits, scaled by a power of ten. -/
namespace DonationPage.Json

/-- The number that follows `n` when digits are written after it, while that stays below `2 ^ 64`,
and how many digits are then left. -/
def absorb (n : Nat) : List Char → Nat × Nat
  | [] => (n, 0)
  | c :: cs =>
    let next := n * 10 + digitsValue [c]
    if next < UInt64.size then absorb next cs else (n, (c :: cs).length)

def powerOfTen (n : Nat) : Float := Float.ofScientific 1 false n

/-- Divides by `10 ^ n`, by no more than the greatest power of ten at a time. -/
def divideByTens (x : Float) (n : Nat) : Float :=
  if n ≤ 308 then x / powerOfTen n
  else if x == 0 then x
  else divideByTens (x / powerOfTen 308) (n - 308)
termination_by n

def scaleByTen? (x : Float) : Int → Option Float
  | .ofNat n =>
    if n ≤ 308 then
      let y := x * powerOfTen n
      if y.isInf then none else some y
    else if x == 0 then some x
    else none
  | .negSucc n => some (divideByTens x (n + 1))

/-- What is read of a number before its exponent: the sign, the digits that were absorbed, and the
power of ten they are to be multiplied by. -/
structure Significand where
  negative : Bool
  value : Nat
  exponent : Int

def Significand.signed (s : Significand) (x : Float) : Float := if s.negative then -x else x

def Significand.toFloat (s : Significand) (exponent : Int) : Reader Scalar := fun rest =>
  match scaleByTen? (UInt64.ofNat s.value).toFloat (s.exponent + exponent) with
  | some x => .ok (.float (s.signed x), rest)
  | none => .error (.before .numberOutOfRange rest)

/-- The value of an exponent's digits, or the digits after the first that takes it to `2 ^ 31`. -/
def exponentValue (n : Nat) : List Char → Except (List Char) Nat
  | [] => .ok n
  | c :: cs =>
    let next := n * 10 + digitsValue [c]
    if next < Nat.pow 2 31 then exponentValue next cs else .error cs

/-- Takes an exponent's digits after its sign. One that is out of bounds makes the number zero, or
too great. -/
def readExponentDigits (s : Significand) (negative : Bool) : Reader Scalar := fun cs =>
  let ds := cs.takeWhile Char.isDigit
  let rest := cs.dropWhile Char.isDigit
  match cs with
  | [] => .error (.atEnd .endInValue)
  | c :: _ =>
    if ¬ c.isDigit then .error (.on .invalidNumber cs)
    else match exponentValue 0 ds with
      | .ok e => s.toFloat (if negative then -e else e) rest
      | .error left =>
        if s.value ≠ 0 ∧ ¬ negative then .error (.before .numberOutOfRange (left ++ rest))
        else .ok (.float (s.signed 0), rest)

def readExponent (s : Significand) : Reader Scalar := fun cs =>
  match cs with
  | '+' :: rest => readExponentDigits s false rest
  | '-' :: rest => readExponentDigits s true rest
  | _ => readExponentDigits s false cs

def readScale (s : Significand) : Reader Scalar := fun cs =>
  match cs with
  | 'e' :: rest => readExponent s rest
  | 'E' :: rest => readExponent s rest
  | _ => s.toFloat 0 cs

/-- Takes a fraction after its point. Digits beyond those absorbed do not count. -/
def readFraction (s : Significand) : Reader Scalar := fun cs =>
  let ds := cs.takeWhile Char.isDigit
  match cs with
  | [] => .error (.atEnd .endInValue)
  | c :: _ =>
    if ¬ c.isDigit then .error (.on .invalidNumber cs)
    else
      let (value, left) := absorb s.value ds
      readScale { s with value, exponent := s.exponent - (ds.length - left : Nat) }
        (cs.dropWhile Char.isDigit)

def integer (negative : Bool) (n : Nat) : Scalar :=
  if ¬ negative then .int n
  else if n = 0 ∨ Nat.pow 2 63 < n then .float (-(UInt64.ofNat n).toFloat)
  else .int (-n)

def readUnsigned (negative : Bool) : Reader Scalar := fun cs =>
  match cs with
  | [] => .error (.atEnd .endInValue)
  | c :: tail =>
    if ¬ c.isDigit then .error (.on .invalidNumber cs)
    else if c = '0' ∧ (tail.head?.any Char.isDigit) then .error (.on .invalidNumber tail)
    else
      let (value, left) := absorb 0 (cs.takeWhile Char.isDigit)
      let s : Significand := ⟨negative, value, left⟩
      match cs.dropWhile Char.isDigit with
      | '.' :: rest => readFraction s rest
      | rest =>
        if left = 0 ∧ ¬ rest.head?.any (fun c => c = 'e' ∨ c = 'E') then
          .ok (integer negative value, rest)
        else readScale s rest

def readNumber : Reader Scalar := fun cs =>
  match cs with
  | '-' :: rest => readUnsigned true rest
  | _ => readUnsigned false cs

end DonationPage.Json
