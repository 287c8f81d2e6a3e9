import DonationPage.Decimal.Digits
/-! The shortest decimal form of a binary floating-point number: the fewest digits that read back as
that number and, of those, the nearest to it. -/
namespace DonationPage

/-- The real numbers that round to one positive binary number: its own value and the midpoints to
its two neighbours, in units of two to the power `scale`. The midpoints belong to it when its
significand is even. -/
structure RoundingInterval where
  centre : Nat
  below : Nat
  above : Nat
  scale : Int
  closed : Bool

/-- The interval of `significand * 2 ^ exponent`. At a power of two the lower neighbour is half as
far away as the upper one. -/
def RoundingInterval.ofBinary (significand : Nat) (exponent : Int) (atPower : Bool) :
    RoundingInterval where
  centre := 4 * significand
  below := 4 * significand - (if atPower then 1 else 2)
  above := 4 * significand + 2
  scale := exponent - 2
  closed := significand % 2 = 0

def RoundingInterval.ofFloat (x : Float) : RoundingInterval :=
  let bits : Nat := x.toBits.toNat
  let fraction : Nat := bits % Nat.pow 2 52
  let biased : Nat := bits / Nat.pow 2 52 % 2048
  if biased = 0 then ofBinary fraction (-1074) false
  else ofBinary (Nat.pow 2 52 + fraction) ((biased : Int) - 1075) (fraction = 0 ∧ 1 < biased)

structure DecimalPoint where
  coefficient : Nat
  exponent : Int

/-- The multiple of `10 ^ exponent` in the interval that is nearest to its centre, an even one in a
tie. Only the two multiples around the centre can be that. -/
def RoundingInterval.nearest? (r : RoundingInterval) (exponent : Int) : Option DecimalPoint :=
  let binary := Nat.pow 2 r.scale.toNat * Nat.pow 10 (-exponent).toNat
  let decimal := Nat.pow 10 exponent.toNat * Nat.pow 2 (-r.scale).toNat
  let low := r.centre * binary / decimal
  let holds (d : Nat) : Bool :=
    if r.closed then r.below * binary ≤ d * decimal ∧ d * decimal ≤ r.above * binary
    else r.below * binary < d * decimal ∧ d * decimal < r.above * binary
  let down := r.centre * binary - low * decimal
  let up := (low + 1) * decimal - r.centre * binary
  if holds low ∧ (¬ holds (low + 1) ∨ down < up ∨ (down = up ∧ low % 2 = 0)) then
    some ⟨low, exponent⟩
  else if holds (low + 1) then some ⟨low + 1, exponent⟩
  else none

/-- The point of the coarsest decimal grid that has one in the interval, from a power of ten
downwards. -/
def RoundingInterval.coarsestFrom (r : RoundingInterval) (exponent : Int) : Nat → DecimalPoint
  | 0 => ⟨0, 0⟩
  | steps + 1 => (r.nearest? exponent).getD (r.coarsestFrom (exponent - 1) steps)

/-- The coarsest grid is the one of the fewest digits. Every finite number lies below the first
grid looked at and above the last. -/
def RoundingInterval.coarsest (r : RoundingInterval) : DecimalPoint :=
  r.coarsestFrom 309 700

/-- Digits with a point among them, or with zeros before or after them, when the point falls near
enough; else one digit before the point and a signed exponent. -/
def DecimalPoint.layout (p : DecimalPoint) : List Char :=
  let ds := digits p.coefficient
  let point : Int := ds.length + p.exponent
  if 0 ≤ p.exponent ∧ point ≤ 16 then
    ds ++ List.replicate p.exponent.toNat '0' ++ ['.', '0']
  else if 0 < point ∧ point ≤ 16 then
    ds.take point.toNat ++ '.' :: ds.drop point.toNat
  else if -5 < point ∧ point ≤ 0 then
    ['0', '.'] ++ List.replicate (-point).toNat '0' ++ ds
  else
    let sign := if 0 < point then '+' else '-'
    ds.take 1 ++ (if ds.length = 1 then [] else '.' :: ds.drop 1) ++
      ['e', sign] ++ digits (point - 1).natAbs

def floatText (x : Float) : List Char :=
  let sign := if x.toBits.toNat < Nat.pow 2 63 then [] else ['-']
  let magnitude :=
    if x.toBits.toNat % Nat.pow 2 63 = 0 then ['0', '.', '0']
    else (RoundingInterval.ofFloat x).coarsest.layout
  sign ++ magnitude

end DonationPage
