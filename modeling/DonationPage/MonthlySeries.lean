import DonationPage.Money
import DonationPage.PageTags
/-! The series of monthly donations that a page draws as a chart. -/
namespace DonationPage

open Json

structure MonthlyTotal where
  month : String
  cents : Int64
deriving DecidableEq

instance : Payload MonthlyTotal where
  shape := .record "MonthlyTotal" <|
    .cons "month" .required .text <|
    .cons "amount" .required .int64 .nil
  toVal t := (t.month, t.cents, ())
  ofVal v := ⟨v.1, v.2.1⟩
  ofVal_toVal _ := rfl

structure ChartPoint where
  x : String
  y : Int64
deriving DecidableEq

instance : Payload ChartPoint where
  shape := .record "ChartPoint" <|
    .cons "x" .required .text <|
    .cons "y" .required .int64 .nil
  toVal p := (p.x, p.y, ())
  ofVal v := ⟨v.1, v.2.1⟩
  ofVal_toVal _ := rfl

/-- A sum that 64 bits do not hold, where sums are checked for that. Unchecked, it would wrap around. -/
structure SumOverflow where

def SumOverflow.message (_ : SumOverflow) : String := "attempt to add with overflow"

structure MonthlySeries where
  totals : List (Date × MonthlyTotal)
deriving DecidableEq

namespace MonthlySeries

def dated (t : MonthlyTotal) : Except Failure (Date × MonthlyTotal) :=
  match readMonth t.month with
  | .ok date => .ok (date, t)
  | .error fault => .error (.setup (.month t.month fault))

/-- The series of totals, in their order; the first month that is none is the failure. -/
def ofTotals (totals : List MonthlyTotal) : Except Failure MonthlySeries :=
  (totals.mapM dated).map fun totals => ⟨totals⟩

def load (source : TagSource) : Except Failure MonthlySeries := do
  let totals ← source.payload (List MonthlyTotal) "monthly"
  ofTotals totals

def size (s : MonthlySeries) : Nat := s.totals.length

def isEmpty (s : MonthlySeries) : Bool := s.totals.isEmpty

def points (s : MonthlySeries) : List ChartPoint := s.totals.map fun t => ⟨t.2.month, t.2.cents⟩

/-- The label of a month under the chart; there is nothing outside of it. -/
def axisLabel (s : MonthlySeries) (index : Nat) : String :=
  (s.totals[index]?.map fun t => t.1.monthLabel).getD ""

def tickLabel (cents : Int64) : String := (Money.mk cents).text

def tooltipLabel? (s : MonthlySeries) (index : Nat) : Option String :=
  s.totals[index]?.map fun t => t.1.monthLabel ++ ": " ++ (Money.mk t.2.cents).text

def addCents (sum : Int64) (t : Date × MonthlyTotal) : Except SumOverflow Int64 :=
  let n := sum.toInt + t.2.cents.toInt
  if Int64.minValue.toInt ≤ n ∧ n ≤ Int64.maxValue.toInt then .ok (Int64.ofInt n) else .error ⟨⟩

/-- The sum of the series, month by month, with each addition checked. -/
def total (s : MonthlySeries) : Except SumOverflow Money :=
  (s.totals.foldlM addCents 0).map Money.mk

end MonthlySeries

end DonationPage
