/-! Classes of characters, as runs of consecutive numbers. -/
namespace DonationPage

/-- The first and the last number of each run, ascending and apart. -/
abbrev CharRuns := List (Nat × Nat)

def CharRuns.holds : CharRuns → Char → Bool
  | [], _ => false
  | (first, last) :: runs, c =>
    if c.toNat < first then false else c.toNat ≤ last || CharRuns.holds runs c

end DonationPage
