import DonationPage.Proofs.MonthlySeries.Months
import Mathlib.Algebra.BigOperators.Group.List.Basic
import Mathlib.Algebra.Ring.Int.Defs
/-! The sum of a series. It is taken month by month in 64 bits, so it is the exact sum as long as every
sum on the way fits. Where months above zero come first, a sum on the way may not fit although the
exact one does. -/
namespace DonationPage

def exactCents (totals : List (Date × MonthlyTotal)) : Int :=
  (totals.map fun t => t.2.cents.toInt).sum

def FitsCents (n : Int) : Prop := Int64.minValue.toInt ≤ n ∧ n ≤ Int64.maxValue.toInt

def gains (totals : List (Date × MonthlyTotal)) : Int :=
  exactCents (totals.filter fun t => 0 < t.2.cents.toInt)

def losses (totals : List (Date × MonthlyTotal)) : Int :=
  exactCents (totals.filter fun t => t.2.cents.toInt < 0)

section Exact

variable {totals others : List (Date × MonthlyTotal)}

@[simp] theorem exactCents_nil : exactCents [] = 0 := rfl

@[simp] theorem exactCents_cons (t : Date × MonthlyTotal) (totals : List (Date × MonthlyTotal)) :
    exactCents (t :: totals) = t.2.cents.toInt + exactCents totals := rfl

theorem exactCents_perm (reordered : others.Perm totals) :
    exactCents others = exactCents totals := (reordered.map _).sum_eq

theorem exactCents_between (part : others.Sublist totals) :
    losses totals ≤ exactCents others ∧ exactCents others ≤ gains totals := by
  unfold gains losses
  induction part with
  | slnil => simp
  | cons t part ih =>
    by_cases negative : t.2.cents.toInt < 0 <;> by_cases positive : 0 < t.2.cents.toInt <;>
      simp [negative, positive] <;> omega
  | cons_cons t part ih =>
    by_cases negative : t.2.cents.toInt < 0 <;> by_cases positive : 0 < t.2.cents.toInt <;>
      simp [negative, positive] <;> omega

theorem gains_perm (reordered : others.Perm totals) : gains others = gains totals :=
  exactCents_perm (reordered.filter _)

theorem losses_perm (reordered : others.Perm totals) : losses others = losses totals :=
  exactCents_perm (reordered.filter _)

theorem fitsCents_exact (fit : ∀ n, FitsCents (exactCents (totals.take n))) :
    FitsCents (exactCents totals) := by
  have whole := fit totals.length
  rwa [List.take_length] at whole

theorem fitsCents_toInt (cents : Int64) : FitsCents cents.toInt := by
  have low := cents.le_toInt
  have high := cents.toInt_lt
  rw [FitsCents, Int64.toInt_minValue, Int64.toInt_maxValue]
  omega

theorem FitsCents.toInt_ofInt {n : Int} (fits : FitsCents n) : (Int64.ofInt n).toInt = n := by
  rw [FitsCents, Int64.toInt_minValue, Int64.toInt_maxValue] at fits
  exact Int64.toInt_ofInt_of_le (by omega) (by omega)

end Exact

namespace MonthlySeries

theorem addCents_eq_ok {sum next : Int64} {t : Date × MonthlyTotal} : addCents sum t = .ok next ↔
    FitsCents (sum.toInt + t.2.cents.toInt) ∧ next.toInt = sum.toInt + t.2.cents.toInt := by
  unfold addCents
  dsimp only
  split
  · next fits =>
    have value := FitsCents.toInt_ofInt fits
    constructor
    · rintro ⟨⟩
      exact ⟨fits, value⟩
    · rintro ⟨-, same⟩
      rw [← same, Int64.ofInt_toInt]
  · next spills =>
    constructor
    · rintro ⟨⟩
    · rintro ⟨fits, -⟩
      exact absurd fits spills

theorem foldlM_addCents_eq_ok {totals : List (Date × MonthlyTotal)} {sum last : Int64} :
    totals.foldlM addCents sum = .ok last ↔
      (∀ n, FitsCents (sum.toInt + exactCents (totals.take n))) ∧
        last.toInt = sum.toInt + exactCents totals := by
  induction totals generalizing sum with
  | nil =>
    simp only [List.foldlM_nil, List.take_nil, exactCents_nil, Int.add_zero, fitsCents_toInt,
      implies_true, true_and, Int64.toInt_inj]
    exact ⟨fun same => (Except.ok.inj same).symm, fun same => congrArg _ same.symm⟩
  | cons t totals ih =>
    rw [List.foldlM_cons]
    refine bind_eq_ok.trans ⟨?_, ?_⟩
    · rintro ⟨next, added, rest⟩
      obtain ⟨fits, value⟩ := addCents_eq_ok.mp added
      obtain ⟨later, result⟩ := ih.mp rest
      rw [value] at later result
      refine ⟨fun n => ?_, by simpa [Int.add_assoc] using result⟩
      cases n with
      | zero => simpa using fitsCents_toInt sum
      | succ n => simpa [Int.add_assoc] using later n
    · rintro ⟨fit, result⟩
      have first : FitsCents (sum.toInt + t.2.cents.toInt) := by simpa using fit 1
      have value := first.toInt_ofInt
      refine ⟨_, addCents_eq_ok.mpr ⟨first, value⟩, ih.mpr ⟨fun n => ?_, ?_⟩⟩
      · rw [value]
        simpa [Int.add_assoc] using fit (n + 1)
      · rw [value, result, exactCents_cons, Int.add_assoc]

theorem total_eq_ok {s : MonthlySeries} {m : Money} : s.total = .ok m ↔
    (∀ n, FitsCents (exactCents (s.totals.take n))) ∧ m.cents.toInt = exactCents s.totals := by
  have start (n : Int) : (0 : Int64).toInt + n = n := Int.zero_add n
  rw [total, map_eq_ok]
  constructor
  · rintro ⟨last, sum, rfl⟩
    simpa only [start] using foldlM_addCents_eq_ok.mp sum
  · intro exact
    exact ⟨m.cents, foldlM_addCents_eq_ok.mpr (by simpa only [start] using exact), rfl⟩

theorem total_eq_error {s : MonthlySeries} :
    s.total = .error ⟨⟩ ↔ ∃ n, ¬FitsCents (exactCents (s.totals.take n)) := by
  rw [← not_forall]
  cases sum : s.total with
  | ok m => simpa using (total_eq_ok.mp sum).1
  | error spill =>
    refine iff_of_true rfl fun fit => ?_
    have exact := (fitsCents_exact fit).toInt_ofInt
    cases sum.symm.trans (total_eq_ok.mpr ⟨fit, exact⟩)

/-- In every order of the months the sums on the way fit, exactly if the months above zero and the
months below zero can each be added up alone. -/
theorem fits_every_order {totals : List (Date × MonthlyTotal)} :
    (∀ others : List (Date × MonthlyTotal), others.Perm totals →
        ∀ n, FitsCents (exactCents (others.take n))) ↔
      FitsCents (gains totals) ∧ FitsCents (losses totals) := by
  constructor
  · intro fit
    -- The months of one kind are put in front of the others.
    have front (kind : Date × MonthlyTotal → Bool) : FitsCents (exactCents (totals.filter kind)) := by
      have fits := fit _ (List.filter_append_perm kind totals) (totals.filter kind).length
      rwa [List.take_left] at fits
    exact ⟨front _, front _⟩
  · rintro ⟨⟨-, high⟩, ⟨low, -⟩⟩ others reordered n
    obtain ⟨above, below⟩ := exactCents_between (List.take_sublist n others)
    rw [losses_perm reordered] at above
    rw [gains_perm reordered] at below
    exact ⟨Int.le_trans low above, Int.le_trans below high⟩

theorem exists_reordered {totals others : List MonthlyTotal} {s : MonthlySeries}
    (made : ofTotals totals = .ok s) (reordered : others.Perm totals) :
    ∃ r, ofTotals others = .ok r ∧ r.totals.Perm s.totals := by
  obtain ⟨dates, each, order⟩ := List.perm_comp_forall₂ reordered (ofTotals_eq_ok.mp made)
  exact ⟨⟨dates⟩, ofTotals_eq_ok.mpr each, order⟩

/-- A series has a sum, its exact one, as long as the first months add up to what 64 bits hold, however
many they are. So it has this sum in every order of its months exactly when the months above zero and
those below zero each add up to what 64 bits hold. Months in another order make a series as well. -/
theorem total_iff (s : MonthlySeries) :
    (∀ m, s.total = .ok m ↔
      (∀ n, FitsCents (exactCents (s.totals.take n))) ∧ m.cents.toInt = exactCents s.totals) ∧
    (s.total = .error ⟨⟩ ↔ ∃ n, ¬FitsCents (exactCents (s.totals.take n))) ∧
    ((∃ m, m.cents.toInt = exactCents s.totals ∧
        ∀ r : MonthlySeries, r.totals.Perm s.totals → r.total = .ok m) ↔
      FitsCents (gains s.totals) ∧ FitsCents (losses s.totals)) ∧
    ∀ totals others, ofTotals totals = .ok s → others.Perm totals →
      ∃ r, ofTotals others = .ok r ∧ r.totals.Perm s.totals := by
  refine ⟨fun m => total_eq_ok, total_eq_error, ?_, fun totals others => exists_reordered⟩
  rw [← fits_every_order]
  constructor
  · rintro ⟨m, -, sums⟩ others reordered
    exact (total_eq_ok.mp (sums ⟨others⟩ reordered)).1
  · intro fit
    have exact := (fitsCents_exact (fit _ (.refl _))).toInt_ofInt
    refine ⟨⟨Int64.ofInt (exactCents s.totals)⟩, exact, fun r reordered => ?_⟩
    exact total_eq_ok.mpr ⟨fit _ reordered, exact.trans (exactCents_perm reordered).symm⟩

theorem spilled_total :
    ∃ s, ofTotals [⟨"2024-01", Int64.maxValue⟩, ⟨"2024-02", 1⟩, ⟨"2024-03", -1⟩] = .ok s ∧
      exactCents s.totals = Int64.maxValue.toInt ∧ s.total = .error ⟨⟩ ∧
      ∃ r, ofTotals [⟨"2024-01", Int64.maxValue⟩, ⟨"2024-03", -1⟩, ⟨"2024-02", 1⟩] = .ok r ∧
        r.totals.Perm s.totals ∧ r.total = .ok ⟨Int64.maxValue⟩ := by
  refine ⟨⟨[(⟨2024, 1, 1⟩, _), (⟨2024, 2, 1⟩, _), (⟨2024, 3, 1⟩, _)]⟩, rfl, rfl, rfl,
    ⟨[(⟨2024, 1, 1⟩, _), (⟨2024, 3, 1⟩, _), (⟨2024, 2, 1⟩, _)]⟩, rfl, ?_, rfl⟩
  exact .cons _ (.swap _ _ _)

end MonthlySeries

end DonationPage
