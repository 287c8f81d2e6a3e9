import DonationPage.MonthlySeries
import DonationPage.Proofs.Month.Spelling
/-! The months of a series. Totals make a series when each of them names a month of the calendar. Each
is kept with the first day of its month, and no two months have the same label. -/
namespace DonationPage

theorem Date.monthLabel_inj {d d' : Date} (month : d.month < 100) (month' : d'.month < 100) :
    d.monthLabel = d'.monthLabel ↔ d.month = d'.month ∧ d.year = d'.year := by
  obtain ⟨two, value⟩ := twoDigits_spec month
  obtain ⟨two', value'⟩ := twoDigits_spec month'
  unfold monthLabel
  rw [String.ofList_inj]
  constructor
  · intro same
    obtain ⟨months, years⟩ := List.append_inj same (two.trans two'.symm)
    refine ⟨?_, intDigits_inj.mp (List.cons.inj years).2⟩
    rw [← value, months, value']
  · rintro ⟨months, years⟩
    rw [months, years]

theorem SpellsMonth.month_lt {text : String} {year : Int} {month : Nat}
    (spells : SpellsMonth text year month) : month < 100 := by
  obtain ⟨_, _, _, _, -, -, -, -, part, -⟩ := spells
  exact Nat.lt_of_le_of_lt part.bounded (by decide)

namespace MonthlySeries

theorem dated_eq_ok {t : MonthlyTotal} {p : Date × MonthlyTotal} : dated t = .ok p ↔
    SpellsMonth t.month p.1.year p.1.month ∧ p.1.day = 1 ∧ p.2 = t := by
  rw [← and_assoc, ← readMonth_eq_ok, dated]
  obtain ⟨date, total⟩ := p
  cases read : readMonth t.month with
  | error fault => simp
  | ok other => simp [eq_comm]

theorem dated_of_spells {t : MonthlyTotal} {year : Int} {month : Nat}
    (spells : SpellsMonth t.month year month) : dated t = .ok (⟨year, month, 1⟩, t) :=
  dated_eq_ok.mpr ⟨spells, rfl, rfl⟩

theorem dated_eq_error {t : MonthlyTotal} {failure : Failure} (fails : dated t = .error failure) :
    (∃ fault, failure = .setup (.month t.month fault)) ∧
      ∀ year month, ¬SpellsMonth t.month year month := by
  refine ⟨?_, fun year month spells => ?_⟩
  · unfold dated at fails
    split at fails
    · cases fails
    · next fault read =>
      cases fails
      exact ⟨fault, rfl⟩
  · cases fails.symm.trans (dated_of_spells spells)

variable {totals : List MonthlyTotal} {s : MonthlySeries}

theorem ofTotals_eq_ok : ofTotals totals = .ok s ↔
    List.Forall₂ (fun t p => dated t = .ok p) totals s.totals := by
  rw [ofTotals, map_eq_ok]
  constructor
  · rintro ⟨_, made, rfl⟩
    exact mapM_eq_ok.mp made
  · intro each
    exact ⟨_, mapM_eq_ok.mpr each, rfl⟩

theorem exists_dated (made : ofTotals totals = .ok s) {i : Nat} {t : MonthlyTotal}
    (there : totals[i]? = some t) :
    ∃ p, s.totals[i]? = some p ∧ dated t = .ok p := by
  obtain ⟨length, each⟩ := List.forall₂_iff_get.mp (ofTotals_eq_ok.mp made)
  obtain ⟨inside, rfl⟩ := List.getElem?_eq_some_iff.mp there
  exact ⟨s.totals[i], List.getElem?_eq_getElem _, each i inside (length ▸ inside)⟩

theorem axisLabel_eq {i : Nat} {p : Date × MonthlyTotal} (there : s.totals[i]? = some p) :
    s.axisLabel i = p.1.monthLabel := by
  rw [axisLabel, there]
  rfl

theorem exists_failing {failure : Failure} (fails : ofTotals totals = .error failure) :
    ∃ t ∈ totals, dated t = .error failure := by
  obtain ⟨before, t, after, rfl, -, fails⟩ := mapM_eq_error.mp (map_eq_error.mp fails)
  exact ⟨t, by simp, fails⟩

theorem exists_series_iff : (∃ s, ofTotals totals = .ok s) ↔ ∀ t ∈ totals, ∃ p, dated t = .ok p := by
  constructor
  · rintro ⟨s, made⟩ t member
    obtain ⟨i, there⟩ := List.mem_iff_getElem?.mp member
    obtain ⟨p, -, dated⟩ := exists_dated made there
    exact ⟨p, dated⟩
  · intro each
    cases made : ofTotals totals with
    | ok s => exact ⟨s, rfl⟩
    | error failure =>
      obtain ⟨t, member, fails⟩ := exists_failing made
      obtain ⟨p, dated⟩ := each t member
      cases fails.symm.trans dated

/-- Totals make a series exactly when each of them names a month of the calendar; a total that names
none is the failure otherwise. Each total of a series stands in it with the first day of the month that
it names, and the labels of two are the same exactly when they name the same month. -/
theorem ofTotals_months (totals : List MonthlyTotal) :
    ((∃ s, ofTotals totals = .ok s) ↔
      ∀ t ∈ totals, ∃ year month, SpellsMonth t.month year month) ∧
    (∀ failure, ofTotals totals = .error failure → ∃ t ∈ totals,
      (∃ fault, failure = .setup (.month t.month fault)) ∧
      ∀ year month, ¬SpellsMonth t.month year month) ∧
    ∀ s, ofTotals totals = .ok s →
      (∀ (i : Nat) (t : MonthlyTotal) (year : Int) (month : Nat), totals[i]? = some t →
        SpellsMonth t.month year month → s.totals[i]? = some (⟨year, month, 1⟩, t)) ∧
      ∀ (i j : Nat) (t u : MonthlyTotal), totals[i]? = some t → totals[j]? = some u →
        (s.axisLabel i = s.axisLabel j ↔
          ∃ year month, SpellsMonth t.month year month ∧ SpellsMonth u.month year month) := by
  refine ⟨exists_series_iff.trans (forall₂_congr fun t _ => ⟨?_, ?_⟩), fun failure fails => ?_,
    fun s made => ⟨?_, ?_⟩⟩
  · rintro ⟨p, dated⟩
    exact ⟨p.1.year, p.1.month, (dated_eq_ok.mp dated).1⟩
  · rintro ⟨year, month, spells⟩
    exact ⟨_, dated_of_spells spells⟩
  · obtain ⟨t, member, fails⟩ := exists_failing fails
    exact ⟨t, member, dated_eq_error fails⟩
  · intro i t year month there spells
    obtain ⟨p, kept, dated⟩ := exists_dated made there
    cases dated.symm.trans (dated_of_spells spells)
    exact kept
  · intro i j t u there there'
    obtain ⟨p, kept, dated⟩ := exists_dated made there
    obtain ⟨q, kept', dated'⟩ := exists_dated made there'
    obtain ⟨spells, -⟩ := dated_eq_ok.mp dated
    obtain ⟨spells', -⟩ := dated_eq_ok.mp dated'
    rw [axisLabel_eq kept, axisLabel_eq kept', Date.monthLabel_inj spells.month_lt spells'.month_lt]
    constructor
    · rintro ⟨month, year⟩
      rw [← month, ← year] at spells'
      exact ⟨_, _, spells, spells'⟩
    · rintro ⟨year, month, same, same'⟩
      cases dated.symm.trans (dated_of_spells same)
      cases dated'.symm.trans (dated_of_spells same')
      exact ⟨rfl, rfl⟩

end MonthlySeries

end DonationPage
