import DonationPage.Month
import DonationPage.Proofs.Except
import Mathlib.Data.List.Basic
/-! How months are spelled: a year, a hyphen and one or two digits for the month, with blanks before
either number. The day that is put behind a text for reading it is never mixed up with what stands in
the text, so exactly the texts that spell a month of the calendar are read, each as its first day. -/
namespace DonationPage

def IsDigits (cs : List Char) : Prop := cs ≠ [] ∧ ∀ c ∈ cs, c.isDigit = true

def Blanks (cs : List Char) : Prop := ∀ c ∈ cs, isBlank c = true

/-- Four digits at most, or any number of them after a sign. -/
inductive SpellsYear : List Char → Int → Prop
  | plain {cs : List Char} (digits : IsDigits cs) (short : cs.length ≤ 4) :
      SpellsYear cs (digitsValue cs)
  | plus {cs : List Char} (digits : IsDigits cs) : SpellsYear ('+' :: cs) (digitsValue cs)
  | minus {cs : List Char} (digits : IsDigits cs) : SpellsYear ('-' :: cs) (-digitsValue cs)

structure SpellsPart (greatest : Nat) (cs : List Char) (n : Nat) : Prop where
  digits : IsDigits cs
  short : cs.length ≤ 2
  value : digitsValue cs = n
  positive : 1 ≤ n
  bounded : n ≤ greatest

/-- The text spells a month of the calendar, and nothing else. -/
def SpellsMonth (text : String) (year : Int) (month : Nat) : Prop :=
  ∃ left yearPart right monthPart,
    text.toList = left ++ yearPart ++ '-' :: (right ++ monthPart) ∧ Blanks left ∧ Blanks right ∧
    SpellsYear yearPart year ∧ SpellsPart 12 monthPart month ∧
    -262143 ≤ year ∧ year ≤ 262142

theorem IsDigits.exists_head {cs : List Char} (digits : IsDigits cs) :
    ∃ c rest, cs = c :: rest ∧ c.isDigit = true := by
  obtain ⟨c, rest, rfl⟩ := List.exists_cons_of_ne_nil digits.1
  exact ⟨c, rest, rfl, digits.2 c List.mem_cons_self⟩

theorem SpellsYear.visible {cs : List Char} {year : Int} (spells : SpellsYear cs year)
    (rest : List Char) : ∀ c, (cs ++ rest).head? = some c → isBlank c = false := by
  intro c first
  cases spells with
  | plain digits short =>
    obtain ⟨d, tail, rfl, digit⟩ := digits.exists_head
    cases first
    exact isBlank_of_isDigit digit
  | plus digits =>
    cases first
    decide
  | minus digits =>
    cases first
    decide

namespace Date

theorem readNumber_sound {width? : Option Nat} {cs rest : List Char} {n : Nat}
    (read : readNumber width? cs = .ok (n, rest)) :
    ∃ ds, cs = ds ++ rest ∧ IsDigits ds ∧ digitsValue ds = n ∧
      ∀ width, width? = some width → ds.length ≤ width := by
  simp only [readNumber] at read
  generalize taken : (width?.map fun width => (cs.takeWhile Char.isDigit).take width).getD
    (cs.takeWhile Char.isDigit) = ds at read
  have ofRun : ds <+: cs.takeWhile Char.isDigit := by
    rw [← taken]
    cases width? with
    | none => exact List.prefix_rfl
    | some width => exact List.take_prefix width _
  have front : ds ++ cs.drop ds.length = cs :=
    List.prefix_iff_eq_append.mp (ofRun.trans (List.takeWhile_prefix _))
  split at read
  · cases read
  split at read
  · cases read
  next visible =>
    split at read
    · cases read
    · cases read
      refine ⟨ds, front.symm, ⟨visible, fun c member => ?_⟩, rfl, ?_⟩
      · exact List.all_eq_true.mp List.all_takeWhile c (ofRun.subset member)
      · rintro width rfl
        rw [← taken]
        exact List.length_take_le width _

theorem readNumber_append {width? : Option Nat} {ds rest : List Char} (digits : IsDigits ds)
    (fits : ∀ width, width? = some width → ds.length ≤ width)
    (small : digitsValue ds < Nat.pow 2 63)
    (ends : ∀ c, rest.head? = some c → c.isDigit = false) :
    readNumber width? (ds ++ rest) = .ok (digitsValue ds, rest) := by
  have taken : (width?.map ds.take).getD ds = ds := by
    cases width? with
    | none => rfl
    | some width => exact List.take_of_length_le (fits width rfl)
  have nonempty : ds ++ rest ≠ [] := List.append_ne_nil_of_left_ne_nil digits.1 rest
  unfold readNumber
  rw [(takeWhile_isDigit_append digits.2 ends).1]
  dsimp only
  rw [taken, if_neg nonempty, if_neg digits.1, if_neg (Nat.not_le.mpr small), List.drop_left]

def readYearAs (width? : Option Nat) (year : Nat → Int) (cs : List Char) :
    Except DateFault (Int × List Char) :=
  (readNumber width? cs).bind fun (n, cs) =>
    if Int32.minValue.toInt ≤ year n ∧ year n ≤ Int32.maxValue.toInt then .ok (year n, cs)
    else .error .outOfRange

theorem readYear_eq (cs : List Char) : readYear cs =
    match cs.dropWhile isBlank with
    | '-' :: cs => readYearAs none (fun n => -n) cs
    | '+' :: cs => readYearAs none (fun n => n) cs
    | cs => readYearAs (some 4) (fun n => n) cs := rfl

theorem readYearAs_eq_ok {width? : Option Nat} {f : Nat → Int} {cs rest : List Char} {year : Int} :
    readYearAs width? f cs = .ok (year, rest) ↔
      ∃ n, readNumber width? cs = .ok (n, rest) ∧ f n = year ∧
        Int32.minValue.toInt ≤ year ∧ year ≤ Int32.maxValue.toInt := by
  rw [readYearAs, bind_eq_ok]
  constructor
  · rintro ⟨⟨n, left⟩, read, fits⟩
    dsimp only at fits
    split at fits
    · next bounds =>
      cases fits
      exact ⟨n, read, rfl, bounds⟩
    · cases fits
  · rintro ⟨n, read, rfl, bounds⟩
    exact ⟨(n, rest), read, if_pos bounds⟩

theorem readYear_sound {cs rest : List Char} {year : Int} (read : readYear cs = .ok (year, rest)) :
    ∃ left yearPart, cs = left ++ yearPart ++ rest ∧ Blanks left ∧ SpellsYear yearPart year := by
  obtain ⟨left, same, blanks⟩ := exists_dropWhile_isBlank cs
  rw [readYear_eq] at read
  split at read
  · next tail start =>
    obtain ⟨n, number, rfl, -⟩ := readYearAs_eq_ok.mp read
    obtain ⟨ds, rfl, digits, rfl, -⟩ := readNumber_sound number
    exact ⟨left, '-' :: ds, by rw [← same, start]; simp, blanks, .minus digits⟩
  · next tail start =>
    obtain ⟨n, number, rfl, -⟩ := readYearAs_eq_ok.mp read
    obtain ⟨ds, rfl, digits, rfl, -⟩ := readNumber_sound number
    exact ⟨left, '+' :: ds, by rw [← same, start]; simp, blanks, .plus digits⟩
  · obtain ⟨n, number, rfl, -⟩ := readYearAs_eq_ok.mp read
    obtain ⟨ds, start, digits, rfl, short⟩ := readNumber_sound number
    exact ⟨left, ds, by rw [← same, start]; simp, blanks, .plain digits (short 4 rfl)⟩

theorem readYear_append {left yearPart rest : List Char} {year : Int} (blanks : Blanks left)
    (spells : SpellsYear yearPart year) (low : -262143 ≤ year) (high : year ≤ 262142)
    (ends : ∀ c, rest.head? = some c → c.isDigit = false) :
    readYear (left ++ yearPart ++ rest) = .ok (year, rest) := by
  have bounds : Int32.minValue.toInt ≤ year ∧ year ≤ Int32.maxValue.toInt := by
    rw [Int32.toInt_minValue, Int32.toInt_maxValue]
    omega
  rw [readYear_eq, List.append_assoc, dropWhile_isBlank_append blanks (spells.visible rest)]
  have number {width? : Option Nat} {ds : List Char} (digits : IsDigits ds)
      (fits : ∀ width, width? = some width → ds.length ≤ width)
      (small : digitsValue ds ≤ 262143) :
      readNumber width? (ds ++ rest) = .ok (digitsValue ds, rest) :=
    readNumber_append digits fits (Nat.lt_of_le_of_lt small (by decide)) ends
  have unbounded {ds : List Char} (width : Nat) (some : none = some width) : ds.length ≤ width := by
    cases some
  cases spells with
  | plain digits short =>
    obtain ⟨c, tail, rfl, digit⟩ := digits.exists_head
    split
    · next other start =>
      cases start
      cases digit
    · next other start =>
      cases start
      cases digit
    · have fits : ∀ width, some 4 = some width → (c :: tail).length ≤ width := by
        rintro _ ⟨⟩
        exact short
      exact readYearAs_eq_ok.mpr ⟨_, number digits fits (by omega), rfl, bounds⟩
  | plus digits => exact readYearAs_eq_ok.mpr ⟨_, number digits unbounded (by omega), rfl, bounds⟩
  | minus digits => exact readYearAs_eq_ok.mpr ⟨_, number digits unbounded (by omega), rfl, bounds⟩

theorem readPart_sound {greatest n : Nat} {cs rest : List Char}
    (read : readPart greatest cs = .ok (n, rest)) :
    ∃ left part, cs = left ++ part ++ rest ∧ Blanks left ∧ SpellsPart greatest part n := by
  obtain ⟨left, same, blanks⟩ := exists_dropWhile_isBlank cs
  obtain ⟨⟨value, after⟩, number, fits⟩ := bind_eq_ok.mp read
  dsimp only at fits
  split at fits
  · next bounds =>
    cases fits
    obtain ⟨ds, start, digits, rfl, short⟩ := readNumber_sound number
    exact ⟨left, ds, by rw [← same, start]; simp, blanks, digits, short 2 rfl, rfl, bounds.1, bounds.2⟩
  · cases fits

theorem readPart_append {greatest n : Nat} {left part rest : List Char} (blanks : Blanks left)
    (spells : SpellsPart greatest part n) (small : greatest < 100)
    (ends : ∀ c, rest.head? = some c → c.isDigit = false) :
    readPart greatest (left ++ part ++ rest) = .ok (n, rest) := by
  obtain ⟨digits, short, rfl, positive, bounded⟩ := spells
  obtain ⟨c, tail, rfl, digit⟩ := digits.exists_head
  have visible : ∀ d, (c :: tail ++ rest).head? = some d → isBlank d = false := by
    rintro d ⟨⟩
    exact isBlank_of_isDigit digit
  have small : digitsValue (c :: tail) < Nat.pow 2 63 := Nat.lt_trans (by omega) (by decide : 100 < _)
  have fits : ∀ width, some 2 = some width → (c :: tail).length ≤ width := by
    rintro _ ⟨⟩
    exact short
  have number := readNumber_append digits fits small ends
  unfold readPart
  rw [List.append_assoc, dropWhile_isBlank_append blanks visible]
  exact bind_eq_ok.mpr ⟨_, number, if_pos ⟨positive, bounded⟩⟩

theorem readHyphen_eq_ok {cs rest : List Char} :
    readHyphen cs = .ok rest ↔ cs = '-' :: rest := by
  cases cs with
  | nil => simp [readHyphen]
  | cons c cs => by_cases hyphen : c = '-' <;> simp [readHyphen, hyphen]

theorem one_le_daysIn (year : Int) (month : Nat) : 1 ≤ daysIn year month := by
  unfold daysIn
  grind

theorem read_eq_ok {cs : List Char} {d : Date} : read cs = .ok d ↔
    ∃ year month day, readYear cs = .ok (d.year, '-' :: year) ∧
      readPart 12 year = .ok (d.month, '-' :: month) ∧ readPart 31 month = .ok (d.day, day) ∧
      day = [] ∧ inCalendar d.year = true ∧ d.day ≤ daysIn d.year d.month := by
  constructor
  · intro taken
    obtain ⟨⟨year, afterYear⟩, yearRead, fromYear⟩ := bind_eq_ok.mp taken
    obtain ⟨monthText, hyphen, fromHyphen⟩ := bind_eq_ok.mp fromYear
    obtain ⟨⟨month, afterMonth⟩, monthRead, fromMonth⟩ := bind_eq_ok.mp fromHyphen
    obtain ⟨dayText, hyphen', fromHyphen'⟩ := bind_eq_ok.mp fromMonth
    obtain ⟨⟨day, afterDay⟩, dayRead, fromDay⟩ := bind_eq_ok.mp fromHyphen'
    rw [readHyphen_eq_ok.mp hyphen] at yearRead
    rw [readHyphen_eq_ok.mp hyphen'] at monthRead
    dsimp only at fromDay
    split at fromDay
    · cases fromDay
    next nothing =>
      split at fromDay
      · next valid =>
        cases fromDay
        exact ⟨_, _, _, yearRead, monthRead, dayRead, not_not.mp nothing, valid⟩
      · cases fromDay
  · rintro ⟨year, month, _, yearRead, monthRead, dayRead, rfl, valid⟩
    refine bind_eq_ok.mpr ⟨_, yearRead, bind_eq_ok.mpr ⟨_, readHyphen_eq_ok.mpr rfl, ?_⟩⟩
    refine bind_eq_ok.mpr ⟨_, monthRead, bind_eq_ok.mpr ⟨_, readHyphen_eq_ok.mpr rfl, ?_⟩⟩
    exact bind_eq_ok.mpr ⟨_, dayRead, (if_neg (not_not.mpr rfl)).trans (if_pos valid)⟩

end Date

theorem append_cons_inj_of_last {c : Char} {before before' after after' : List Char}
    (last : c ∉ after) (last' : c ∉ after')
    (same : before ++ c :: after = before' ++ c :: after') : before = before' ∧ after = after' := by
  have reversed (front rear : List Char) (free : c ∉ rear) :
      cutAt c (front ++ c :: rear).reverse = (rear.reverse, some front.reverse) := by
    rw [List.reverse_append, List.reverse_cons, List.append_assoc]
    exact cutAt_append (by simpa using free) _
  have cuts := reversed before after last
  rw [same, reversed before' after' last'] at cuts
  simpa [eq_comm, and_comm] using cuts

theorem eq_of_append_day {cs front gap day : List Char} {n : Nat} (blanks : Blanks gap)
    (spells : SpellsPart 31 day n) (same : cs ++ ['-', '0', '1'] = front ++ '-' :: (gap ++ day)) :
    cs = front ∧ n = 1 := by
  have behind : '-' ∉ gap ++ day := by
    rw [List.mem_append, not_or]
    exact ⟨fun minus => absurd (blanks '-' minus) (by decide),
      fun minus => absurd (spells.digits.2 '-' minus) (by decide)⟩
  obtain ⟨rfl, suffix⟩ := append_cons_inj_of_last (by decide) behind same
  refine ⟨rfl, ?_⟩
  cases gap with
  | nil =>
    rw [← spells.value, ← show ['0', '1'] = day from suffix]
    rfl
  | cons c gap =>
    have digit : c = '0' := (List.cons.inj suffix).1.symm
    exact absurd (blanks c List.mem_cons_self) (by rw [digit]; decide)

/-- A text is read as a month exactly when it spells one, and then as the first day of that month. -/
theorem readMonth_eq_ok {text : String} {d : Date} :
    readMonth text = .ok d ↔ SpellsMonth text d.year d.month ∧ d.day = 1 := by
  rw [readMonth, Date.read_eq_ok]
  constructor
  · rintro ⟨_, _, _, yearRead, monthRead, dayRead, rfl, calendar, -⟩
    obtain ⟨left, yearPart, text', blanks, year⟩ := Date.readYear_sound yearRead
    obtain ⟨right, monthPart, rfl, blanks', month⟩ := Date.readPart_sound monthRead
    obtain ⟨gap, dayPart, rfl, blanks'', day⟩ := Date.readPart_sound dayRead
    have same : text.toList ++ ['-', '0', '1'] =
        (left ++ yearPart ++ '-' :: (right ++ monthPart)) ++ '-' :: (gap ++ dayPart) := by
      simpa using text'
    obtain ⟨spelled, first⟩ := eq_of_append_day blanks'' day same
    have bounds : -262143 ≤ d.year ∧ d.year ≤ 262142 := by
      simpa [Date.inCalendar] using calendar
    exact ⟨⟨left, yearPart, right, monthPart, spelled, blanks, blanks', year, month, bounds⟩, first⟩
  · rintro ⟨⟨left, yearPart, right, monthPart, spelled, blanks, blanks', year, month, low, high⟩,
      first⟩
    have ends (cs : List Char) : ∀ c, ('-' :: cs).head? = some c → c.isDigit = false := by
      rintro c ⟨⟩
      rfl
    have digits : IsDigits ['0', '1'] := ⟨List.cons_ne_nil _ _, List.all_eq_true.mp rfl⟩
    have day : SpellsPart 31 ['0', '1'] 1 := ⟨digits, Nat.le_refl 2, rfl, Nat.le_refl 1, by decide⟩
    refine ⟨right ++ monthPart ++ ['-', '0', '1'], ['0', '1'], [], ?_, ?_, ?_, rfl, ?_, ?_⟩
    · rw [spelled]
      simpa using Date.readYear_append blanks year low high (ends _)
    · exact Date.readPart_append blanks' month (by decide) (ends _)
    · rw [first]
      have alone : ∀ c, ([] : List Char).head? = some c → c.isDigit = false := by
        rintro c ⟨⟩
      exact Date.readPart_append (List.forall_mem_nil _) day (by decide) alone
    · simp [Date.inCalendar, low, high]
    · rw [first]
      exact Date.one_le_daysIn d.year d.month

example : readMonth " +2024- 7" = .ok ⟨2024, 7, 1⟩ := rfl

example : readMonth "2024-07-01" = .error .trailingText := rfl

end DonationPage
