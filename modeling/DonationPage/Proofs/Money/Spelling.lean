import DonationPage.Money
import Mathlib.Data.List.Basic
import Mathlib.Data.Option.Basic
/-! How amounts are spelled: an optional minus and dollar sign, a whole part that commas may group,
and an optional fraction of two places at most. Exactly the texts that spell an amount, with blanks
around them, are read, each as the cents that it spells, unless these are too many for 64 bits. -/
namespace DonationPage.Money

/-- Digits, in one run or in groups that commas separate. -/
structure WholePart where
  first : List Char
  groups : List (List Char)
  first_ne_nil : first ≠ []
  first_length : groups ≠ [] → first.length ≤ 3
  group_length : ∀ group ∈ groups, group.length = 3
  isDigit : ∀ c ∈ first ++ groups.flatten, c.isDigit = true

structure Numeral where
  whole : WholePart
  fraction? : Option (List Char)
  fraction_length : (fraction?.getD []).length ≤ 2
  isDigit : ∀ c ∈ fraction?.getD [], c.isDigit = true

structure Spelling where
  negative : Bool
  dollar : Bool
  numeral : Numeral

namespace WholePart

def joined (w : WholePart) : List Char := w.first ++ w.groups.flatten

def toList (w : WholePart) : List Char := w.first ++ w.groups.flatMap (',' :: ·)

def value (w : WholePart) : Nat := digitsValue w.joined

end WholePart

namespace Numeral

def toList (n : Numeral) : List Char := n.whole.toList ++ n.fraction?.elim [] ('.' :: ·)

/-- The fraction in two places, those that are missing filled up with zeros. -/
def hundredths (n : Numeral) : Nat := digitsValue ((n.fraction?.getD []).rightpad 2 '0')

def size (n : Numeral) : Nat := n.whole.value * 100 + n.hundredths

end Numeral

namespace Spelling

def toList (s : Spelling) : List Char :=
  (if s.negative then ['-'] else []) ++ ((if s.dollar then ['$'] else []) ++ s.numeral.toList)

def cents (s : Spelling) : Int := if s.negative then -s.numeral.size else s.numeral.size

def StandsIn (s : Spelling) (text : String) : Prop :=
  ∃ left right, text.toList = left ++ s.toList ++ right ∧ ∀ c ∈ left ++ right, isBlank c = true

end Spelling

private theorem toNat_of_isDigit {c : Char} (digit : c.isDigit = true) :
    48 ≤ c.toNat ∧ c.toNat ≤ 57 := by
  simp only [Char.isDigit, Bool.and_eq_true, decide_eq_true_eq] at digit
  exact digit

theorem utf8Length_of_isDigit {cs : List Char} (digits : ∀ c ∈ cs, c.isDigit = true) :
    utf8Length cs = cs.length := by
  induction cs with
  | nil => rfl
  | cons c cs ih =>
    have range := toNat_of_isDigit (digits c List.mem_cons_self)
    have one : c.utf8Size = 1 := by
      rw [Char.utf8Size_eq_one_iff, UInt32.le_iff_toNat_le]
      exact Nat.le_trans range.2 (by decide)
    rw [utf8Length_cons, one, ih fun d member => digits d (List.mem_cons_of_mem c member),
      List.length_cons, Nat.add_comm]

theorem ungroup_eq_some_iff {cs whole : List Char} : ungroup? cs = some whole ↔
    ∃ first groups, splitAt ',' cs = first :: groups ∧
      (groups ≠ [] → 1 ≤ utf8Length first ∧ utf8Length first ≤ 3) ∧
      (∀ group ∈ groups, utf8Length group = 3) ∧ first ++ groups.flatten = whole := by
  unfold ungroup?
  cases parts : splitAt ',' cs with
  | nil => simp
  | cons first groups =>
    dsimp only
    constructor
    · intro ungrouped
      split at ungrouped
      · cases ungrouped
      · rename_i short
        split at ungrouped
        · rename_i triples
          cases ungrouped
          refine ⟨first, groups, rfl, fun grouped => ?_, by simpa using triples, rfl⟩
          by_contra long
          exact short ⟨grouped, long⟩
        · cases ungrouped
    · rintro ⟨_, _, same, short, triples, rfl⟩
      cases same
      rw [if_neg fun both => both.2 (short both.1), if_pos (by simpa using triples)]

namespace WholePart

theorem joined_ne_nil (w : WholePart) : w.joined ≠ [] := by
  simp [joined, w.first_ne_nil]

theorem isDigit_first (w : WholePart) {c : Char} (member : c ∈ w.first) : c.isDigit = true :=
  w.isDigit c (List.mem_append_left _ member)

theorem isDigit_group (w : WholePart) {group : List Char} (among : group ∈ w.groups) {c : Char}
    (member : c ∈ group) : c.isDigit = true :=
  w.isDigit c (List.mem_append_right _ (List.mem_flatten_of_mem among member))

theorem isDigit_or_comma (w : WholePart) {c : Char} (member : c ∈ w.toList) :
    c.isDigit = true ∨ c = ',' := by
  rcases List.mem_append.mp member with first | later
  · exact .inl (w.isDigit_first first)
  · obtain ⟨group, among, spelled⟩ := List.mem_flatMap.mp later
    rcases List.mem_cons.mp spelled with comma | digit
    · exact .inr comma
    · exact .inl (w.isDigit_group among digit)

theorem not_mem_toList (w : WholePart) {c : Char} (digit : c.isDigit = false) (comma : c ≠ ',') :
    c ∉ w.toList := by
  intro member
  rcases w.isDigit_or_comma member with isDigit | isComma
  · cases digit.symm.trans isDigit
  · exact comma isComma

theorem exists_head (w : WholePart) :
    ∃ c rest, w.toList = c :: rest ∧ c.isDigit = true := by
  obtain ⟨c, rest, first⟩ := List.exists_cons_of_ne_nil w.first_ne_nil
  refine ⟨c, rest ++ w.groups.flatMap (',' :: ·), by simp [toList, first], ?_⟩
  exact w.isDigit_first (by simp [first])

theorem splitAt_toList (w : WholePart) : splitAt ',' w.toList = w.first :: w.groups := by
  apply splitAt_eq_cons_iff.mpr
  refine ⟨rfl, fun part member comma => ?_⟩
  have digit : (',').isDigit = true := by
    rcases List.mem_cons.mp member with rfl | among
    · exact w.isDigit_first comma
    · exact w.isDigit_group among comma
  cases digit

theorem ungroup_toList (w : WholePart) : ungroup? w.toList = some w.joined := by
  apply ungroup_eq_some_iff.mpr
  refine ⟨w.first, w.groups, w.splitAt_toList, fun grouped => ?_, fun group among => ?_, rfl⟩
  · rw [utf8Length_of_isDigit fun _ => w.isDigit_first]
    exact ⟨List.length_pos_iff.mpr w.first_ne_nil, w.first_length grouped⟩
  · rw [utf8Length_of_isDigit fun _ => w.isDigit_group among]
    exact w.group_length group among

end WholePart

theorem exists_of_ungroup {cs whole : List Char} (ungrouped : ungroup? cs = some whole)
    (visible : whole ≠ []) (isDigit : ∀ c ∈ whole, c.isDigit = true) :
    ∃ w : WholePart, w.toList = cs ∧ w.joined = whole := by
  obtain ⟨first, groups, parts, short, triples, rfl⟩ := ungroup_eq_some_iff.mp ungrouped
  -- The groups are measured in bytes, before it is known that they are digits.
  have bytes : utf8Length first = first.length :=
    utf8Length_of_isDigit fun c member => isDigit c (List.mem_append_left _ member)
  -- Beside other groups the first is not empty, as it is measured; alone it holds all the digits.
  have first_ne_nil : first ≠ [] := by
    rintro rfl
    by_cases alone : groups = []
    · exact visible (by simp [alone])
    · simpa using short alone
  refine ⟨⟨first, groups, first_ne_nil, fun grouped => ?_, fun group among => ?_, isDigit⟩,
    (eq_of_splitAt parts).symm, rfl⟩
  · rw [← bytes]
    exact (short grouped).2
  · rw [← triples group among]
    exact (utf8Length_of_isDigit fun c member =>
      isDigit c (List.mem_append_right _ (List.mem_flatten_of_mem among member))).symm

theorem fractionCents_eq {fraction : List Char} (short : fraction.length ≤ 2)
    (isDigit : ∀ c ∈ fraction, c.isDigit = true) :
    fractionCents fraction = digitsValue (fraction.rightpad 2 '0') := by
  rw [fractionCents, utf8Length_of_isDigit isDigit]
  match fraction with
  | [] => rfl
  | [c] =>
    simp [digitsValue, Nat.ofDigitChars, List.rightpad]
    omega
  | [c, d] => rfl
  | _ :: _ :: _ :: _ => simp at short

theorem digitsValue_rightpad_lt {fraction : List Char} (short : fraction.length ≤ 2)
    (isDigit : ∀ c ∈ fraction, c.isDigit = true) :
    digitsValue (fraction.rightpad 2 '0') < 100 := by
  match fraction with
  | [] => decide
  | [c] =>
    have tens := toNat_of_isDigit (isDigit c (by simp))
    simp [digitsValue, Nat.ofDigitChars, List.rightpad]
    omega
  | [c, d] =>
    have tens := toNat_of_isDigit (isDigit c (by simp))
    have ones := toNat_of_isDigit (isDigit d (by simp))
    simp [digitsValue, Nat.ofDigitChars, List.rightpad]
    omega
  | _ :: _ :: _ :: _ => simp at short

theorem checked_eq (n : Nat) :
    checked? n = if (n : Int) ≤ Int64.maxValue.toInt then some n else none := by
  have bound : n < Nat.pow 2 63 ↔ (n : Int) ≤ Int64.maxValue.toInt := by
    rw [Int64.toInt_maxValue]
    change n < 9223372036854775808 ↔ _
    omega
  exact if_congr bound rfl rfl

theorem checked_bind_checked (whole fraction : Nat) :
    ((checked? whole).bind fun dollars => (checked? (dollars * 100)).bind fun cents =>
      checked? (cents + fraction)) = checked? (whole * 100 + fraction) := by
  unfold checked?
  by_cases dollars : whole < Nat.pow 2 63
  · rw [if_pos dollars, Option.bind_some]
    by_cases cents : whole * 100 < Nat.pow 2 63
    · rw [if_pos cents, Option.bind_some]
    · rw [if_neg cents, if_neg (by omega), Option.bind_none]
  · rw [if_neg dollars, if_neg (by omega), Option.bind_none]

namespace Numeral

theorem cutAt_toList (n : Numeral) : cutAt '.' n.toList = (n.whole.toList, n.fraction?) :=
  cutAt_eq_iff.mpr ⟨n.whole.not_mem_toList rfl (by decide), rfl⟩

theorem magnitude_toList (n : Numeral) : magnitude? n.toList = checked? n.size := by
  have digits : n.whole.joined.all Char.isDigit = true := List.all_eq_true.mpr n.whole.isDigit
  have places : (n.fraction?.getD []).all Char.isDigit = true := List.all_eq_true.mpr n.isDigit
  have short : utf8Length (n.fraction?.getD []) ≤ 2 := by
    rw [utf8Length_of_isDigit n.isDigit]
    exact n.fraction_length
  rw [magnitude?, n.cutAt_toList]
  dsimp only
  rw [n.whole.ungroup_toList, fractionCents_eq n.fraction_length n.isDigit, Option.bind_eq_bind,
    Option.bind_some, (Option.guard_eq_some' ()).mpr ⟨n.whole.joined_ne_nil, short⟩,
    (Option.guard_eq_some' ()).mpr ⟨digits, places⟩]
  exact checked_bind_checked _ _

theorem hundredths_lt (n : Numeral) : n.hundredths < 100 :=
  digitsValue_rightpad_lt n.fraction_length n.isDigit

theorem mem_toList (n : Numeral) {c : Char} (member : c ∈ n.toList) :
    c.isDigit = true ∨ c = ',' ∨ c = '.' := by
  rcases List.mem_append.mp member with whole | places
  · exact (n.whole.isDigit_or_comma whole).imp_right .inl
  · cases fraction : n.fraction? with
    | none => simp [fraction] at places
    | some digits =>
      simp only [fraction, Option.elim_some, List.mem_cons] at places
      rcases places with point | digit
      · exact .inr (.inr point)
      · exact .inl (n.isDigit c (by simpa [fraction] using digit))

theorem head_toList (n : Numeral) {flag : Char} (other : flag.isDigit = false) :
    n.toList.head? ≠ some flag := by
  obtain ⟨c, rest, spelled, digit⟩ := n.whole.exists_head
  rw [toList, spelled, List.cons_append, List.head?_cons]
  intro same
  cases same
  cases digit.symm.trans other

end Numeral

theorem exists_of_magnitude {cs : List Char} {size : Nat} (read : magnitude? cs = some size) :
    ∃ n : Numeral, n.toList = cs := by
  obtain ⟨-, joined⟩ := cutAt_spec '.' cs
  obtain ⟨whole, ungrouped, read⟩ := Option.bind_eq_some_iff.mp read
  obtain ⟨_, measured, read⟩ := Option.bind_eq_some_iff.mp read
  obtain ⟨_, checked, -⟩ := Option.bind_eq_some_iff.mp read
  obtain ⟨visible, short⟩ := (Option.guard_eq_some' _).mp measured
  obtain ⟨digits, places⟩ := (Option.guard_eq_some' _).mp checked
  rw [List.all_eq_true] at digits places
  obtain ⟨w, spelled, -⟩ := exists_of_ungroup ungrouped visible digits
  rw [utf8Length_of_isDigit places] at short
  refine ⟨⟨w, (cutAt '.' cs).2, short, places⟩, ?_⟩
  rw [Numeral.toList, spelled, ← joined]

namespace Spelling

variable (s : Spelling)

theorem isBlank_eq_false {c : Char} (member : c ∈ s.toList) : isBlank c = false := by
  rcases List.mem_append.mp member with sign | rest
  · split at sign
    · rw [List.mem_singleton.mp sign]
      decide
    · cases sign
  rcases List.mem_append.mp rest with currency | numeral
  · split at currency
    · rw [List.mem_singleton.mp currency]
      decide
    · cases currency
  rcases s.numeral.mem_toList numeral with digit | rfl | rfl
  · exact isBlank_of_isDigit digit
  · decide
  · decide

theorem trim_of_standsIn {text : String} (stands : s.StandsIn text) :
    trim text.toList = s.toList :=
  (trim_eq_iff fun _ member => s.isBlank_eq_false member).mpr stands

theorem takeFlag_minus : takeFlag '-' s.toList =
    (s.negative, (if s.dollar then ['$'] else []) ++ s.numeral.toList) := by
  -- A dollar sign or a digit comes next, so no second minus is taken off.
  apply takeFlag_append
  cases s.dollar with
  | true => simp
  | false => exact s.numeral.head_toList rfl

theorem takeFlag_dollar :
    takeFlag '$' ((if s.dollar then ['$'] else []) ++ s.numeral.toList) =
      (s.dollar, s.numeral.toList) :=
  takeFlag_append (s.numeral.head_toList rfl) s.dollar

theorem cents_bounds (small : s.numeral.size ≤ Int64.maxValue.toInt) :
    Int64.minValue.toInt < s.cents ∧ s.cents ≤ Int64.maxValue.toInt := by
  rw [Int64.toInt_maxValue] at small ⊢
  rw [Int64.toInt_minValue]
  unfold cents
  split <;> omega

theorem toInt_ofInt_cents (small : s.numeral.size ≤ Int64.maxValue.toInt) :
    (Int64.ofInt s.cents).toInt = s.cents := by
  obtain ⟨low, high⟩ := s.cents_bounds small
  rw [Int64.toInt_minValue] at low
  rw [Int64.toInt_maxValue] at high
  exact Int64.toInt_ofInt_of_le (by omega) (by omega)

theorem ofText_of_standsIn {text : String} (stands : s.StandsIn text) :
    ofText text = if s.numeral.size ≤ Int64.maxValue.toInt then .ok ⟨Int64.ofInt s.cents⟩
      else .error (.invalidAmount text) := by
  unfold ofText ofText?
  rw [s.trim_of_standsIn stands, s.takeFlag_minus]
  dsimp only
  rw [s.takeFlag_dollar, s.numeral.magnitude_toList, checked_eq]
  by_cases small : s.numeral.size ≤ Int64.maxValue.toInt
  · rw [if_pos small, if_pos small]
    rfl
  · rw [if_neg small, if_neg small]
    rfl

end Spelling

theorem exists_of_ofText {text : String} {m : Money} (read : ofText text = .ok m) :
    ∃ s : Spelling, s.StandsIn text := by
  unfold ofText at read
  split at read
  · rename_i amount found
    unfold ofText? at found
    rcases signed : takeFlag '-' (trim text.toList) with ⟨negative, rest⟩
    rcases priced : takeFlag '$' rest with ⟨dollar, cs⟩
    simp only [signed, priced] at found
    obtain ⟨size, sized, -⟩ := Option.bind_eq_some_iff.mp found
    obtain ⟨n, spelled⟩ := exists_of_magnitude sized
    have whole : trim text.toList = Spelling.toList ⟨negative, dollar, n⟩ := by
      rw [eq_of_takeFlag signed, eq_of_takeFlag priced, ← spelled]
      rfl
    refine ⟨⟨negative, dollar, n⟩, ?_⟩
    unfold Spelling.StandsIn
    rw [← whole]
    exact exists_trim text.toList
  · cases read

theorem ofText_eq_error_iff {text : String} :
    ofText text = .error (.invalidAmount text) ↔ ∀ m, ofText text ≠ .ok m := by
  unfold ofText
  split <;> simp

/-- The texts that are read as amounts are the spellings of amounts, with blanks around them or
without, whose cents 64 bits hold beside a sign; these are the cents of the amount, with the sign of
the text. Any other text is given back as no amount. No number on the way leaves 64 bits: a fraction
stays below a hundred, and where the cents fit, so do those of the whole part, with either sign. -/
theorem ofText_iff_spelling (text : String) :
    (∀ m, ofText text = .ok m ↔ ∃ s : Spelling, s.StandsIn text ∧
      s.numeral.size ≤ Int64.maxValue.toInt ∧ m.cents.toInt = s.cents) ∧
    (ofText text = .error (.invalidAmount text) ↔
      ¬ ∃ s : Spelling, s.StandsIn text ∧ s.numeral.size ≤ Int64.maxValue.toInt) ∧
    (∀ s : Spelling, s.StandsIn text → s.numeral.hundredths < 100 ∧
      (s.numeral.size ≤ Int64.maxValue.toInt →
        s.numeral.whole.value * 100 ≤ Int64.maxValue.toInt ∧
        Int64.minValue.toInt < s.cents ∧ s.cents ≤ Int64.maxValue.toInt)) := by
  have readable (m : Money) : ofText text = .ok m ↔ ∃ s : Spelling, s.StandsIn text ∧
      s.numeral.size ≤ Int64.maxValue.toInt ∧ m.cents.toInt = s.cents := by
    constructor
    · intro read
      obtain ⟨s, stands⟩ := exists_of_ofText read
      rw [s.ofText_of_standsIn stands] at read
      split at read
      · rename_i small
        cases read
        exact ⟨s, stands, small, s.toInt_ofInt_cents small⟩
      · cases read
    · rintro ⟨s, stands, small, same⟩
      rw [s.ofText_of_standsIn stands, if_pos small, ← same, Int64.ofInt_toInt]
  refine ⟨readable, ?_, ?_⟩
  · rw [ofText_eq_error_iff]
    constructor
    · rintro none ⟨s, stands, small⟩
      exact none _ ((s.ofText_of_standsIn stands).trans (if_pos small))
    · intro none m read
      obtain ⟨s, stands, small, -⟩ := (readable m).mp read
      exact none ⟨s, stands, small⟩
  · intro s stands
    refine ⟨s.numeral.hundredths_lt, fun small => ⟨?_, s.cents_bounds small⟩⟩
    unfold Numeral.size at small
    omega

example : ofText " -$1,234.5" = .ok ⟨-123450⟩ := rfl

end DonationPage.Money
