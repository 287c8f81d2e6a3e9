import DonationPage.Proofs.Money.Texts
import Mathlib.Algebra.Order.Field.Rat
import Mathlib.Tactic.Ring
/-! How amounts are shown: a sign, the currency, dollars in groups of three digits and two digits of
cents. Without the currency and the commas it is the plain decimal number of the amount in dollars. -/
namespace DonationPage.Money

/-- The part of one that digits behind a point stand for. -/
def placesValue : List Char → ℚ
  | [] => 0
  | c :: cs => (digitsValue [c] + placesValue cs) / 10

/-- The number that a plain decimal text stands for: perhaps a minus sign, then digits, a point and
more digits. -/
def decimalValue? (text : String) : Option ℚ :=
  let (negative, cs) := takeFlag '-' text.toList
  match cutAt '.' cs with
  | (_, none) => none
  | (whole, some places) =>
    if whole ≠ [] ∧ places ≠ [] ∧ (whole ++ places).all Char.isDigit then
      let size := digitsValue whole + placesValue places
      some (if negative then -size else size)
    else none

def sign (m : Money) : List Char := if m.cents < 0 then ['-'] else []

def dollarDigits (m : Money) : List Char := digits (m.cents.toInt.natAbs / 100)

def centDigits (m : Money) : List Char := twoDigits (m.cents.toInt.natAbs % 100)

theorem toList_text (m : Money) :
    m.text.toList = m.sign ++ '$' :: (groupThousands m.dollarDigits ++ '.' :: m.centDigits) := by
  simp [text, layout, sign, dollarDigits, centDigits]

theorem toList_decimalText (m : Money) :
    m.decimalText.toList = m.sign ++ (m.dollarDigits ++ '.' :: m.centDigits) := by
  simp [decimalText, layout, sign, dollarDigits, centDigits]

theorem filter_groupThousands {keep : Char → Bool} (comma : keep ',' = false) {cs : List Char}
    (kept : ∀ c ∈ cs, keep c = true) : (groupThousands cs).filter keep = cs := by
  induction cs with
  | nil => rfl
  | cons c cs ih =>
    have head : keep c = true := kept c List.mem_cons_self
    have tail := ih fun d member => kept d (List.mem_cons_of_mem c member)
    unfold groupThousands
    split
    · simp [head, comma, tail]
    · simp [head, tail]

theorem filter_text (m : Money) :
    m.text.toList.filter (fun c => c ≠ '$' ∧ c ≠ ',') = m.decimalText.toList := by
  have kept {c : Char} (digit : c.isDigit = true) : decide (c ≠ '$' ∧ c ≠ ',') = true := by
    rw [decide_eq_true_eq]
    constructor <;> rintro rfl <;> cases digit
  have sign : m.sign.filter (fun c => c ≠ '$' ∧ c ≠ ',') = m.sign := by
    unfold Money.sign
    split <;> rfl
  have dollars : (groupThousands m.dollarDigits).filter (fun c => c ≠ '$' ∧ c ≠ ',') =
      m.dollarDigits :=
    filter_groupThousands (by decide) fun c member => kept (isDigit_of_mem_digits member)
  have cents : m.centDigits.filter (fun c => c ≠ '$' ∧ c ≠ ',') = m.centDigits :=
    List.filter_eq_self.mpr fun c member => kept (isDigit_of_mem_twoDigits member)
  rw [toList_text, toList_decimalText, List.filter_append, sign, List.filter_cons_of_neg (by decide),
    List.filter_append, dollars, List.filter_cons_of_pos (by decide), cents]

theorem placesValue_two {places : List Char} (two : places.length = 2) :
    placesValue places * 100 = digitsValue places := by
  match places with
  | [c, d] =>
    have joined : digitsValue [c, d] = digitsValue [c] * 10 + digitsValue [d] := by
      simp [digitsValue, Nat.ofDigitChars]
      omega
    rw [joined]
    push_cast [placesValue]
    ring

theorem digitsValue_layout (m : Money) :
    (digitsValue m.dollarDigits + placesValue m.centDigits) * 100 = m.cents.toInt.natAbs := by
  obtain ⟨two, cents⟩ : m.centDigits.length = 2 ∧ digitsValue m.centDigits = _ :=
    twoDigits_spec (Nat.mod_lt _ (by decide))
  have dollars : digitsValue m.dollarDigits = m.cents.toInt.natAbs / 100 := digitsValue_digits _
  rw [add_mul, placesValue_two two, dollars, cents]
  exact_mod_cast Nat.div_add_mod' m.cents.toInt.natAbs 100

theorem decimalValue_decimalText (m : Money) :
    ∃ q, decimalValue? m.decimalText = some q ∧ q * 100 = m.cents.toInt := by
  have digitless {c : Char} (other : c.isDigit = false) : c ∉ m.dollarDigits := fun member => by
    simp [isDigit_of_mem_digits member] at other
  have visible : m.dollarDigits ≠ [] := digits_ne_nil _
  have head : (m.dollarDigits ++ '.' :: m.centDigits).head? ≠ some '-' := by
    rw [List.head?_append_of_ne_nil _ visible]
    exact fun minus => digitless rfl (List.mem_of_mem_head? minus)
  have signed : takeFlag '-' m.decimalText.toList =
      (decide (m.cents < 0), m.dollarDigits ++ '.' :: m.centDigits) := by
    rw [toList_decimalText, sign]
    simpa using takeFlag_append head (decide (m.cents < 0))
  have pointed : cutAt '.' (m.dollarDigits ++ '.' :: m.centDigits) =
      (m.dollarDigits, some m.centDigits) := cutAt_append (digitless rfl) _
  have two : m.centDigits.length = 2 := (twoDigits_spec (Nat.mod_lt _ (by decide))).1
  have plain : m.dollarDigits ≠ [] ∧ m.centDigits ≠ [] ∧
      (m.dollarDigits ++ m.centDigits).all Char.isDigit := by
    refine ⟨visible, List.ne_nil_of_length_pos (by omega), List.all_eq_true.mpr fun c member => ?_⟩
    exact (List.mem_append.mp member).elim isDigit_of_mem_digits isDigit_of_mem_twoDigits
  unfold decimalValue?
  simp only [signed, pointed]
  rw [if_pos plain]
  refine ⟨_, rfl, ?_⟩
  have size := m.digitsValue_layout
  have below : m.cents < 0 ↔ m.cents.toInt < 0 := Int64.lt_iff_toInt_lt
  split
  · next negative =>
    have negative : m.cents.toInt < 0 := below.mp (of_decide_eq_true negative)
    rw [neg_mul, size, ← Int.cast_natCast, Int.ofNat_natAbs_of_nonpos negative.le]
    simp
  · next positive =>
    have positive : 0 ≤ m.cents.toInt := by
      simpa [below] using positive
    rw [size, ← Int.cast_natCast, Int.natAbs_of_nonneg positive]

/-- An amount is shown with a minus sign just when it is negative, the currency, the dollars in groups
of three digits but for the first, which may be shorter, without a zero in front of others, and two
digits of cents. Without the currency and the commas that is the plain text, which stands for exactly
the amount in dollars. -/
theorem text_layout (m : Money) :
    (∃ (w : WholePart) (cents : List Char),
      m.text.toList =
        (if m.cents < 0 then ['-'] else []) ++ '$' :: (w.toList ++ '.' :: cents) ∧
      w.first.length ≤ 3 ∧ (w.first.head? = some '0' → w.toList = ['0']) ∧
      cents.length = 2 ∧ ∀ c ∈ cents, c.isDigit = true) ∧
    m.text.toList.filter (fun c => c ≠ '$' ∧ c ≠ ',') = m.decimalText.toList ∧
    ∃ dollars, decimalValue? m.decimalText = some dollars ∧ dollars * 100 = m.cents.toInt := by
  refine ⟨?_, m.filter_text, m.decimalValue_decimalText⟩
  obtain ⟨w, grouped, joined, short⟩ := WholePart.exists_grouped (m.cents.toInt.natAbs / 100)
  have shown : m.text.toList = m.sign ++ '$' :: (w.toList ++ '.' :: m.centDigits) := by
    rw [toList_text, dollarDigits, grouped]
  refine ⟨w, m.centDigits, shown, short, fun zero => ?_,
    (twoDigits_spec (Nat.mod_lt _ (by decide))).1, fun c => isDigit_of_mem_twoDigits⟩
  have lead : (digits (m.cents.toInt.natAbs / 100)).head? = some '0' := by
    rw [← joined, WholePart.joined, List.head?_append_of_ne_nil _ w.first_ne_nil]
    exact zero
  rw [← grouped, digits_lead lead]
  rfl

example : (⟨-123456789⟩ : Money).text = "-$1,234,567.89" := by decide

end DonationPage.Money
