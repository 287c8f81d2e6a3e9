import DonationPage.Proofs.Money.Spelling
/-! The texts of amounts, plain and in dollars. Both spell the amount exactly, so both are read back
as the amount that was written; of the least amount alone the cents are too many to be read. -/
namespace DonationPage.Money

theorem exists_groups {cs : List Char} (visible : cs ≠ []) :
    ∃ (first : List Char) (groups : List (List Char)), cs = first ++ groups.flatten ∧
      groupThousands cs = first ++ groups.flatMap (',' :: ·) ∧
      1 ≤ first.length ∧ first.length ≤ 3 ∧ ∀ group ∈ groups, group.length = 3 := by
  induction cs with
  | nil => exact absurd rfl visible
  | cons c cs ih =>
    by_cases last : cs = []
    · subst last
      exact ⟨[c], [], rfl, rfl, by simp, by simp, by simp⟩
    obtain ⟨first, groups, joined, spelled, visible, short, triples⟩ := ih last
    have length : cs.length = first.length + groups.length * 3 := by
      rw [joined, List.length_append, List.length_flatten, List.map_congr_left triples]
      simp
    by_cases full : cs.length % 3 = 0
    · have three : first.length = 3 := by omega
      refine ⟨[c], first :: groups, by simp [joined], ?_, by simp, by simp, ?_⟩
      · rw [groupThousands, if_pos ⟨last, full⟩, spelled]
        rfl
      · intro group member
        rcases List.mem_cons.mp member with rfl | later
        · exact three
        · exact triples group later
    · refine ⟨c :: first, groups, by simp [joined], ?_, by simp, ?_, triples⟩
      · rw [groupThousands, if_neg fun both => full both.2, spelled]
        rfl
      · rw [List.length_cons]
        omega

namespace WholePart

def plain (n : Nat) : WholePart where
  first := digits n
  groups := []
  first_ne_nil := digits_ne_nil n
  first_length grouped := absurd rfl grouped
  group_length := by simp
  isDigit _ member := isDigit_of_mem_digits (by simpa using member)

theorem plain_toList (n : Nat) : (plain n).toList = digits n := by
  simp [plain, toList]

theorem plain_value (n : Nat) : (plain n).value = n := by
  simp [plain, value, joined]

theorem exists_grouped (n : Nat) : ∃ w : WholePart, groupThousands (digits n) = w.toList ∧
    w.joined = digits n ∧ w.first.length ≤ 3 := by
  obtain ⟨first, groups, joined, spelled, visible, short, triples⟩ :=
    exists_groups (digits_ne_nil n)
  refine ⟨⟨first, groups, List.length_pos_iff.mp visible, fun _ => short, triples, ?_⟩, spelled,
    joined.symm, short⟩
  rw [← joined]
  exact fun c member => isDigit_of_mem_digits member

theorem value_of_joined {w : WholePart} {n : Nat} (joined : w.joined = digits n) : w.value = n := by
  rw [value, joined, digitsValue_digits]

end WholePart

theorem exists_spelling (m : Money) (dollar : Bool) {whole : List Char → List Char}
    (written : ∀ n, ∃ w : WholePart, whole (digits n) = w.toList ∧ w.value = n) :
    ∃ s : Spelling, (m.layout (if dollar then ['$'] else []) whole).toList = s.toList ∧
      s.cents = m.cents.toInt ∧ s.numeral.size = m.cents.toInt.natAbs := by
  obtain ⟨w, spelled, value⟩ := written (m.cents.toInt.natAbs / 100)
  obtain ⟨two, hundredths⟩ :=
    twoDigits_spec (n := m.cents.toInt.natAbs % 100) (Nat.mod_lt _ (by decide))
  let n : Numeral :=
    ⟨w, some (twoDigits (m.cents.toInt.natAbs % 100)), by simp [two], fun c member =>
      isDigit_of_mem_twoDigits (by simpa using member)⟩
  have size : n.size = m.cents.toInt.natAbs := by
    have places : n.hundredths = m.cents.toInt.natAbs % 100 := by
      simp [n, Numeral.hundredths, List.rightpad, two, hundredths]
    rw [Numeral.size, places, show n.whole.value = m.cents.toInt.natAbs / 100 from value]
    omega
  refine ⟨⟨decide (m.cents < 0), dollar, n⟩, ?_, ?_, size⟩
  · simp [layout, Spelling.toList, Numeral.toList, n, spelled]
  · have negative : m.cents < 0 ↔ m.cents.toInt < 0 := Int64.lt_iff_toInt_lt
    unfold Spelling.cents
    rw [size]
    by_cases below : m.cents.toInt < 0
    · simp only [negative, below, decide_true, ↓reduceIte]
      omega
    · simp only [negative, below, decide_false, Bool.false_eq_true, ↓reduceIte]
      omega

theorem exists_spelling_decimalText (m : Money) : ∃ s : Spelling,
    m.decimalText.toList = s.toList ∧ s.cents = m.cents.toInt ∧
      s.numeral.size = m.cents.toInt.natAbs :=
  m.exists_spelling false fun n =>
    ⟨.plain n, (WholePart.plain_toList n).symm, WholePart.plain_value n⟩

theorem exists_spelling_text (m : Money) : ∃ s : Spelling,
    m.text.toList = s.toList ∧ s.cents = m.cents.toInt ∧
      s.numeral.size = m.cents.toInt.natAbs :=
  m.exists_spelling true fun n =>
    let ⟨w, spelled, joined, _⟩ := WholePart.exists_grouped n
    ⟨w, spelled, WholePart.value_of_joined joined⟩

theorem natAbs_le_iff (m : Money) :
    m.cents.toInt.natAbs ≤ Int64.maxValue.toInt ↔ m.cents ≠ Int64.minValue := by
  have low := m.cents.le_toInt
  have high := m.cents.toInt_lt
  rw [ne_eq, ← Int64.toInt_inj, Int64.toInt_minValue, Int64.toInt_maxValue]
  omega

theorem ofText_of_spelling {m : Money} {text : String} {s : Spelling}
    (spelled : text.toList = s.toList) (cents : s.cents = m.cents.toInt)
    (size : s.numeral.size = m.cents.toInt.natAbs) :
    ofText text = if m.cents = Int64.minValue then .error (.invalidAmount text) else .ok m := by
  have stands : s.StandsIn text := ⟨[], [], by simp [spelled], by simp⟩
  rw [s.ofText_of_standsIn stands, size, cents, Int64.ofInt_toInt]
  by_cases least : m.cents = Int64.minValue
  · rw [if_pos least, if_neg fun fits => m.natAbs_le_iff.mp fits least]
  · rw [if_neg least, if_pos (m.natAbs_le_iff.mpr least)]

/-- Either text of an amount spells exactly its cents, and is read back as the amount; the texts of
the least amount, whose cents without sign need more than 63 bits, are refused. -/
theorem ofText_texts (m : Money) :
    (∃ s : Spelling, m.decimalText.toList = s.toList ∧ s.cents = m.cents.toInt) ∧
    (∃ s : Spelling, m.text.toList = s.toList ∧ s.cents = m.cents.toInt) ∧
    ofText m.decimalText =
      (if m.cents = Int64.minValue then .error (.invalidAmount m.decimalText) else .ok m) ∧
    ofText m.text =
      (if m.cents = Int64.minValue then .error (.invalidAmount m.text) else .ok m) := by
  obtain ⟨plain, plainText, plainCents, plainSize⟩ := m.exists_spelling_decimalText
  obtain ⟨shown, shownText, shownCents, shownSize⟩ := m.exists_spelling_text
  exact ⟨⟨plain, plainText, plainCents⟩, ⟨shown, shownText, shownCents⟩,
    ofText_of_spelling plainText plainCents plainSize,
    ofText_of_spelling shownText shownCents shownSize⟩

example : (⟨Int64.minValue⟩ : Money).text = "-$92,233,720,368,547,758.08" := by decide

end DonationPage.Money
