import DonationPage.Json.Payload
import DonationPage.Proofs.Json.Reader
/-! The spellings of an integer in JSON. A number with a fraction or an exponent is never read as an
integer, nor is one of more than 64 bits; of all others the digits say which integer is read. -/
namespace DonationPage.Json

/-- Digits of an integer, of which the first is not zero unless it is the only one. -/
structure IsWhole (ds : List Char) : Prop where
  ne_nil : ds ≠ []
  digits : ∀ d ∈ ds, d.isDigit = true
  lead : ds.head? = some '0' → ds = ['0']

/-- The literal of an integer. The literal `-0` is none: it is read as a binary number. -/
inductive IntegerLiteral : List Char → Int → Prop
  | plain {ds : List Char} (whole : IsWhole ds) : IntegerLiteral ds (digitsValue ds)
  | negative {ds : List Char} (whole : IsWhole ds) (nonzero : digitsValue ds ≠ 0) :
      IntegerLiteral ('-' :: ds) (-(digitsValue ds : Int))

def EndsNumber (rest : List Char) : Prop :=
  ∀ c, rest.head? = some c → c.isDigit = false ∧ c ∉ ['.', 'e', 'E']

theorem endsNumber_nil : EndsNumber [] := nofun

theorem ofDigitChars_cons_digit (n : Nat) (c : Char) (cs : List Char) :
    Nat.ofDigitChars 10 (c :: cs) n = Nat.ofDigitChars 10 cs (n * 10 + digitsValue [c]) := by
  rw [Nat.ofDigitChars_cons, digitsValue, Nat.ofDigitChars_cons, Nat.ofDigitChars_nil]
  simp [Nat.mul_comm]

theorem le_ofDigitChars (n : Nat) (cs : List Char) : n ≤ Nat.ofDigitChars 10 cs n := by
  induction cs generalizing n with
  | nil => exact Nat.le_of_eq Nat.ofDigitChars_nil.symm
  | cons c cs ih =>
    rw [ofDigitChars_cons_digit]
    have more := ih (n * 10 + digitsValue [c])
    omega

/-- No digit is left out of a number exactly while the number stays in bounds. A number only grows
with more digits, so one that has left the bounds is not back in them at the end. -/
theorem absorb_eq {n v : Nat} {ds : List Char} (small : n < UInt64.size) :
    absorb n ds = (v, 0) ↔ v = Nat.ofDigitChars 10 ds n ∧ v < UInt64.size := by
  induction ds generalizing n with
  | nil =>
    rw [absorb, Nat.ofDigitChars_nil, Prod.mk.injEq]
    omega
  | cons c ds ih =>
    rw [absorb, ofDigitChars_cons_digit]
    split
    · next fits => exact ih fits
    · next large =>
      have more := le_ofDigitChars (n * 10 + digitsValue [c]) ds
      rw [Prod.mk.injEq, List.length_cons]
      omega

section Fractional

variable (s : Significand) (cs rest : List Char) (n : Int)

theorem toFloat_ne_int (exponent : Int) : s.toFloat exponent cs ≠ .ok (.int n, rest) := by
  unfold Significand.toFloat
  grind

theorem readExponentDigits_ne_int (negative : Bool) :
    readExponentDigits s negative cs ≠ .ok (.int n, rest) := by
  unfold readExponentDigits
  grind [toFloat_ne_int]

theorem readScale_ne_int : readScale s cs ≠ .ok (.int n, rest) := by
  unfold readScale readExponent
  grind [toFloat_ne_int, readExponentDigits_ne_int]

theorem readFraction_ne_int : readFraction s cs ≠ .ok (.int n, rest) := by
  unfold readFraction
  grind [readScale_ne_int]

end Fractional

theorem integer_eq_int {negative : Bool} {n : Nat} {i : Int} : integer negative n = .int i ↔
    negative = false ∧ i = n ∨
      negative = true ∧ n ≠ 0 ∧ i = -n ∧ Int64.minValue.toInt ≤ i := by
  have least : Int64.minValue.toInt = -(Nat.pow 2 63 : Nat) := rfl
  unfold integer
  cases negative with
  | false => simp [eq_comm]
  | true =>
    simp only [not_true_eq_false, ↓reduceIte, Bool.true_eq_false, false_and, true_and, false_or]
    split
    · next outside =>
      simp only [reduceCtorEq, false_iff]
      omega
    · next inside =>
      rw [Scalar.int.injEq]
      omega

theorem isWhole_takeWhile {c : Char} {tail : List Char} (digit : c.isDigit = true)
    (lead : ¬(c = '0' ∧ tail.head?.any Char.isDigit = true)) :
    IsWhole ((c :: tail).takeWhile Char.isDigit) := by
  rw [List.takeWhile_cons_of_pos digit]
  refine ⟨List.cons_ne_nil _ _, ?_, fun zero => ?_⟩
  · rw [← List.takeWhile_cons_of_pos digit]
    exact List.all_eq_true.mp List.all_takeWhile
  · have zero : c = '0' := by simpa using zero
    subst zero
    cases tail with
    | nil => rfl
    | cons next tail =>
      have stops : ¬next.isDigit = true := fun goes => lead ⟨rfl, by simp [goes]⟩
      rw [List.takeWhile_cons_of_neg stops]

theorem endsNumber_dropWhile {cs : List Char}
    (point : ∀ rest, cs.dropWhile Char.isDigit ≠ '.' :: rest)
    (exponent : ¬(cs.dropWhile Char.isDigit).head?.any (fun c => c = 'e' ∨ c = 'E') = true) :
    EndsNumber (cs.dropWhile Char.isDigit) := by
  intro c head
  have stops := List.head?_dropWhile_not Char.isDigit cs
  rw [head] at stops exponent
  obtain ⟨rest, left⟩ := List.head?_eq_some_iff.mp head
  have point : c ≠ '.' := fun same => point rest (same ▸ left)
  simp only [Option.any_some, decide_eq_true_eq, not_or] at exponent
  exact ⟨by simpa using stops, by simp [point, exponent]⟩

theorem exists_whole_of_readUnsigned {negative : Bool} {cs rest : List Char} {i : Int}
    (read : readUnsigned negative cs = .ok (.int i, rest)) :
    ∃ ds, cs = ds ++ rest ∧ IsWhole ds ∧ EndsNumber rest ∧ digitsValue ds < UInt64.size ∧
      integer negative (digitsValue ds) = .int i := by
  cases cs with
  | nil => cases read
  | cons c tail =>
    unfold readUnsigned at read
    dsimp only at read
    split at read
    · cases read
    split at read
    · cases read
    next digit lead =>
    cases absorbed : absorb 0 ((c :: tail).takeWhile Char.isDigit) with
    | mk value left =>
      simp only [absorbed] at read
      split at read
      · exact absurd read (readFraction_ne_int _ _ _ _)
      next point =>
      split at read
      · next whole =>
        obtain ⟨rfl, exponent⟩ := whole
        obtain ⟨same, small⟩ : value = digitsValue _ ∧ value < UInt64.size :=
          (absorb_eq (by decide)).mp absorbed
        subst same
        simp only [Except.ok.injEq, Prod.mk.injEq] at read
        obtain ⟨made, rfl⟩ := read
        exact ⟨_, List.takeWhile_append_dropWhile.symm,
          isWhole_takeWhile (Decidable.not_not.mp digit) lead,
          endsNumber_dropWhile point exponent, small, made⟩
      · exact absurd read (readScale_ne_int _ _ _ _)

theorem readUnsigned_append {ds rest : List Char} (whole : IsWhole ds) (ends : EndsNumber rest)
    (small : digitsValue ds < UInt64.size) (negative : Bool) :
    readUnsigned negative (ds ++ rest) = .ok (integer negative (digitsValue ds), rest) := by
  have head : rest = [] ∨ ∃ c more, rest = c :: more ∧ c.isDigit = false ∧
      c ≠ '.' ∧ ¬(c = 'e' ∨ c = 'E') := by
    cases rest with
    | nil => exact .inl rfl
    | cons c more =>
      have other := ends c rfl
      exact .inr ⟨c, more, rfl, other.1, by simp_all⟩
  obtain ⟨taken, left⟩ := takeWhile_isDigit_append whole.digits fun c first => (ends c first).1
  have absorbed : absorb 0 ds = (digitsValue ds, 0) := (absorb_eq (by decide)).mpr ⟨rfl, small⟩
  obtain ⟨c, tail, rfl⟩ := List.exists_cons_of_ne_nil whole.ne_nil
  have digit : c.isDigit = true := whole.digits c List.mem_cons_self
  have lead : ¬(c = '0' ∧ (tail ++ rest).head?.any Char.isDigit = true) := by
    rintro ⟨rfl, goes⟩
    obtain ⟨-, rfl⟩ := List.cons.inj (whole.lead rfl)
    obtain rfl | ⟨c, more, rfl, stops, -⟩ := head
    · cases goes
    · simp [stops] at goes
  unfold readUnsigned
  rw [List.cons_append]
  dsimp only
  rw [if_neg (not_not.mpr digit), if_neg lead, ← List.cons_append, taken, left, absorbed]
  dsimp only
  obtain rfl | ⟨c, more, rfl, -, point, exponent⟩ := head
  · rfl
  · split
    · next same => exact absurd (List.cons.inj same).1 point
    · rw [if_pos ⟨rfl, by simpa using exponent⟩]

/-- A number is read as an integer exactly when it is a literal of one that fits 64 bits. -/
theorem readNumber_eq_int {cs rest : List Char} {i : Int} :
    readNumber cs = .ok (.int i, rest) ↔ ∃ literal, cs = literal ++ rest ∧
      IntegerLiteral literal i ∧ EndsNumber rest ∧ Int64.minValue.toInt ≤ i ∧ i < UInt64.size := by
  have least : Int64.minValue.toInt = -9223372036854775808 := rfl
  have size : UInt64.size = 18446744073709551616 := rfl
  constructor
  · intro read
    unfold readNumber at read
    split at read
    · obtain ⟨ds, rfl, whole, ends, small, value⟩ := exists_whole_of_readUnsigned read
      obtain ⟨⟨⟩, -⟩ | ⟨-, nonzero, rfl, low⟩ := integer_eq_int.mp value
      exact ⟨'-' :: ds, rfl, .negative whole nonzero, ends, low, by omega⟩
    · obtain ⟨ds, rfl, whole, ends, small, value⟩ := exists_whole_of_readUnsigned read
      obtain ⟨-, rfl⟩ | ⟨⟨⟩, -⟩ := integer_eq_int.mp value
      exact ⟨ds, rfl, .plain whole, ends, by omega, by omega⟩
  · rintro ⟨literal, rfl, spelled, ends, low, high⟩
    cases spelled with
    | @plain ds whole =>
      obtain ⟨c, tail, rfl⟩ := List.exists_cons_of_ne_nil whole.ne_nil
      have digit : c.isDigit = true := whole.digits c List.mem_cons_self
      have unsigned : readNumber (c :: tail ++ rest) = readUnsigned false (c :: tail ++ rest) := by
        unfold readNumber
        split
        · next sign =>
          cases sign
          exact absurd digit (by decide)
        · rfl
      rw [unsigned, readUnsigned_append whole ends (by omega),
        integer_eq_int.mpr (.inl ⟨rfl, rfl⟩)]
    | @negative ds whole nonzero =>
      rw [List.cons_append, readNumber, readUnsigned_append whole ends (by omega),
        integer_eq_int.mpr (.inr ⟨rfl, nonzero, rfl, low⟩)]

theorem EndsNumber.of_spaces {rest : List Char} (spaces : Spaces rest) : EndsNumber rest := by
  intro c head
  have space : isSpace c = true := spaces c (List.mem_of_head? head)
  simp only [isSpace, Bool.or_eq_true, decide_eq_true_eq] at space
  rcases space with ((rfl | rfl) | rfl) | rfl <;> decide

theorem IntegerLiteral.head {literal : List Char} {i : Int} (spelled : IntegerLiteral literal i) :
    ∃ c tail, literal = c :: tail ∧ (c = '-' ∨ c.isDigit = true) := by
  cases spelled with
  | plain whole =>
    obtain ⟨c, tail, rfl⟩ := List.exists_cons_of_ne_nil whole.ne_nil
    exact ⟨c, tail, rfl, .inr (whole.digits c List.mem_cons_self)⟩
  | negative whole nonzero => exact ⟨'-', _, rfl, .inl rfl⟩

theorem isSpace_of_isDigit {c : Char} (digit : c.isDigit = true) : isSpace c = false := by
  by_contra space
  simp only [isSpace, Bool.not_eq_false, Bool.or_eq_true, decide_eq_true_eq] at space
  rcases space with ((rfl | rfl) | rfl) | rfl <;> exact absurd digit (by decide)

theorem readInteger_eq_ok {α : Type} {expected : Expected} {ofInt? : Int → Option α} {a : α}
    {cs rest : List Char} : readInteger expected ofInt? cs = .ok (a, rest) ↔
      ∃ left literal i, Spaces left ∧ cs = left ++ literal ++ rest ∧ IntegerLiteral literal i ∧
        EndsNumber rest ∧ Int64.minValue.toInt ≤ i ∧ i < UInt64.size ∧ ofInt? i = some a := by
  unfold readInteger
  constructor
  · intro read
    obtain ⟨left, spaces, joined⟩ := exists_skipSpaces cs
    dsimp only at read
    split at read
    · obtain ⟨⟨s, tail⟩, number, made⟩ := bind_eq_ok.mp read
      dsimp only at made
      split at made
      · next i =>
        split at made
        · next fits =>
          cases made
          obtain ⟨literal, taken, spelled, ends, low, high⟩ := readNumber_eq_int.mp number
          exact ⟨left, literal, i, spaces, joined.trans (by rw [taken, List.append_assoc]), spelled,
            ends, low, high, fits⟩
        · cases made
      · cases made
    · cases read
  · rintro ⟨left, literal, i, spaces, rfl, spelled, ends, low, high, fits⟩
    have number := readNumber_eq_int.mpr ⟨literal, rfl, spelled, ends, low, high⟩
    obtain ⟨c, tail, rfl, start⟩ := spelled.head
    have visible : isSpace c = false := by
      rcases start with rfl | digit
      · rfl
      · exact isSpace_of_isDigit digit
    rw [List.append_assoc, List.cons_append, skipSpaces_append spaces visible]
    dsimp only
    rw [if_pos (by simpa using start)]
    exact bind_eq_ok.mpr ⟨_, number, by simp only [fits]⟩

theorem int64_eq_some {i : Int} {a : Int64} : int64? i = some a ↔ i = a.toInt := by
  have greatest : Int64.maxValue.toInt = 9223372036854775807 := rfl
  have least : Int64.minValue.toInt = -9223372036854775808 := rfl
  unfold int64?
  constructor
  · intro fits
    split at fits
    · cases fits
      exact (Int64.toInt_ofInt_of_le (by omega) (by omega)).symm
    · cases fits
  · rintro rfl
    rw [if_pos ⟨a.minValue_le_toInt, a.toInt_le⟩, Int64.ofInt_toInt]

theorem decode_int64_eq_ok {text : String} {a : Int64} : (readPayload Int64).run text = .ok a ↔
    ∃ literal, AmongSpaces text literal ∧ IntegerLiteral literal a.toInt := by
  have read (cs rest : List Char) : readPayload Int64 cs = .ok (a, rest) ↔
      readInteger .int64 int64? cs = .ok (a, rest) := by
    refine Reader.map_eq_ok.trans ?_
    change (∃ taken, Shape.read .int64 cs = .ok (taken, rest) ∧ taken = a) ↔ _
    rw [Shape.read, exists_eq_right]
  simp only [Reader.run_eq_ok, read, readInteger_eq_ok, int64_eq_some, AmongSpaces]
  constructor
  · rintro ⟨right, ⟨left, literal, i, spaces, joined, spelled, -, -, -, rfl⟩, ends⟩
    exact ⟨literal, ⟨left, right, joined, spaces, ends⟩, spelled⟩
  · rintro ⟨literal, ⟨left, right, joined, spaces, ends⟩, spelled⟩
    have below : a.toInt < UInt64.size := Int.lt_trans a.toInt_lt (by decide)
    exact ⟨right, ⟨left, literal, _, spaces, joined, spelled, .of_spaces ends,
      a.minValue_le_toInt, below, rfl⟩, ends⟩

end DonationPage.Json
