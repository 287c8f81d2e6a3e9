/-! Decimal digits: the digits of a number, and the number that a run of digits stands for. -/
namespace DonationPage

/-- The digits of a number, the first of them not zero unless it is the only one. -/
def digits (n : Nat) : List Char := Nat.toDigits 10 n

def digitsValue (cs : List Char) : Nat := Nat.ofDigitChars 10 cs 0

def intDigits (n : Int) : List Char :=
  if n < 0 then '-' :: digits n.natAbs else digits n.natAbs

def twoDigits (n : Nat) : List Char :=
  if n < 10 then '0' :: digits n else digits n

@[simp] theorem digitsValue_nil : digitsValue [] = 0 := rfl

@[simp] theorem digitsValue_digits (n : Nat) : digitsValue (digits n) = n :=
  Nat.ofDigitChars_ten_toDigits

theorem isDigit_of_mem_digits {n : Nat} {c : Char} (h : c ∈ digits n) : c.isDigit = true :=
  Nat.isDigit_of_mem_toDigits (by decide) (by decide) h

theorem digits_ne_nil (n : Nat) : digits n ≠ [] := Nat.toDigits_ne_nil

theorem digits_lead {n : Nat} (lead : (digits n).head? = some '0') : n = 0 := by
  -- The first digit of a number is that of its tenth, down to a number of one digit.
  induction n using Nat.strongRecOn with
  | ind n ih =>
    rw [digits, Nat.toDigits_eq_if (by decide)] at lead
    split at lead
    · next small =>
      have table : ∀ n < 10, Nat.digitChar n = '0' → n = 0 := by decide
      exact table n small (by simpa using lead)
    · next large =>
      have front : (Nat.toDigits 10 (n / 10)).head?.isSome := by simp [Nat.toDigits_ne_nil]
      rw [List.head?_append, Option.or_of_isSome front] at lead
      have tenth : n / 10 = 0 := ih (n / 10) (by omega) lead
      omega

theorem takeWhile_isDigit_append {ds rest : List Char} (digits : ∀ d ∈ ds, d.isDigit = true)
    (ends : ∀ c, rest.head? = some c → c.isDigit = false) :
    (ds ++ rest).takeWhile Char.isDigit = ds ∧ (ds ++ rest).dropWhile Char.isDigit = rest := by
  rw [List.takeWhile_append_of_pos digits, List.dropWhile_append_of_pos digits]
  cases rest with
  | nil => simp
  | cons c rest => simp [ends c rfl]

theorem twoDigits_spec {n : Nat} (small : n < 100) :
    (twoDigits n).length = 2 ∧ digitsValue (twoDigits n) = n := by
  revert n
  decide

theorem isDigit_of_mem_twoDigits {n : Nat} {c : Char} (member : c ∈ twoDigits n) :
    c.isDigit = true := by
  unfold twoDigits at member
  split at member
  · rcases List.mem_cons.mp member with rfl | digit
    · rfl
    · exact isDigit_of_mem_digits digit
  · exact isDigit_of_mem_digits member

theorem minus_not_mem_digits (n : Nat) : '-' ∉ digits n := fun minus =>
  absurd (isDigit_of_mem_digits minus) (by decide)

theorem intDigits_inj {a b : Int} : intDigits a = intDigits b ↔ a = b := by
  constructor
  · intro same
    have value {m n : Nat} (equal : digits m = digits n) : m = n := by
      rw [← digitsValue_digits m, equal, digitsValue_digits]
    unfold intDigits at same
    split at same
    · split at same
      · have size := value (List.cons.inj same).2
        omega
      · exact absurd (same ▸ List.mem_cons_self) (minus_not_mem_digits b.natAbs)
    · split at same
      · exact absurd (same ▸ List.mem_cons_self) (minus_not_mem_digits a.natAbs)
      · have size := value same
        omega
  · rintro rfl
    rfl

end DonationPage
