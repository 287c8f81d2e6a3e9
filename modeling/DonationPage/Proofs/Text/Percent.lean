import DonationPage.Proofs.Text.Utf8
import DonationPage.Text.Percent
/-! Percent-encoding and back. What is written holds only characters that stand for themselves and
bytes in two digits each, and reading it gives the bytes of the text that was written. -/
namespace DonationPage

def IsUpperHex (c : Char) : Prop := c.isDigit = true ∨ 'A' ≤ c ∧ c ≤ 'F'

/-- A text of characters that may stand for themselves and of bytes, each a percent sign and two
upper-case hexadecimal digits. -/
inductive PercentEncoded (keeps : Char → Bool) : List Char → Prop
  | nil : PercentEncoded keeps []
  | kept {c : Char} {cs : List Char} (plain : keeps c = true) (rest : PercentEncoded keeps cs) :
      PercentEncoded keeps (c :: cs)
  | byte {high low : Char} {cs : List Char} (first : IsUpperHex high) (second : IsUpperHex low)
      (rest : PercentEncoded keeps cs) : PercentEncoded keeps ('%' :: high :: low :: cs)

theorem hexDigitValue_upperHexDigit {n : Nat} (digit : n < 16) :
    hexDigitValue? (upperHexDigit n) = some n := by
  revert n
  decide

theorem isUpperHex_upperHexDigit {n : Nat} (digit : n < 16) : IsUpperHex (upperHexDigit n) := by
  unfold IsUpperHex
  revert n
  decide

namespace PercentEncoded

variable {keeps : Char → Bool} {cs : List Char}

theorem bytes_append (bs : List UInt8) (rest : PercentEncoded keeps cs) :
    PercentEncoded keeps (bs.flatMap percentByte ++ cs) := by
  induction bs with
  | nil => exact rest
  | cons b bs ih =>
    have size : b.toNat < 256 := b.toNat_lt
    exact .byte (isUpperHex_upperHexDigit (by omega)) (isUpperHex_upperHexDigit (by omega)) ih

theorem mem {c : Char} (encoded : PercentEncoded keeps cs) (member : c ∈ cs) :
    keeps c = true ∨ c = '%' ∨ IsUpperHex c := by
  induction encoded with
  | nil => cases member
  | kept plain rest ih =>
    rcases List.mem_cons.mp member with rfl | later
    · exact .inl plain
    · exact ih later
  | byte first second rest ih =>
    simp only [List.mem_cons] at member
    rcases member with rfl | rfl | rfl | later
    · exact .inr (.inl rfl)
    · exact .inr (.inr first)
    · exact .inr (.inr second)
    · exact ih later

end PercentEncoded

theorem percentEncoded_percentEncode (keeps : Char → Bool) (cs : List Char) :
    PercentEncoded keeps (percentEncode keeps cs) := by
  induction cs with
  | nil => exact .nil
  | cons c cs ih =>
    rw [percentEncode, List.flatMap_cons, ← percentEncode]
    split
    · exact .kept ‹_› ih
    · exact .bytes_append _ ih

theorem percentDecode_cons {c : Char} (plain : c ≠ '%') (cs : List Char) :
    percentDecode (c :: cs) = utf8Bytes c ++ percentDecode cs := by
  rw [percentDecode]
  rintro a b rest rfl
  exact absurd rfl plain

theorem percentDecode_percentByte (b : UInt8) (cs : List Char) :
    percentDecode (percentByte b ++ cs) = b :: percentDecode cs := by
  have size : b.toNat < 256 := b.toNat_lt
  simp only [percentByte, List.cons_append, List.nil_append, percentDecode,
    hexDigitValue_upperHexDigit (show b.toNat / 16 < 16 by omega),
    hexDigitValue_upperHexDigit (show b.toNat % 16 < 16 by omega)]
  rw [Nat.div_add_mod', UInt8.ofNat_toNat]

theorem percentDecode_bytes (bs : List UInt8) (cs : List Char) :
    percentDecode (bs.flatMap percentByte ++ cs) = bs ++ percentDecode cs := by
  induction bs with
  | nil => rfl
  | cons b bs ih =>
    rw [List.flatMap_cons, List.append_assoc, percentDecode_percentByte, ih, List.cons_append]

theorem percentDecode_percentEncode {keeps : Char → Bool} (escapes : keeps '%' = false)
    (cs rest : List Char) :
    percentDecode (percentEncode keeps cs ++ rest) = utf8Encode cs ++ percentDecode rest := by
  induction cs with
  | nil => rfl
  | cons c cs ih =>
    rw [percentEncode, utf8Encode, List.flatMap_cons, List.flatMap_cons, ← percentEncode,
      ← utf8Encode, List.append_assoc, List.append_assoc, ← ih]
    split
    · rename_i plain
      exact percentDecode_cons (fun sign => by simp [sign, escapes] at plain) _
    · exact percentDecode_bytes _ _

theorem percentDecode_percentEncode_self {keeps : Char → Bool} (escapes : keeps '%' = false)
    (cs : List Char) : percentDecode (percentEncode keeps cs) = utf8Encode cs := by
  have read := percentDecode_percentEncode escapes cs []
  rwa [percentDecode, List.append_nil, List.append_nil] at read

theorem percentEncode_append (keeps : Char → Bool) (cs rest : List Char) :
    percentEncode keeps (cs ++ rest) = percentEncode keeps cs ++ percentEncode keeps rest :=
  List.flatMap_append

theorem percentEncode_of_kept {keeps : Char → Bool} {cs : List Char}
    (kept : ∀ c ∈ cs, keeps c = true) : percentEncode keeps cs = cs := by
  induction cs with
  | nil => rfl
  | cons c cs ih =>
    rw [List.forall_mem_cons] at kept
    rw [percentEncode, List.flatMap_cons, if_pos kept.1, ← percentEncode, ih kept.2]
    rfl

theorem isAlphanum_iff_toNat {c : Char} : c.isAlphanum = true ↔ 65 ≤ c.toNat ∧ c.toNat ≤ 90 ∨
    97 ≤ c.toNat ∧ c.toNat ≤ 122 ∨ 48 ≤ c.toNat ∧ c.toNat ≤ 57 := by
  have ranges : c.isAlphanum =
      ((decide (c.val ≥ 'A'.val ∧ c.val ≤ 'Z'.val) || c.val ≥ 'a'.val && c.val ≤ 'z'.val) ||
        c.val ≥ '0'.val && c.val ≤ '9'.val) := rfl
  rw [ranges]
  simp [UInt32.le_iff_toNat_le, or_assoc]

theorem isUnreserved_of_isUpperHex {c : Char} (hex : IsUpperHex c) : isUnreserved c = true := by
  have alphanumeric : c.isAlphanum = true := by
    rw [isAlphanum_iff_toNat]
    rcases hex with digit | upper
    · have range : 48 ≤ c.toNat ∧ c.toNat ≤ 57 := Char.isDigit_iff_toNat.mp digit
      omega
    · have range : 65 ≤ c.toNat ∧ c.toNat ≤ 70 := upper
      omega
  simp [isUnreserved, alphanumeric]

theorem visible_of_isUnreserved {c : Char} (plain : isUnreserved c = true) :
    ' ' < c ∧ c < '\x7f' := by
  simp only [isUnreserved, Bool.or_eq_true, decide_eq_true_eq] at plain
  rcases plain with (((alphanumeric | rfl) | rfl) | rfl) | rfl
  · rw [isAlphanum_iff_toNat] at alphanumeric
    have range : 32 < c.toNat ∧ c.toNat < 127 := by omega
    exact range
  all_goals decide

theorem isUnreserved_of_mem_encodeQueryValue {text : String} {c : Char}
    (member : c ∈ (encodeQueryValue text).toList) : isUnreserved c = true ∨ c = '%' := by
  rw [encodeQueryValue, String.toList_ofList] at member
  rcases (percentEncoded_percentEncode isUnreserved text.toList).mem member with plain | sign | hex
  · exact .inl plain
  · exact .inr sign
  · exact .inl (isUnreserved_of_isUpperHex hex)

theorem percentDecode_encodeQueryValue (text : String) :
    percentDecode (encodeQueryValue text).toList = utf8Encode text.toList := by
  rw [encodeQueryValue, String.toList_ofList, percentDecode_percentEncode_self rfl]

theorem percentDecode_sign {a b : Char}
    (other : hexDigitValue? a = none ∨ hexDigitValue? b = none) (cs : List Char) :
    percentDecode ('%' :: a :: b :: cs) = utf8Bytes '%' ++ percentDecode (a :: b :: cs) := by
  rw [percentDecode]
  rcases other with none | none
  · simp only [none]
  · simp only [none]
    split <;> simp_all

theorem percentDecode_append {c : Char} (plain : c ≠ '%') (other : hexDigitValue? c = none)
    (before after : List Char) :
    percentDecode (before ++ c :: after) =
      percentDecode before ++ (utf8Bytes c ++ percentDecode after) := by
  induction before using percentDecode.induct with
  | case1 => exact percentDecode_cons plain after
  | case2 a b cs high low first second ih =>
    simp only [List.cons_append, percentDecode, first, second, ih]
  | case3 a b cs apart ih =>
    have none : hexDigitValue? a = none ∨ hexDigitValue? b = none := by
      cases first : hexDigitValue? a with
      | none => exact .inl rfl
      | some high =>
        cases second : hexDigitValue? b with
        | none => exact .inr rfl
        | some low => exact absurd second (apart high low first)
    simp only [List.cons_append] at ih ⊢
    rw [percentDecode_sign none, percentDecode_sign none, ih, List.append_assoc]
  | case4 d cs short ih =>
    rw [List.cons_append]
    by_cases sign : d = '%'
    · subst sign
      -- A percent sign at the end has less than two digits after it, as `c` is none.
      match cs with
      | [] =>
        cases after with
        | nil => exact congrArg (utf8Bytes '%' ++ ·) ih
        | cons e after => exact (percentDecode_sign (.inl other) after).trans (congrArg _ ih)
      | [a] => exact (percentDecode_sign (.inr other) after).trans (congrArg _ ih)
      | a :: b :: cs => exact absurd rfl (short a b cs rfl)
    · rw [percentDecode_cons sign, percentDecode_cons sign, ih, List.append_assoc]

end DonationPage
