import DonationPage.Proofs.Json.Integer
import DonationPage.Proofs.Json.Text
import Mathlib.Data.List.Basic
/-! What is written for texts and integers is one of the spellings that are read: of a text with the
escapes that it needs, of an integer without a zero in front. -/
namespace DonationPage.Json

theorem writeChar_control {c : Char} (control : c.toNat < 0x20)
    (unnamed : c ∉ ['\x08', '\x0c', '\n', '\r', '\t']) :
    writeChar c = ['\\', 'u', '0', '0', Nat.digitChar (c.toNat / 16),
      Nat.digitChar (c.toNat % 16)] := by
  have table : ∀ n < 0x20, Char.ofNat n ∉ ['\x08', '\x0c', '\n', '\r', '\t'] →
      writeChar (Char.ofNat n) = ['\\', 'u', '0', '0', Nat.digitChar (n / 16),
        Nat.digitChar (n % 16)] := by
    decide
  have written := table c.toNat control
  rw [Char.ofNat_toNat] at written
  exact written unnamed

theorem fourHex_small {n : Nat} (small : n < 256) :
    FourHex ['0', '0', Nat.digitChar (n / 16), Nat.digitChar (n % 16)] n := by
  have zero : IsHexDigit '0' 0 := ⟨by decide, .inl rfl⟩
  have high : IsHexDigit (Nat.digitChar (n / 16)) (n / 16) := ⟨by omega, .inl rfl⟩
  have low : IsHexDigit (Nat.digitChar (n % 16)) (n % 16) := ⟨by omega, .inl rfl⟩
  have value : ((0 * 16 + 0) * 16 + n / 16) * 16 + n % 16 = n := by omega
  have spelled := FourHex.of zero zero high low
  rwa [value] at spelled

theorem spells_writeChar (c : Char) {body cs : List Char} (rest : Spells body cs) :
    Spells (writeChar c ++ body) (c :: cs) := by
  have short {letter : Char} (known : (letter, c) ∈ shortEscapes)
      (written : writeChar c = ['\\', letter]) : Spells (writeChar c ++ body) (c :: cs) := by
    rw [written]
    exact .escape (.short known) rest
  by_cases named : c ∈ ['"', '\\', '\x08', '\x0c', '\n', '\r', '\t']
  · simp only [List.mem_cons, List.not_mem_nil, or_false] at named
    rcases named with rfl | rfl | rfl | rfl | rfl | rfl | rfl
    all_goals exact short (by decide) rfl
  · simp only [List.mem_cons, List.not_mem_nil, or_false, not_or] at named
    obtain ⟨mark, backslash, unnamed⟩ := named
    by_cases control : c.toNat < 0x20
    · have hex : FourHex ['0', '0', Nat.digitChar (c.toNat / 16), Nat.digitChar (c.toNat % 16)]
          c.toNat := fourHex_small (by omega)
      have escape := Escape.number hex (by omega)
      rw [writeChar_control control (by simpa using unnamed)]
      rw [Char.ofNat_toNat] at escape
      exact .escape escape rest
    · have written : writeChar c = [c] := by
        simp [writeChar, mark, backslash, unnamed, control]
      rw [written]
      exact .plain (by omega) mark backslash rest

theorem spells_writeChars (cs : List Char) : Spells (cs.flatMap writeChar) cs := by
  induction cs with
  | nil => exact .nil
  | cons c cs ih =>
    rw [List.flatMap_cons]
    exact spells_writeChar c ih

theorem readText_writeChars (s : String) (rest : List Char) :
    readText (s.toList.flatMap writeChar ++ '"' :: rest) = .ok (s, rest) := by
  rw [readText_eq_ok]
  exact ⟨s.toList.flatMap writeChar, rfl, spells_writeChars s.toList⟩

theorem writeText_append (s : String) (rest : List Char) :
    writeText s ++ rest = '"' :: (s.toList.flatMap writeChar ++ '"' :: rest) := by
  simp [writeText]

theorem readTextValue_writeText (s : String) (rest : List Char) :
    readTextValue (writeText s ++ rest) = .ok (s, rest) := by
  rw [writeText_append]
  exact readText_writeChars s rest

theorem isWhole_digits (n : Nat) : IsWhole (digits n) where
  ne_nil := digits_ne_nil n
  digits _ member := isDigit_of_mem_digits member
  lead first := by
    rw [digits_lead first]
    rfl

theorem integerLiteral_digits (n : Nat) : IntegerLiteral (digits n) n := by
  have spelled := IntegerLiteral.plain (isWhole_digits n)
  rwa [digitsValue_digits] at spelled

theorem integerLiteral_intDigits (i : Int) : IntegerLiteral (intDigits i) i := by
  unfold intDigits
  split
  · next below =>
    have nonzero : digitsValue (digits i.natAbs) ≠ 0 := by
      rw [digitsValue_digits]
      omega
    have spelled := IntegerLiteral.negative (isWhole_digits i.natAbs) nonzero
    rwa [digitsValue_digits, show -(i.natAbs : Int) = i by omega] at spelled
  · next above =>
    have spelled := integerLiteral_digits i.natAbs
    rwa [show (i.natAbs : Int) = i by omega] at spelled

theorem readInteger_append {α : Type} {expected : Expected} {ofInt? : Int → Option α} {a : α}
    {literal rest : List Char} {i : Int} (spelled : IntegerLiteral literal i)
    (low : Int64.minValue.toInt ≤ i) (high : i < UInt64.size) (fits : ofInt? i = some a)
    (ends : EndsNumber rest) : readInteger expected ofInt? (literal ++ rest) = .ok (a, rest) := by
  rw [readInteger_eq_ok]
  exact ⟨[], literal, i, nofun, rfl, spelled, ends, low, high, fits⟩

theorem uint64_toNat (a : UInt64) : uint64? a.toNat = some a := by
  have below : a.toNat < UInt64.size := a.toNat_lt_size
  have size : UInt64.size = 18446744073709551616 := rfl
  have same : UInt64.ofInt a.toNat = a := by
    rw [UInt64.ofInt, Int.emod_eq_of_lt (by omega) (by omega), Int.toNat_natCast,
      UInt64.ofNat_toNat]
  unfold uint64?
  rw [if_pos (by omega), same]

end DonationPage.Json
