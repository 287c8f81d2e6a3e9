import DonationPage.Text.Utf8
/-! Reading UTF-8. The bytes of a text are read back as that text, and a byte of ASCII always stands
for its own character, whatever bytes are around it. -/
namespace DonationPage

/-- The byte that carries the last six bits of a number, after the first byte of a character. -/
def tailByteOf (n : Nat) : UInt8 := UInt8.ofNat (n % 64 + 128)

theorem toNat_tailByteOf (n : Nat) : (tailByteOf n).toNat = n % 64 + 128 := by
  rw [tailByteOf, UInt8.toNat_ofNat']
  omega

theorem carried_tailByteOf (n : Nat) : (tailByteOf n).toNat % 64 = n % 64 := by
  rw [toNat_tailByteOf]
  omega

theorem tailByteOf_between {n : Nat} (low high : Nat) (byte : high < 256)
    (least : low ≤ n % 64 + 128) (greatest : n % 64 + 128 ≤ high) :
    UInt8.ofNat low ≤ tailByteOf n ∧ tailByteOf n ≤ UInt8.ofNat high := by
  rw [UInt8.le_iff_toNat_le, UInt8.le_iff_toNat_le, toNat_tailByteOf, UInt8.toNat_ofNat',
    UInt8.toNat_ofNat']
  omega

theorem tailByteOf_plain (n : Nat) : 0x80 ≤ tailByteOf n ∧ tailByteOf n ≤ 0xBF :=
  tailByteOf_between 0x80 0xBF (by decide) (by omega) (by omega)

namespace Utf8Lead

theorem ofByte_two {n : Nat} (large : 0x80 ≤ n) (small : n < 0x800) :
    ofByte? (UInt8.ofNat (n / 64 + 192)) = some ⟨1, n / 64, 0x80, 0xBF⟩ := by
  have value : (UInt8.ofNat (n / 64 + 192)).toNat = n / 64 + 192 := by
    rw [UInt8.toNat_ofNat']
    omega
  simp only [ofByte?, value]
  rw [if_neg (by omega), if_pos (by omega), Nat.add_sub_cancel]

theorem ofByte_three {n : Nat} (large : 0x800 ≤ n) (small : n < 0x10000)
    (whole : n < 0xD800 ∨ 0xDFFF < n) :
    ∃ least greatest, ofByte? (UInt8.ofNat (n / 4096 + 224)) =
      some ⟨2, n / 4096, least, greatest⟩ ∧
      least ≤ tailByteOf (n / 64) ∧ tailByteOf (n / 64) ≤ greatest := by
  have value : (UInt8.ofNat (n / 4096 + 224)).toNat = n / 4096 + 224 := by
    rw [UInt8.toNat_ofNat']
    omega
  simp only [ofByte?, value]
  rw [if_neg (by omega), if_neg (by omega)]
  by_cases first : n / 4096 = 0
  · refine ⟨0xA0, 0xBF, by simp [first], ?_⟩
    exact tailByteOf_between 0xA0 0xBF (by decide) (by omega) (by omega)
  rw [if_neg (by omega)]
  by_cases before : n / 4096 = 13
  · refine ⟨0x80, 0x9F, by simp [before], ?_⟩
    exact tailByteOf_between 0x80 0x9F (by decide) (by omega) (by omega)
  rw [if_neg (by omega), if_pos (by omega), Nat.add_sub_cancel]
  exact ⟨0x80, 0xBF, rfl, tailByteOf_plain _⟩

theorem ofByte_four {n : Nat} (large : 0x10000 ≤ n) (small : n < 0x110000) :
    ∃ least greatest, ofByte? (UInt8.ofNat (n / 262144 + 240)) =
      some ⟨3, n / 262144, least, greatest⟩ ∧
      least ≤ tailByteOf (n / 4096) ∧ tailByteOf (n / 4096) ≤ greatest := by
  have value : (UInt8.ofNat (n / 262144 + 240)).toNat = n / 262144 + 240 := by
    rw [UInt8.toNat_ofNat']
    omega
  simp only [ofByte?, value]
  rw [if_neg (by omega), if_neg (by omega), if_neg (by omega), if_neg (by omega),
    if_neg (by omega)]
  by_cases first : n / 262144 = 0
  · refine ⟨0x90, 0xBF, by simp [first], ?_⟩
    exact tailByteOf_between 0x90 0xBF (by decide) (by omega) (by omega)
  rw [if_neg (by omega)]
  by_cases last : n / 262144 = 4
  · refine ⟨0x80, 0x8F, by simp [last], ?_⟩
    exact tailByteOf_between 0x80 0x8F (by decide) (by omega) (by omega)
  rw [if_pos (by omega), Nat.add_sub_cancel]
  exact ⟨0x80, 0xBF, rfl, tailByteOf_plain _⟩

theorem le_least {b : UInt8} {l : Utf8Lead} (announced : ofByte? b = some l) :
    0x80 ≤ l.least := by
  simp only [ofByte?] at announced
  repeat' split at announced
  all_goals cases announced <;> simp

end Utf8Lead

namespace Utf8State

theorem read_ascii {b : UInt8} (ascii : b < 0x80) (bs : List UInt8) :
    start.read (b :: bs) = Char.ofNat b.toNat :: start.read bs := by
  simp only [read, step, lead, ascii, if_true, List.singleton_append]

theorem read_lead {n : Nat} {l : Utf8Lead} (multi : 0x80 ≤ n) (byte : n < 0x100)
    (announced : Utf8Lead.ofByte? (UInt8.ofNat n) = some l) (bs : List UInt8) :
    start.read (UInt8.ofNat n :: bs) =
      (inside l.following l.bits l.least l.greatest).read bs := by
  have large : ¬ UInt8.ofNat n < 0x80 := by
    rw [UInt8.lt_iff_toNat_lt, UInt8.toNat_ofNat']
    change ¬ n % 256 < 128
    omega
  simp only [read, step, lead, large, announced, if_false, List.nil_append]

section Tail

variable {n : Nat} {least greatest : UInt8}
  (within : least ≤ tailByteOf n ∧ tailByteOf n ≤ greatest) (bits : Nat) (bs : List UInt8)
include within

theorem read_tail (owed : Nat) :
    (inside (owed + 2) bits least greatest).read (tailByteOf n :: bs) =
      (inside (owed + 1) (bits * 64 + n % 64) 0x80 0xBF).read bs := by
  rw [read, step, if_pos within, carried_tailByteOf]
  rfl

theorem read_last :
    (inside 1 bits least greatest).read (tailByteOf n :: bs) =
      Char.ofNat (bits * 64 + n % 64) :: start.read bs := by
  rw [read, step, if_pos within, carried_tailByteOf]
  rfl

end Tail

theorem read_two {n : Nat} (large : 0x80 ≤ n) (small : n < 0x800) (bs : List UInt8) :
    start.read (UInt8.ofNat (n / 64 + 192) :: tailByteOf n :: bs) =
      Char.ofNat n :: start.read bs := by
  rw [read_lead (by omega) (by omega) (Utf8Lead.ofByte_two large small)]
  dsimp only
  rw [read_last (tailByteOf_plain n), Nat.div_add_mod']

theorem read_three {n : Nat} (large : 0x800 ≤ n) (small : n < 0x10000)
    (whole : n < 0xD800 ∨ 0xDFFF < n) (bs : List UInt8) :
    start.read (UInt8.ofNat (n / 4096 + 224) :: tailByteOf (n / 64) :: tailByteOf n :: bs) =
      Char.ofNat n :: start.read bs := by
  obtain ⟨least, greatest, announced, within⟩ := Utf8Lead.ofByte_three large small whole
  rw [read_lead (by omega) (by omega) announced]
  dsimp only
  rw [read_tail within, read_last (tailByteOf_plain n)]
  congr 2
  omega

theorem read_four {n : Nat} (large : 0x10000 ≤ n) (small : n < 0x110000) (bs : List UInt8) :
    start.read (UInt8.ofNat (n / 262144 + 240) :: tailByteOf (n / 4096) :: tailByteOf (n / 64) ::
      tailByteOf n :: bs) = Char.ofNat n :: start.read bs := by
  obtain ⟨least, greatest, announced, within⟩ := Utf8Lead.ofByte_four large small
  rw [read_lead (by omega) (by omega) announced]
  dsimp only
  rw [read_tail within, read_tail (tailByteOf_plain _), read_last (tailByteOf_plain n)]
  congr 2
  omega

theorem read_utf8Bytes (c : Char) (bs : List UInt8) :
    start.read (utf8Bytes c ++ bs) = c :: start.read bs := by
  have valid : c.toNat < 0xD800 ∨ 0xDFFF < c.toNat ∧ c.toNat < 0x110000 := c.valid
  have same := Char.ofNat_toNat c
  rw [utf8Bytes_eq]
  simp only [String.utf8EncodeChar, Char.toNat_val]
  split
  · have byte : (UInt8.ofNat c.toNat).toNat = c.toNat := by
      rw [UInt8.toNat_ofNat']
      omega
    have ascii : UInt8.ofNat c.toNat < 0x80 := by
      rw [UInt8.lt_iff_toNat_lt, byte]
      exact Nat.lt_succ_of_le ‹_›
    rw [List.singleton_append, read_ascii ascii, byte, same]
  split
  · rw [Nat.mod_eq_of_lt (a := c.toNat / 64) (by omega)]
    exact (read_two (by omega) (by omega) bs).trans (by rw [same])
  split
  · rw [Nat.mod_eq_of_lt (a := c.toNat / 4096) (by omega)]
    exact (read_three (by omega) (by omega) (by omega) bs).trans (by rw [same])
  · rw [Nat.mod_eq_of_lt (a := c.toNat / 262144) (by omega)]
    exact (read_four (by omega) (by omega) bs).trans (by rw [same])

/-- Inside a character no byte of ASCII can go on. -/
def Multibyte : Utf8State → Prop
  | start => True
  | inside _ _ least _ => 0x80 ≤ least

theorem multibyte_lead (b : UInt8) : (lead b).2.Multibyte := by
  unfold lead
  split
  · trivial
  · split
    · rename_i l announced
      exact Utf8Lead.le_least announced
    · trivial

theorem Multibyte.step {state : Utf8State} (multi : state.Multibyte) (b : UInt8) :
    (state.step b).2.Multibyte := by
  cases state with
  | start => exact multibyte_lead b
  | inside owed bits least greatest =>
    simp only [Utf8State.step]
    split
    · split
      · trivial
      · exact UInt8.le_refl _
    · exact multibyte_lead b

theorem Multibyte.read_append_ascii {state : Utf8State} (multi : state.Multibyte)
    (before : List UInt8) {b : UInt8} (ascii : b < 0x80) (after : List UInt8) :
    state.read (before ++ b :: after) =
      state.read before ++ Char.ofNat b.toNat :: start.read after := by
  induction before generalizing state with
  | nil =>
    cases state with
    | start => exact read_ascii ascii after
    | inside owed bits least greatest =>
      have ends : ¬ (least ≤ b ∧ b ≤ greatest) := fun within =>
        UInt8.not_lt.mpr (UInt8.le_trans multi within.1) ascii
      simp only [List.nil_append, read, Utf8State.step, if_neg ends, lead, if_pos ascii,
        List.cons_append]
  | cons first before ih =>
    simp only [List.cons_append, read, ih (multi.step first), List.append_assoc]

end Utf8State

/-- The bytes of a text are read back as the text. -/
theorem utf8Decode_utf8Encode (cs : List Char) : utf8Decode (utf8Encode cs) = cs := by
  rw [utf8Decode, utf8Encode]
  induction cs with
  | nil => rfl
  | cons c cs ih => rw [List.flatMap_cons, Utf8State.read_utf8Bytes, ih]

theorem toByteArray_utf8Encode (text : String) :
    (utf8Encode text.toList).toByteArray = text.toUTF8 := by
  rw [utf8Encode, funext utf8Bytes_eq, String.toUTF8_eq_toByteArray, ← String.utf8Encode_toList,
    List.utf8Encode]

theorem utf8Decode_append_ascii (before : List UInt8) {b : UInt8} (ascii : b < 0x80)
    (after : List UInt8) :
    utf8Decode (before ++ b :: after) =
      utf8Decode before ++ Char.ofNat b.toNat :: utf8Decode after :=
  Utf8State.Multibyte.read_append_ascii (show Utf8State.start.Multibyte from trivial) before ascii
    after

end DonationPage
