/-! UTF-8: the bytes of a text, their number, and the reading of bytes that need not be well formed. -/
namespace DonationPage

def utf8Length : List Char → Nat
  | [] => 0
  | c :: cs => c.utf8Size + utf8Length cs

@[simp] theorem utf8Length_nil : utf8Length [] = 0 := rfl

@[simp] theorem utf8Length_cons (c : Char) (cs : List Char) :
    utf8Length (c :: cs) = c.utf8Size + utf8Length cs := rfl

@[simp] theorem utf8Length_append (cs ds : List Char) :
    utf8Length (cs ++ ds) = utf8Length cs + utf8Length ds := by
  induction cs with
  | nil => simp
  | cons c cs ih => simp [ih, Nat.add_assoc]

private def tailByte (n : Nat) : UInt8 := UInt8.ofNat (0x80 + n % 64)

def utf8Bytes (c : Char) : List UInt8 :=
  let n := c.toNat
  if n < 0x80 then [UInt8.ofNat n]
  else if n < 0x800 then [UInt8.ofNat (0xC0 + n / 64), tailByte n]
  else if n < 0x10000 then [UInt8.ofNat (0xE0 + n / 4096), tailByte (n / 64), tailByte n]
  else [UInt8.ofNat (0xF0 + n / 262144), tailByte (n / 4096), tailByte (n / 64), tailByte n]

theorem utf8Bytes_eq (c : Char) : utf8Bytes c = String.utf8EncodeChar c := by
  have bound : c.toNat < 0x110000 := by
    rcases c.valid with low | high
    · exact Nat.lt_trans low (by decide)
    · exact high.2
  have one : c.toNat ≤ 127 ↔ c.toNat < 0x80 := Nat.lt_succ_iff.symm
  have two : c.toNat ≤ 2047 ↔ c.toNat < 0x800 := Nat.lt_succ_iff.symm
  have three : c.toNat ≤ 65535 ↔ c.toNat < 0x10000 := Nat.lt_succ_iff.symm
  simp only [utf8Bytes, String.utf8EncodeChar, Char.toNat_val, tailByte, one, two, three]
  split
  · rfl
  split
  · rw [Nat.mod_eq_of_lt (a := c.toNat / 64) (by omega), Nat.add_comm 0xC0, Nat.add_comm 0x80]
  split
  · rw [Nat.mod_eq_of_lt (a := c.toNat / 4096) (by omega)]
    simp only [Nat.add_comm]
  · rw [Nat.mod_eq_of_lt (a := c.toNat / 262144) (by omega)]
    simp only [Nat.add_comm]

def utf8Encode (cs : List Char) : List UInt8 :=
  cs.flatMap utf8Bytes

/-- What a byte announces when a character may start with it: how many bytes follow it, the bits
it carries, and the bounds of the byte after it. -/
structure Utf8Lead where
  following : Nat
  bits : Nat
  least : UInt8
  greatest : UInt8

/-- The bounds keep out overlong forms, surrogates, and numbers above the last character. -/
def Utf8Lead.ofByte? (b : UInt8) : Option Utf8Lead :=
  let n := b.toNat
  if n < 0xC2 then none
  else if n < 0xE0 then some ⟨1, n - 0xC0, 0x80, 0xBF⟩
  else if n = 0xE0 then some ⟨2, 0, 0xA0, 0xBF⟩
  else if n = 0xED then some ⟨2, 13, 0x80, 0x9F⟩
  else if n < 0xF0 then some ⟨2, n - 0xE0, 0x80, 0xBF⟩
  else if n = 0xF0 then some ⟨3, 0, 0x90, 0xBF⟩
  else if n < 0xF4 then some ⟨3, n - 0xF0, 0x80, 0xBF⟩
  else if n = 0xF4 then some ⟨3, 4, 0x80, 0x8F⟩
  else none

def replacement : Char := '\uFFFD'

/-- Where the reading of bytes stands: between two characters, or inside one, with the bytes still
owed, the bits so far, and the bounds of the next byte. -/
inductive Utf8State where
  | start
  | inside (owed : Nat) (bits : Nat) (least greatest : UInt8)

def Utf8State.lead (b : UInt8) : List Char × Utf8State :=
  if b < 0x80 then ([Char.ofNat b.toNat], .start)
  else match Utf8Lead.ofByte? b with
    | some l => ([], .inside l.following l.bits l.least l.greatest)
    | none => ([replacement], .start)

/-- Takes a byte: the characters that it ends, and where the reading then stands. A byte that
cannot go on ends an incomplete character, which becomes one replacement, and is taken anew. -/
def Utf8State.step : Utf8State → UInt8 → List Char × Utf8State
  | .start, b => lead b
  | .inside owed bits least greatest, b =>
    if least ≤ b ∧ b ≤ greatest then
      let bits := bits * 64 + b.toNat % 64
      if owed = 1 then ([Char.ofNat bits], .start) else ([], .inside (owed - 1) bits 0x80 0xBF)
    else
      let (cs, next) := lead b
      (replacement :: cs, next)

def Utf8State.read : Utf8State → List UInt8 → List Char
  | .start, [] => []
  | .inside .., [] => [replacement]
  | state, b :: bs =>
    let (cs, next) := state.step b
    cs ++ next.read bs

/-- Reads bytes as text: each longest part that begins a character and is none becomes one
replacement character, and so does each byte that begins none. -/
def utf8Decode (bytes : List UInt8) : List Char :=
  Utf8State.start.read bytes

end DonationPage
