import DonationPage.Json.Payload
import DonationPage.Proofs.Json.Reader
/-! The spellings of a text in JSON. A character stands for itself, or is written by a letter or by a
number after a backslash; the reader takes exactly these spellings. -/
namespace DonationPage.Json

def IsHexDigit (c : Char) (n : Nat) : Prop :=
  n < 16 ∧ (c = Nat.digitChar n ∨ c = (Nat.digitChar n).toUpper)

inductive FourHex : List Char → Nat → Prop
  | of {a b c d : Char} {i j k l : Nat} (first : IsHexDigit a i) (second : IsHexDigit b j)
      (third : IsHexDigit c k) (fourth : IsHexDigit d l) :
      FourHex [a, b, c, d] (((i * 16 + j) * 16 + k) * 16 + l)

def shortEscapes : List (Char × Char) :=
  [('"', '"'), ('\\', '\\'), ('/', '/'), ('b', '\x08'), ('f', '\x0c'), ('n', '\n'), ('r', '\r'),
    ('t', '\t')]

/-- What follows a backslash, and the character it stands for. A character above U+FFFF has the
numbers of the halves that UTF-16 cuts it into. -/
inductive Escape : List Char → Char → Prop
  | short {letter c : Char} (known : (letter, c) ∈ shortEscapes) : Escape [letter] c
  | number {ds : List Char} {n : Nat} (hex : FourHex ds n) (whole : n < 0xD800 ∨ 0xDFFF < n) :
      Escape ('u' :: ds) (Char.ofNat n)
  | pair {ds es : List Char} {high low : Nat} (first : FourHex ds high) (second : FourHex es low)
      (leading : 0xD800 ≤ high ∧ high ≤ 0xDBFF) (trailing : 0xDC00 ≤ low ∧ low ≤ 0xDFFF) :
      Escape ('u' :: ds ++ '\\' :: 'u' :: es)
        (Char.ofNat ((high - 0xD800) * 0x400 + (low - 0xDC00) + 0x10000))

/-- What stands between quotation marks, and the characters it spells. -/
inductive Spells : List Char → List Char → Prop
  | nil : Spells [] []
  | plain {c : Char} {body cs : List Char} (printable : 0x20 ≤ c.toNat) (mark : c ≠ '"')
      (backslash : c ≠ '\\') (rest : Spells body cs) : Spells (c :: body) (c :: cs)
  | escape {spelling body cs : List Char} {c : Char} (escape : Escape spelling c)
      (rest : Spells body cs) : Spells ('\\' :: spelling ++ body) (c :: cs)

theorem isHexDigit_of_toNat {c : Char} {n : Nat}
    (written : n < 10 ∧ c.toNat = n + 48 ∨
      10 ≤ n ∧ n < 16 ∧ (c.toNat = n + 87 ∨ c.toNat = n + 55)) : IsHexDigit c n := by
  rw [IsHexDigit, ← Char.ofNat_toNat c]
  rcases written with ⟨small, same⟩ | ⟨large, small, same | same⟩
  all_goals
    rw [same]
    clear same
    revert n
    decide

theorem hexDigit_eq_some {c : Char} {n : Nat} : hexDigit? c = some n ↔ IsHexDigit c n := by
  constructor
  · intro value
    apply isHexDigit_of_toNat
    unfold hexDigit? at value
    split at value
    · next digit =>
      cases value
      have range : 48 ≤ c.toNat ∧ c.toNat ≤ 57 := Char.isDigit_iff_toNat.mp digit
      omega
    · split at value
      · next lower =>
        cases value
        have range : 97 ≤ c.toNat ∧ c.toNat ≤ 102 := lower
        omega
      · split at value
        · next upper =>
          cases value
          have range : 65 ≤ c.toNat ∧ c.toNat ≤ 70 := upper
          omega
        · cases value
  · rintro ⟨small, rfl | rfl⟩
    · revert n
      decide
    · revert n
      decide

theorem readFourHex_eq_ok {cs rest : List Char} {n : Nat} :
    readFourHex cs = .ok (n, rest) ↔ ∃ ds, cs = ds ++ rest ∧ FourHex ds n := by
  constructor
  · intro read
    unfold readFourHex at read
    split at read
    · split at read
      · rename_i first second third fourth
        cases read
        exact ⟨[_, _, _, _], rfl, .of (hexDigit_eq_some.mp first) (hexDigit_eq_some.mp second)
          (hexDigit_eq_some.mp third) (hexDigit_eq_some.mp fourth)⟩
      · cases read
    · cases read
  · rintro ⟨_, rfl, first, second, third, fourth⟩
    simp only [List.cons_append, List.nil_append, readFourHex, hexDigit_eq_some.mpr first,
      hexDigit_eq_some.mpr second, hexDigit_eq_some.mpr third, hexDigit_eq_some.mpr fourth]

theorem readPairPart_eq_ok {part : Char} {cs rest : List Char} :
    readPairPart part cs = .ok ((), rest) ↔ cs = part :: rest := by
  unfold readPairPart
  grind

theorem isLeadingSurrogate_iff {n : Nat} :
    isLeadingSurrogate n = true ↔ 0xD800 ≤ n ∧ n ≤ 0xDBFF := by
  simp [isLeadingSurrogate]

theorem isTrailingSurrogate_iff {n : Nat} :
    isTrailingSurrogate n = true ↔ 0xDC00 ≤ n ∧ n ≤ 0xDFFF := by
  simp [isTrailingSurrogate]

theorem readTrailing_eq_ok {high : Nat} {cs rest : List Char} {c : Char} :
    readTrailing high cs = .ok (c, rest) ↔ ∃ es low, cs = '\\' :: 'u' :: es ++ rest ∧
      FourHex es low ∧ (0xDC00 ≤ low ∧ low ≤ 0xDFFF) ∧
      c = Char.ofNat ((high - 0xD800) * 0x400 + (low - 0xDC00) + 0x10000) := by
  simp only [readTrailing, Reader.bind_eq_ok, readFourHex_eq_ok, ← isTrailingSurrogate_iff]
  constructor
  · rintro ⟨⟨⟩, _, backslash, ⟨⟩, _, letter, low, _, ⟨es, rfl, hex⟩, made⟩
    rw [readPairPart_eq_ok] at backslash letter
    split at made
    · next trailing =>
      simp only [Except.ok.injEq, Prod.mk.injEq] at made
      obtain ⟨same, rfl⟩ := made
      exact ⟨es, low, by simp [backslash, letter], hex, trailing, same.symm⟩
    · cases made
  · rintro ⟨es, low, rfl, hex, trailing, same⟩
    refine ⟨(), 'u' :: es ++ rest, readPairPart_eq_ok.mpr rfl, (), es ++ rest,
      readPairPart_eq_ok.mpr rfl, low, rest, ⟨es, rfl, hex⟩, ?_⟩
    simp only [trailing, same, ↓reduceIte]

theorem readNumberEscape_eq_ok {cs rest : List Char} {c : Char} :
    readNumberEscape cs = .ok (c, rest) ↔
      ∃ spelling, cs = spelling ++ rest ∧ Escape ('u' :: spelling) c := by
  simp only [readNumberEscape, Reader.bind_eq_ok, readFourHex_eq_ok]
  constructor
  · rintro ⟨n, mid, ⟨ds, rfl, hex⟩, made⟩
    split at made
    · next leading =>
      obtain ⟨es, low, rfl, second, trailing, same⟩ := readTrailing_eq_ok.mp made
      rw [same]
      exact ⟨ds ++ '\\' :: 'u' :: es, by simp,
        .pair hex second (isLeadingSurrogate_iff.mp leading) trailing⟩
    · next single =>
      rw [isLeadingSurrogate_iff] at single
      split at made
      · cases made
      · next whole =>
        rw [isTrailingSurrogate_iff] at whole
        simp only [Except.ok.injEq, Prod.mk.injEq] at made
        obtain ⟨same, rfl⟩ := made
        exact ⟨ds, rfl, same ▸ .number hex (by omega)⟩
  · rintro ⟨spelling, rfl, escape⟩
    cases escape with
    | short known => simp [shortEscapes] at known
    | @number ds n hex whole =>
      have single : ¬isLeadingSurrogate n = true := by
        rw [isLeadingSurrogate_iff]
        omega
      have unpaired : ¬isTrailingSurrogate n = true := by
        rw [isTrailingSurrogate_iff]
        omega
      exact ⟨n, rest, ⟨_, rfl, hex⟩, by rw [if_neg single, if_neg unpaired]⟩
    | @pair ds es high low first second leading trailing =>
      refine ⟨high, '\\' :: 'u' :: es ++ rest, ⟨ds, by simp, first⟩, ?_⟩
      rw [if_pos (isLeadingSurrogate_iff.mpr leading)]
      exact readTrailing_eq_ok.mpr ⟨es, low, rfl, second, trailing, rfl⟩

theorem escapedChar_eq_some {letter c : Char} :
    escapedChar? letter = some c ↔ (letter, c) ∈ shortEscapes := by
  constructor
  · intro known
    unfold escapedChar? at known
    split_ifs at known with own
    all_goals cases known
    · rcases own with rfl | rfl | rfl <;> decide
    all_goals simp_all [shortEscapes]
  · have known : ∀ e ∈ shortEscapes, escapedChar? e.1 = some e.2 := by decide
    exact known (letter, c)

theorem readEscape_eq_ok {cs rest : List Char} {c : Char} :
    readEscape cs = .ok (c, rest) ↔ ∃ spelling, cs = spelling ++ rest ∧ Escape spelling c := by
  constructor
  · intro read
    cases cs with
    | nil => cases read
    | cons letter tail =>
      rw [readEscape] at read
      split at read
      · next number =>
        obtain ⟨spelling, rfl, escape⟩ := readNumberEscape_eq_ok.mp read
        exact ⟨'u' :: spelling, by rw [number, List.cons_append], escape⟩
      · split at read
        · next known =>
          cases read
          exact ⟨[letter], rfl, .short (escapedChar_eq_some.mp known)⟩
        · cases read
  · rintro ⟨spelling, rfl, escape⟩
    have number {tail : List Char} (escape : Escape ('u' :: tail) c) :
        readEscape ('u' :: tail ++ rest) = .ok (c, rest) := by
      rw [List.cons_append, readEscape, if_pos rfl]
      exact readNumberEscape_eq_ok.mpr ⟨tail, rfl, escape⟩
    cases escape with
    | @short letter c known =>
      have other : letter ≠ 'u' := by
        rintro rfl
        simp [shortEscapes] at known
      rw [List.singleton_append, readEscape, if_neg other, escapedChar_eq_some.mpr known]
    | number hex whole => exact number (.number hex whole)
    | pair first second leading trailing => exact number (.pair first second leading trailing)

theorem spells_of_readCharsIn {steps : Nat} {cs rest es : List Char}
    (read : readCharsIn steps cs = .ok (es, rest)) :
    ∃ body, cs = body ++ '"' :: rest ∧ Spells body es := by
  -- On the steps and not on the characters: an escape takes more than one of these in one step.
  induction steps generalizing cs es with
  | zero => cases read
  | succ steps ih =>
    cases cs with
    | nil => cases read
    | cons c tail =>
      rw [readCharsIn] at read
      split at read
      · next mark =>
        cases read
        exact ⟨[], by rw [mark, List.nil_append], .nil⟩
      split at read
      · next backslash =>
        obtain ⟨⟨e, mid⟩, escaped, others⟩ := bind_eq_ok.mp read
        obtain ⟨⟨more, left⟩, others, made⟩ := bind_eq_ok.mp others
        cases made
        obtain ⟨spelling, rfl, escape⟩ := readEscape_eq_ok.mp escaped
        obtain ⟨body, rfl, spells⟩ := ih others
        exact ⟨'\\' :: spelling ++ body, by simp [backslash], .escape escape spells⟩
      split at read
      · cases read
      · next mark backslash printable =>
        obtain ⟨⟨more, left⟩, others, made⟩ := bind_eq_ok.mp read
        cases made
        obtain ⟨body, rfl, spells⟩ := ih others
        exact ⟨c :: body, rfl, .plain (Nat.le_of_not_lt printable) mark backslash spells⟩

theorem readCharsIn_of_spells {body es : List Char} (spells : Spells body es) (rest : List Char)
    {steps : Nat} (enough : body.length < steps) :
    readCharsIn steps (body ++ '"' :: rest) = .ok (es, rest) := by
  induction spells generalizing steps with
  | nil =>
    obtain ⟨steps, rfl⟩ := Nat.exists_eq_succ_of_ne_zero (Nat.ne_zero_of_lt enough)
    simp [readCharsIn]
  | plain printable mark backslash spells ih =>
    obtain ⟨steps, rfl⟩ := Nat.exists_eq_succ_of_ne_zero (Nat.ne_zero_of_lt enough)
    rw [List.length_cons] at enough
    rw [List.cons_append, readCharsIn, if_neg mark, if_neg backslash,
      if_neg (Nat.not_lt.mpr printable), ih (by omega)]
    rfl
  | @escape spelling body cs c escape spells ih =>
    obtain ⟨steps, rfl⟩ := Nat.exists_eq_succ_of_ne_zero (Nat.ne_zero_of_lt enough)
    simp only [List.length_append, List.length_cons] at enough
    have read : readEscape (spelling ++ (body ++ '"' :: rest)) = .ok (c, body ++ '"' :: rest) :=
      readEscape_eq_ok.mpr ⟨spelling, rfl, escape⟩
    rw [List.append_assoc, List.cons_append, readCharsIn, if_neg (by decide), if_pos rfl, read]
    change (readCharsIn steps (body ++ '"' :: rest)).bind _ = _
    rw [ih (by omega)]
    rfl

/-- A text is read up to the first quotation mark that no backslash is before. -/
theorem readText_eq_ok {cs rest : List Char} {s : String} :
    readText cs = .ok (s, rest) ↔ ∃ body, cs = body ++ '"' :: rest ∧ Spells body s.toList := by
  unfold readText
  constructor
  · intro read
    split at read
    · next es left chars =>
      cases read
      rw [String.toList_ofList]
      exact spells_of_readCharsIn chars
    · cases read
  · rintro ⟨body, rfl, spells⟩
    have enough : body.length < (body ++ '"' :: rest).length := by simp
    rw [readCharsIn_of_spells spells rest enough]
    simp only [String.ofList_toList]

theorem readTextValue_eq_ok {cs rest : List Char} {s : String} :
    readTextValue cs = .ok (s, rest) ↔ ∃ left body, Spaces left ∧
      cs = left ++ '"' :: body ++ '"' :: rest ∧ Spells body s.toList := by
  unfold readTextValue
  constructor
  · intro read
    obtain ⟨left, spaces, joined⟩ := exists_skipSpaces cs
    split at read
    · next tail skipped =>
      obtain ⟨body, rfl, spells⟩ := readText_eq_ok.mp read
      exact ⟨left, body, spaces, joined.trans (by simp [skipped]), spells⟩
    · cases read
  · rintro ⟨left, body, spaces, rfl, spells⟩
    rw [List.append_assoc, List.cons_append, skipSpaces_append spaces rfl]
    exact readText_eq_ok.mpr ⟨body, rfl, spells⟩

theorem decode_text_eq_ok {text s : String} : (readPayload String).run text = .ok s ↔
    ∃ body, AmongSpaces text ('"' :: body ++ ['"']) ∧ Spells body s.toList := by
  have read (cs rest : List Char) :
      readPayload String cs = .ok (s, rest) ↔ readTextValue cs = .ok (s, rest) := by
    refine Reader.map_eq_ok.trans ?_
    change (∃ taken, Shape.read .text cs = .ok (taken, rest) ∧ taken = s) ↔ _
    rw [Shape.read, exists_eq_right]
  simp only [Reader.run_eq_ok, read, readTextValue_eq_ok, AmongSpaces]
  constructor
  · rintro ⟨right, ⟨left, body, spaces, joined, spells⟩, ends⟩
    exact ⟨body, ⟨left, right, by simp [joined], spaces, ends⟩, spells⟩
  · rintro ⟨body, ⟨left, right, joined, spaces, ends⟩, spells⟩
    exact ⟨right, ⟨left, body, spaces, by simp [joined], spells⟩, ends⟩

end DonationPage.Json
