import DonationPage.Proofs.Json.Integer
/-! Where numbers end. What the reader takes off a text for a number, it takes alike off every text
in which nothing goes on with the number behind it. -/
namespace DonationPage.Json

/-- The part of a text that the reader takes is read alike before whatever ends a number. -/
def TakesNumber (read : Reader Scalar) : Prop :=
  ∀ cs s rest, read cs = .ok (s, rest) → ∃ core, cs = core ++ rest ∧
    ∀ other, EndsNumber other → read (core ++ other) = .ok (s, other)

theorem EndsNumber.stops {rest : List Char} (ends : EndsNumber rest) :
    ∀ c, rest.head? = some c → c.isDigit = false :=
  fun c first => (ends c first).1

def digitsThen (next : List Char → Reader Scalar) : Reader Scalar := fun cs =>
  match cs with
  | [] => .error (.atEnd .endInValue)
  | c :: _ =>
    if ¬ c.isDigit then .error (.on .invalidNumber cs)
    else next (cs.takeWhile Char.isDigit) (cs.dropWhile Char.isDigit)

section Digits

variable {next : List Char → Reader Scalar} {cs : List Char}

theorem digit_of_digitsThen {taken : Scalar × List Char} (read : digitsThen next cs = .ok taken) :
    ∃ c tail, cs = c :: tail ∧ c.isDigit = true := by
  unfold digitsThen at read
  split at read
  · cases read
  · next c tail =>
    split at read
    · cases read
    · next digit => exact ⟨c, tail, rfl, not_not.mp digit⟩

theorem digitsThen_append {ds rest : List Char} (nonempty : ds ≠ [])
    (digits : ∀ d ∈ ds, d.isDigit = true)
    (stops : ∀ c, rest.head? = some c → c.isDigit = false) :
    digitsThen next (ds ++ rest) = next ds rest := by
  obtain ⟨taken, left⟩ := takeWhile_isDigit_append digits stops
  obtain ⟨c, tail, rfl⟩ := List.exists_cons_of_ne_nil nonempty
  have digit : c.isDigit = true := digits c List.mem_cons_self
  unfold digitsThen
  rw [taken, left, List.cons_append]
  exact if_neg (not_not.mpr digit)

theorem takesNumber_digitsThen (takes : ∀ ds, TakesNumber (next ds)) :
    TakesNumber (digitsThen next) := by
  intro cs s rest taken
  obtain ⟨ds, left, rfl, nonempty, digits, stops⟩ : ∃ ds left, cs = ds ++ left ∧ ds ≠ [] ∧
      (∀ d ∈ ds, d.isDigit = true) ∧ ∀ c, left.head? = some c → c.isDigit = false := by
    refine ⟨cs.takeWhile Char.isDigit, cs.dropWhile Char.isDigit,
      List.takeWhile_append_dropWhile.symm, ?_, List.all_eq_true.mp List.all_takeWhile, ?_⟩
    · obtain ⟨c, tail, rfl, digit⟩ := digit_of_digitsThen taken
      rw [List.takeWhile_cons_of_pos digit]
      exact List.cons_ne_nil _ _
    · intro c head
      have stops := List.head?_dropWhile_not Char.isDigit cs
      rw [head] at stops
      simpa using stops
  rw [digitsThen_append nonempty digits stops] at taken
  obtain ⟨core, rfl, again⟩ := takes ds left s rest taken
  refine ⟨ds ++ core, (List.append_assoc ..).symm, fun other ends => ?_⟩
  have stopped : ∀ c, (core ++ other).head? = some c → c.isDigit = false := by
    cases core with
    | nil => exact ends.stops
    | cons d core => exact stops
  rw [List.append_assoc, digitsThen_append nonempty digits stopped]
  exact again other ends

end Digits

theorem eq_of_toFloat {s : Significand} {exponent : Int} {cs rest : List Char} {x : Scalar}
    (taken : s.toFloat exponent cs = .ok (x, rest)) :
    cs = rest ∧ ∀ other, s.toFloat exponent other = .ok (x, other) := by
  unfold Significand.toFloat at taken ⊢
  split at taken
  · cases taken
    exact ⟨rfl, fun other => rfl⟩
  · cases taken

def endExponent (s : Significand) (negative : Bool) (ds : List Char) : Reader Scalar := fun rest =>
  match exponentValue 0 ds with
  | .ok e => s.toFloat (if negative then -e else e) rest
  | .error left =>
    if s.value ≠ 0 ∧ ¬ negative then .error (.before .numberOutOfRange (left ++ rest))
    else .ok (.float (s.signed 0), rest)

theorem takesNumber_endExponent (s : Significand) (negative : Bool) (ds : List Char) :
    TakesNumber (endExponent s negative ds) := by
  intro cs x rest taken
  unfold endExponent at taken ⊢
  split at taken
  · obtain ⟨rfl, again⟩ := eq_of_toFloat taken
    exact ⟨[], rfl, fun other _ => again other⟩
  · split at taken
    · cases taken
    · next bounded =>
      cases taken
      exact ⟨[], rfl, fun other _ => if_neg bounded⟩

theorem readExponentDigits_eq (s : Significand) (negative : Bool) :
    readExponentDigits s negative = digitsThen (endExponent s negative) := rfl

theorem takesNumber_readExponentDigits (s : Significand) (negative : Bool) :
    TakesNumber (readExponentDigits s negative) := by
  rw [readExponentDigits_eq]
  exact takesNumber_digitsThen (takesNumber_endExponent s negative)

theorem TakesNumber.exists_head {read : Reader Scalar} (takes : TakesNumber read)
    (empty : ∀ taken, read [] ≠ .ok taken) {cs rest : List Char} {s : Scalar}
    (taken : read cs = .ok (s, rest)) : ∃ c core, cs = c :: core ++ rest ∧
      ∀ other, EndsNumber other → read (c :: core ++ other) = .ok (s, other) := by
  obtain ⟨core, rfl, again⟩ := takes cs s rest taken
  cases core with
  | nil => exact absurd (again [] endsNumber_nil) (empty _)
  | cons c core => exact ⟨c, core, rfl, again⟩

theorem takesNumber_readExponent (s : Significand) : TakesNumber (readExponent s) := by
  intro cs x rest taken
  unfold readExponent at taken
  split at taken
  · obtain ⟨core, rfl, again⟩ := takesNumber_readExponentDigits s false _ x rest taken
    exact ⟨'+' :: core, rfl, again⟩
  · obtain ⟨core, rfl, again⟩ := takesNumber_readExponentDigits s true _ x rest taken
    exact ⟨'-' :: core, rfl, again⟩
  · next plus minus =>
    obtain ⟨c, core, rfl, again⟩ :=
      (takesNumber_readExponentDigits s false).exists_head nofun taken
    refine ⟨c :: core, rfl, fun other ends => ?_⟩
    unfold readExponent
    split
    · next same =>
      obtain rfl := (List.cons.inj same).1
      exact absurd rfl (plus _)
    · next same =>
      obtain rfl := (List.cons.inj same).1
      exact absurd rfl (minus _)
    · exact again other ends

theorem takesNumber_readScale (s : Significand) : TakesNumber (readScale s) := by
  intro cs x rest taken
  unfold readScale at taken
  split at taken
  · obtain ⟨core, rfl, again⟩ := takesNumber_readExponent s _ x rest taken
    exact ⟨'e' :: core, rfl, again⟩
  · obtain ⟨core, rfl, again⟩ := takesNumber_readExponent s _ x rest taken
    exact ⟨'E' :: core, rfl, again⟩
  · obtain ⟨rfl, again⟩ := eq_of_toFloat taken
    refine ⟨[], rfl, fun other ends => ?_⟩
    rw [List.nil_append, readScale]
    · exact again other
    · rintro tail rfl
      exact absurd (ends 'e' rfl).2 (by decide)
    · rintro tail rfl
      exact absurd (ends 'E' rfl).2 (by decide)

def endFraction (s : Significand) (ds : List Char) : Reader Scalar :=
  let (value, left) := absorb s.value ds
  readScale { s with value, exponent := s.exponent - (ds.length - left : Nat) }

theorem readFraction_eq (s : Significand) : readFraction s = digitsThen (endFraction s) := rfl

theorem takesNumber_readFraction (s : Significand) : TakesNumber (readFraction s) := by
  rw [readFraction_eq]
  exact takesNumber_digitsThen fun ds => takesNumber_readScale _

def endUnsigned (negative : Bool) (ds : List Char) : Reader Scalar := fun rest =>
  let (value, left) := absorb 0 ds
  let s : Significand := ⟨negative, value, left⟩
  if ds.head? = some '0' ∧ ds ≠ ['0'] then .error (.on .invalidNumber (ds.drop 1 ++ rest))
  else match rest with
  | '.' :: rest => readFraction s rest
  | 'e' :: rest => readExponent s rest
  | 'E' :: rest => readExponent s rest
  | _ => if left = 0 then .ok (integer negative value, rest) else s.toFloat 0 rest

theorem takesNumber_endUnsigned (negative : Bool) (ds : List Char) :
    TakesNumber (endUnsigned negative ds) := by
  intro cs x rest taken
  unfold endUnsigned at taken ⊢
  cases absorbed : absorb 0 ds with
  | mk value left =>
    simp only [absorbed] at taken ⊢
    split at taken
    · cases taken
    next lead =>
    simp only [lead, ↓reduceIte]
    split at taken
    · obtain ⟨core, rfl, again⟩ := takesNumber_readFraction _ _ x rest taken
      exact ⟨'.' :: core, rfl, again⟩
    · obtain ⟨core, rfl, again⟩ := takesNumber_readExponent _ _ x rest taken
      exact ⟨'e' :: core, rfl, again⟩
    · obtain ⟨core, rfl, again⟩ := takesNumber_readExponent _ _ x rest taken
      exact ⟨'E' :: core, rfl, again⟩
    · obtain ⟨rfl, again⟩ : cs = rest ∧ ∀ other,
          (if left = 0 then Except.ok (integer negative value, other)
            else Significand.toFloat ⟨negative, value, left⟩ 0 other) = .ok (x, other) := by
        by_cases whole : left = 0
        · simp only [whole, ↓reduceIte] at taken ⊢
          cases taken
          exact ⟨rfl, fun other => rfl⟩
        · simp only [whole, ↓reduceIte] at taken ⊢
          exact eq_of_toFloat taken
      refine ⟨[], rfl, fun other ends => ?_⟩
      dsimp only [List.nil_append]
      split
      · exact absurd (ends '.' rfl).2 (by decide)
      · exact absurd (ends 'e' rfl).2 (by decide)
      · exact absurd (ends 'E' rfl).2 (by decide)
      · exact again other

theorem readUnsigned_eq (negative : Bool) :
    readUnsigned negative = digitsThen (endUnsigned negative) := by
  funext cs
  cases cs with
  | nil => rfl
  | cons c tail =>
    by_cases digit : c.isDigit = true
    · -- A digit after the first shows in the digits that are taken.
      have lead : (c = '0' ∧ tail.head?.any Char.isDigit = true) ↔
          ((c :: tail.takeWhile Char.isDigit).head? = some '0' ∧
            c :: tail.takeWhile Char.isDigit ≠ ['0']) := by
        cases tail with
        | nil => simp
        | cons d tail => cases known : d.isDigit <;> simp [known]
      unfold readUnsigned digitsThen endUnsigned
      rw [List.takeWhile_cons_of_pos digit, List.dropWhile_cons_of_pos digit]
      simp only [digit, lead, not_true_eq_false, ↓reduceIte, List.drop_one, List.tail_cons,
        List.takeWhile_append_dropWhile]
      congr 1
      cases tail.dropWhile Char.isDigit with
      | nil => simp [readScale]
      | cons d rest =>
        by_cases mark : d ∈ ['.', 'e', 'E']
        · simp only [List.mem_cons, List.not_mem_nil, or_false] at mark
          rcases mark with rfl | rfl | rfl <;> simp [readScale]
        · simp_all [readScale]
    · simp [readUnsigned, digitsThen, digit]

theorem takesNumber_readUnsigned (negative : Bool) : TakesNumber (readUnsigned negative) := by
  rw [readUnsigned_eq]
  exact takesNumber_digitsThen (takesNumber_endUnsigned negative)

theorem takesNumber_readNumber : TakesNumber readNumber := by
  intro cs x rest taken
  unfold readNumber at taken
  split at taken
  · obtain ⟨core, rfl, again⟩ := takesNumber_readUnsigned true _ x rest taken
    exact ⟨'-' :: core, rfl, again⟩
  · next plain =>
    obtain ⟨c, core, rfl, again⟩ := (takesNumber_readUnsigned false).exists_head nofun taken
    refine ⟨c :: core, rfl, fun other ends => ?_⟩
    rw [readNumber]
    · exact again other ends
    · intro tail same
      obtain rfl := (List.cons.inj same).1
      exact plain _ rfl

def SpellsNumber (core : List Char) (s : Scalar) : Prop := readNumber core = .ok (s, [])

theorem exists_spellsNumber {cs rest : List Char} {s : Scalar}
    (taken : readNumber cs = .ok (s, rest)) : ∃ core, cs = core ++ rest ∧ SpellsNumber core s := by
  obtain ⟨core, rfl, again⟩ := takesNumber_readNumber cs s rest taken
  have whole := again [] endsNumber_nil
  rw [List.append_nil] at whole
  exact ⟨core, rfl, whole⟩

theorem SpellsNumber.append {core : List Char} {s : Scalar} (spelled : SpellsNumber core s)
    {rest : List Char} (ends : EndsNumber rest) : readNumber (core ++ rest) = .ok (s, rest) := by
  obtain ⟨_, same, again⟩ := takesNumber_readNumber core s [] spelled
  rw [List.append_nil] at same
  exact same ▸ again rest ends

theorem SpellsNumber.head {core : List Char} {s : Scalar} (spelled : SpellsNumber core s) :
    ∃ c tail, core = c :: tail ∧ (c = '-' ∨ c.isDigit = true) := by
  unfold SpellsNumber readNumber at spelled
  split at spelled
  · exact ⟨'-', _, rfl, .inl rfl⟩
  · rw [readUnsigned_eq] at spelled
    obtain ⟨c, tail, rfl, digit⟩ := digit_of_digitsThen spelled
    exact ⟨c, tail, rfl, .inr digit⟩

end DonationPage.Json
