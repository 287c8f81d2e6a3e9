import DonationPage.Proofs.Json.Objects
/-! Objects as they are written, read again. Each member is read up to the comma or the brace after it,
whatever takes it. -/
namespace DonationPage.Json

theorem endsNumber_flatMap {α : Type} (write : α → List Char) (as : List α) (rest : List Char) :
    EndsNumber (as.flatMap (fun a => ',' :: write a) ++ '\x7d' :: rest) := by
  cases as with
  | nil => exact endsNumber_cons (by decide) rest
  | cons a as => exact endsNumber_cons (by decide) _

theorem length_lt_flatMap {α : Type} (write : α → List Char) (as : List α) (rest : List Char) :
    as.length < (as.flatMap (fun a => ',' :: write a) ++ '\x7d' :: rest).length := by
  induction as with
  | nil => simp
  | cons a as ih =>
    simp only [List.flatMap_cons, List.length_append, List.length_cons] at ih ⊢
    omega

variable {σ : Type} {member : String → σ → Reader σ}

/-- The members are read one after the other, from a first state to a last. Each is read from its
colon on. -/
inductive TakesMembers (member : String → σ → Reader σ) : σ → List (String × List Char) → σ → Prop
  | nil {s : σ} : TakesMembers member s [] s
  | cons {s next last : σ} {key : String} {value : List Char} {ms : List (String × List Char)}
      (first : ∀ rest, EndsNumber rest → member key s (':' :: (value ++ rest)) = .ok (next, rest))
      (others : TakesMembers member next ms last) :
      TakesMembers member s ((key, value) :: ms) last

theorem takesMembers_append {s last : σ} {before after : List (String × List Char)} :
    TakesMembers member s (before ++ after) last ↔
      ∃ mid, TakesMembers member s before mid ∧ TakesMembers member mid after last := by
  induction before generalizing s with
  | nil =>
    constructor
    · intro takes
      exact ⟨s, .nil, takes⟩
    · rintro ⟨_, ⟨⟩, takes⟩
      exact takes
  | cons m before ih =>
    constructor
    · rintro (_ | ⟨first, others⟩)
      obtain ⟨mid, early, late⟩ := ih.mp others
      exact ⟨mid, .cons first early, late⟩
    · rintro ⟨mid, _ | ⟨first, others⟩, late⟩
      exact .cons first (ih.mpr ⟨mid, others, late⟩)

theorem startMembers_writeMember (key : String) (value rest : List Char) :
    startMembers (writeMember key value ++ rest) = .ok (some key, ':' :: (value ++ rest)) := by
  rw [writeMember_append]
  exact startMembers_eq_some.mpr ⟨[], _, .start spaces_nil, rfl, spells_writeChars key.toList⟩

theorem nextMember_writeMember (key : String) (value rest : List Char) :
    nextMember (',' :: (writeMember key value ++ rest)) =
      .ok (some key, ':' :: (value ++ rest)) := by
  have apart : Gap false ([] ++ [',']) := .comma spaces_nil spaces_nil
  rw [writeMember_append]
  exact nextMember_eq_some.mpr ⟨_, _, apart, rfl, spells_writeChars key.toList⟩

theorem readMembersIn_flatMap {s last : σ} {ms : List (String × List Char)}
    (takes : TakesMembers member s ms last) (rest : List Char) {steps : Nat}
    (enough : ms.length < steps) :
    readMembersIn member steps false s
      (ms.flatMap (fun m => ',' :: writeMember m.1 m.2) ++ '\x7d' :: rest) = .ok (last, rest) := by
  induction takes generalizing steps with
  | nil =>
    obtain ⟨steps, rfl⟩ := Nat.exists_eq_succ_of_ne_zero (Nat.ne_zero_of_lt enough)
    rfl
  | @cons s next last key value ms first others ih =>
    obtain ⟨steps, rfl⟩ := Nat.exists_eq_succ_of_ne_zero (Nat.ne_zero_of_lt enough)
    have taken := first _ (endsNumber_flatMap (fun m => writeMember m.1 m.2) ms rest)
    rw [List.flatMap_cons, List.append_assoc, List.cons_append]
    exact readMembersIn_cons (nextMember_writeMember key value _) taken
      (ih (Nat.lt_of_succ_lt_succ enough))

theorem readMembers_separate {s last : σ} {ms : List (String × List Char)}
    (takes : TakesMembers member s ms last) (rest : List Char) :
    readMembers member s (separate (ms.map fun m => writeMember m.1 m.2) ++ '\x7d' :: rest) =
      .ok (last, rest) := by
  cases takes with
  | nil => rfl
  | @cons _ next _ key value ms first others =>
    have taken := first _ (endsNumber_flatMap (fun m => writeMember m.1 m.2) ms rest)
    have length := length_lt_flatMap (fun m => writeMember m.1 m.2) ms rest
    rw [List.map_cons, separate_cons, List.flatMap_map, List.append_assoc, readMembers]
    refine readMembersIn_cons (startMembers_writeMember key value _) taken
      (readMembersIn_flatMap others rest ?_)
    rw [List.length_append]
    omega

end DonationPage.Json
