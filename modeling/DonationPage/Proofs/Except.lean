import Mathlib.Data.List.Forall2
/-! Steps that may fail, taken apart: where their results and their failures come from. -/
namespace DonationPage

variable {ε α β : Type} {x : Except ε α} {b : β} {e : ε}

theorem bind_eq_ok {f : α → Except ε β} : x.bind f = .ok b ↔ ∃ a, x = .ok a ∧ f a = .ok b := by
  cases x with
  | error other => simp [Except.bind]
  | ok a => simp [Except.bind]

theorem map_eq_ok {f : α → β} : x.map f = .ok b ↔ ∃ a, x = .ok a ∧ f a = b := by
  cases x with
  | error other => simp [Except.map]
  | ok a => simp [Except.map]

theorem toOption_eq_some {a : α} : x.toOption = some a ↔ x = .ok a := by
  cases x with
  | error other => simp [Except.toOption]
  | ok a => simp [Except.toOption]

theorem mapError_eq_ok {ε' : Type} {f : ε → ε'} {a : α} : x.mapError f = .ok a ↔ x = .ok a := by
  cases x with
  | error other => exact ⟨nofun, nofun⟩
  | ok b =>
    change Except.ok b = Except.ok a ↔ _
    simp

theorem bind_eq_error {f : α → Except ε β} :
    x.bind f = .error e ↔ x = .error e ∨ ∃ a, x = .ok a ∧ f a = .error e := by
  cases x with
  | error other => simp [Except.bind]
  | ok a => simp [Except.bind]

theorem map_eq_error {f : α → β} : x.map f = .error e ↔ x = .error e := by
  cases x with
  | error other => simp [Except.map]
  | ok a => simp [Except.map]

theorem mapM_eq_ok {f : α → Except ε β} {as : List α} {bs : List β} :
    as.mapM f = .ok bs ↔ List.Forall₂ (fun a b => f a = .ok b) as bs := by
  induction as generalizing bs with
  | nil => simp [pure, Except.pure, eq_comm]
  | cons a as ih =>
    rw [List.mapM_cons, List.forall₂_cons_left_iff]
    constructor
    · intro done
      obtain ⟨b, first, others⟩ := bind_eq_ok.mp done
      obtain ⟨rest, later, same⟩ := bind_eq_ok.mp others
      cases same
      exact ⟨b, rest, first, ih.mp later, rfl⟩
    · rintro ⟨b, rest, first, later, rfl⟩
      exact bind_eq_ok.mpr ⟨b, first, bind_eq_ok.mpr ⟨rest, ih.mpr later, rfl⟩⟩

theorem mapM_eq_error {f : α → Except ε β} {as : List α} : as.mapM f = .error e ↔
    ∃ before a after, as = before ++ a :: after ∧ (∀ other ∈ before, ∃ b, f other = .ok b) ∧
      f a = .error e := by
  induction as with
  | nil => simp [pure, Except.pure]
  | cons a as ih =>
    rw [List.mapM_cons]
    refine bind_eq_error.trans ?_
    constructor
    · rintro (first | ⟨b, first, later⟩)
      · exact ⟨[], a, as, rfl, List.forall_mem_nil _, first⟩
      · rcases bind_eq_error.mp later with fails | ⟨rest, -, same⟩
        · obtain ⟨before, failing, after, rfl, fine, fails⟩ := ih.mp fails
          refine ⟨a :: before, failing, after, rfl, ?_, fails⟩
          exact List.forall_mem_cons.mpr ⟨⟨b, first⟩, fine⟩
        · cases same
    · rintro ⟨before, failing, after, same, fine, fails⟩
      cases before with
      | nil =>
        cases same
        exact .inl fails
      | cons other before =>
        cases same
        obtain ⟨⟨b, first⟩, fine⟩ := List.forall_mem_cons.mp fine
        refine .inr ⟨b, first, bind_eq_error.mpr (.inl ?_)⟩
        exact ih.mpr ⟨before, failing, after, rfl, fine, fails⟩

end DonationPage
