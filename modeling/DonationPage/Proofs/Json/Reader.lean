import DonationPage.Json.Reader
import DonationPage.Proofs.Except
import Mathlib.Data.List.TakeWhile
/-! What readers take off a text: one after another, and between spaces. -/
namespace DonationPage.Json

theorem Reader.bind_eq_ok {α β : Type} {read : Reader α} {next : α → Reader β} {b : β}
    {cs rest : List Char} : (read >>= next) cs = .ok (b, rest) ↔
      ∃ a mid, read cs = .ok (a, mid) ∧ next a mid = .ok (b, rest) := by
  change (read cs).bind (fun taken => next taken.1 taken.2) = .ok (b, rest) ↔ _
  rw [DonationPage.bind_eq_ok, Prod.exists]

theorem Reader.map_eq_ok {α β : Type} {read : Reader α} {f : α → β} {b : β} {cs rest : List Char} :
    ((read cs).map fun (a, rest) => (f a, rest)) = .ok (b, rest) ↔
      ∃ a, read cs = .ok (a, rest) ∧ f a = b := by
  simp [DonationPage.map_eq_ok]

def Spaces (cs : List Char) : Prop := ∀ c ∈ cs, isSpace c = true

theorem spaces_nil : Spaces [] := nofun

theorem skipSpaces_eq_nil_iff {cs : List Char} : skipSpaces cs = [] ↔ Spaces cs := by
  rw [skipSpaces, List.dropWhile_eq_nil_iff, Spaces]

theorem skipSpaces_left {left : List Char} (spaces : Spaces left) (rest : List Char) :
    skipSpaces (left ++ rest) = skipSpaces rest := List.dropWhile_append_of_pos spaces

theorem skipSpaces_append {left : List Char} (spaces : Spaces left) {c : Char}
    (visible : isSpace c = false) (rest : List Char) :
    skipSpaces (left ++ c :: rest) = c :: rest := by
  rw [skipSpaces_left spaces, skipSpaces, List.dropWhile_cons_of_neg (by simp [visible])]

theorem skipSpaces_cons {c : Char} (visible : isSpace c = false) (rest : List Char) :
    skipSpaces (c :: rest) = c :: rest := by
  rw [skipSpaces, List.dropWhile_cons_of_neg (by simp [visible])]

theorem exists_skipSpaces (cs : List Char) : ∃ left, Spaces left ∧ cs = left ++ skipSpaces cs :=
  ⟨cs.takeWhile isSpace, List.all_eq_true.mp List.all_takeWhile,
    List.takeWhile_append_dropWhile.symm⟩

theorem skipSpaces_eq_cons_iff {cs rest : List Char} {c : Char} : skipSpaces cs = c :: rest ↔
    ∃ left, Spaces left ∧ cs = left ++ c :: rest ∧ isSpace c = false := by
  constructor
  · intro skipped
    obtain ⟨left, spaces, joined⟩ := exists_skipSpaces cs
    rw [skipped] at joined
    have visible := List.head?_dropWhile_not isSpace cs
    rw [← skipSpaces, skipped] at visible
    exact ⟨left, spaces, joined, visible⟩
  · rintro ⟨left, spaces, rfl, visible⟩
    exact skipSpaces_append spaces visible rest

def AmongSpaces (text : String) (core : List Char) : Prop :=
  ∃ left right, text.toList = left ++ core ++ right ∧ Spaces left ∧ Spaces right

theorem Reader.complete_eq_ok {α : Type} {read : Reader α} {cs : List Char} {a : α} :
    read.complete cs = .ok a ↔ ∃ rest, read cs = .ok (a, rest) ∧ Spaces rest := by
  unfold Reader.complete
  cases read cs with
  | error fault => simp
  | ok taken =>
    obtain ⟨b, rest⟩ := taken
    dsimp only
    cases left : skipSpaces rest with
    | nil =>
      have spaces := skipSpaces_eq_nil_iff.mp left
      simp only [Except.ok.injEq, Prod.mk.injEq]
      exact ⟨fun same => ⟨rest, ⟨same, rfl⟩, spaces⟩, fun ⟨_, same, _⟩ => same.1⟩
    | cons c more =>
      have visible : ¬Spaces rest := fun spaces => by
        simp [skipSpaces_eq_nil_iff.mpr spaces] at left
      simp [visible]

theorem Reader.run_eq_ok {α : Type} {read : Reader α} {text : String} {a : α} :
    read.run text = .ok a ↔ ∃ rest, read text.toList = .ok (a, rest) ∧ Spaces rest := by
  rw [Reader.run, mapError_eq_ok, Reader.complete_eq_ok]

end DonationPage.Json
