import DonationPage.Dropdown
import Mathlib.Data.Finset.Option
import Mathlib.Data.List.Induction
/-! A page that does what its groups of dropdowns tell it. Whatever happens on any of the groups, it
shows of each group the dropdown that the group holds open, and no other. -/
namespace DonationPage

/-- The dropdowns that are shown once a change is made: the closing comes before the opening. -/
def DropdownChange.apply (change : DropdownChange) (shown : Finset String) : Finset String :=
  (shown \ change.close?.toFinset) ∪ change.open?.toFinset

namespace DropdownGroup

inductive Move (g : DropdownGroup) : DropdownEvent → DropdownGroup → DropdownChange → Prop
  | opened {id : String} (other : g.open? ≠ some id) :
      Move g (.toggle id) ⟨some id⟩ ⟨g.open?, some id⟩
  | closed {event : DropdownEvent} (leaves : ∀ id, event = .toggle id → g.open? = some id) :
      Move g event ⟨none⟩ ⟨g.open?, none⟩
  | kept {id : String} (inside : g.open? = some id) :
      Move g (.outsideClick (some id)) g ⟨none, none⟩

theorem handle_move (g : DropdownGroup) (event : DropdownEvent) :
    Move g event (g.handle event).1 (g.handle event).2 := by
  cases event with
  | toggle id =>
    change Move g (.toggle id) (g.toggle id).1 (g.toggle id).2
    unfold toggle
    split
    · next same =>
      rw [← same]
      apply Move.closed
      intro other toggled
      cases toggled
      exact same
    · next other => exact .opened other
  | close => exact .closed nofun
  | outsideClick inside? =>
    change Move g (.outsideClick inside?) (g.outsideClick inside?).1 (g.outsideClick inside?).2
    unfold outsideClick
    split
    · next hit =>
      obtain ⟨isOpen, rfl⟩ := hit
      obtain ⟨id, held⟩ := Option.isSome_iff_exists.mp isOpen
      rw [held]
      exact .kept held
    · exact .closed nofun

variable {g next : DropdownGroup} {event : DropdownEvent} {change : DropdownChange}

theorem Move.apply_toFinset (move : Move g event next change) :
    change.apply g.open?.toFinset = next.open?.toFinset := by
  cases move <;> simp [DropdownChange.apply]

theorem Move.close_eq (move : Move g event next change) {id : String}
    (told : change.close? = some id) : g.open? = some id := by
  cases move with
  | opened other => exact told
  | closed leaves => exact told
  | kept inside => cases told

theorem Move.open_ne (move : Move g event next change) {id : String}
    (told : change.open? = some id) : g.open? ≠ some id := by
  cases move with
  | opened other =>
    cases told
    exact other
  | closed leaves => cases told
  | kept inside => cases told

theorem Move.isNoop_iff (move : Move g event next change) :
    change.isNoop = true ↔ next.open? = g.open? := by
  cases move with
  | opened other => simp [DropdownChange.isNoop, Ne.symm other]
  | closed leaves => cases g.open? <;> simp [DropdownChange.isNoop]
  | kept inside => simp [DropdownChange.isNoop]

theorem Move.open_eq_none {inside? : Option String}
    (move : Move g (.outsideClick inside?) next change) : change.open? = none := by
  cases move <;> rfl

end DropdownGroup

theorem toFinset_option_inj {a? b? : Option String} :
    a?.toFinset = b?.toFinset ↔ a? = b? := by
  rw [Finset.ext_iff]
  simp only [Option.mem_toFinset, Option.mem_def]
  exact (Option.ext_iff ..).symm

/-- The groups of a page, and the dropdowns that it shows of each. -/
structure DropdownPage where
  groups : DropdownGroups
  shown : String → Finset String

namespace DropdownPage

def empty : DropdownPage := ⟨.empty, fun _ => ∅⟩

def change (page : DropdownPage) (name : String) (event : DropdownEvent) : DropdownChange :=
  (page.groups.handle name event).2

def handle (page : DropdownPage) (name : String) (event : DropdownEvent) : DropdownPage where
  groups := (page.groups.handle name event).1
  shown other :=
    if other = name then (page.change name event).apply (page.shown other) else page.shown other

def after (events : List (String × DropdownEvent)) : DropdownPage :=
  events.foldl (fun page e => page.handle e.1 e.2) empty

@[simp] theorem after_concat (events : List (String × DropdownEvent)) (name : String)
    (event : DropdownEvent) :
    after (events ++ [(name, event)]) = (after events).handle name event := by
  simp [after]

variable (page : DropdownPage) (name : String) (event : DropdownEvent)

theorem handle_move : (page.groups name).Move event ((page.handle name event).groups name)
    (page.change name event) := by
  have move := (page.groups name).handle_move event
  simpa [handle, change, DropdownGroups.handle] using move

theorem handle_other {other : String} (different : other ≠ name) :
    (page.handle name event).groups other = page.groups other ∧
      (page.handle name event).shown other = page.shown other := by
  simp [handle, DropdownGroups.handle, different]

def ShowsOpen (page : DropdownPage) : Prop :=
  ∀ group, page.shown group = (page.groups group).open?.toFinset

variable {page}

theorem ShowsOpen.handle (shows : page.ShowsOpen) : (page.handle name event).ShowsOpen := by
  intro group
  by_cases same : group = name
  · subst same
    have told := (page.handle_move group event).apply_toFinset
    rw [← told, ← shows group]
    simp [DropdownPage.handle]
  · obtain ⟨groups, shown⟩ := page.handle_other name event same
    rw [groups, shown, shows group]

theorem showsOpen_after (events : List (String × DropdownEvent)) : (after events).ShowsOpen := by
  induction events using List.reverseRecOn with
  | nil => exact fun _ => rfl
  | append_singleton events e ih =>
    rw [after_concat]
    exact ih.handle e.1 e.2

/-- After any events on any groups, a page shows of each group the dropdown that is open in it. What
the group of the next event tells to close is shown, what it tells to open is not, and these are never
the same; nothing is told exactly when nothing changes. A click outside opens nothing, and no event
touches another group. -/
theorem shown_after (events : List (String × DropdownEvent)) :
    (∀ group, (after events).shown group = ((after events).groups group).open?.toFinset) ∧
    ∀ name event, let page := after events
      let next := after (events ++ [(name, event)])
      let change := page.change name event
      (∀ id, change.close? = some id → id ∈ page.shown name) ∧
      (∀ id, change.open? = some id → id ∉ page.shown name) ∧
      (∀ id, change.close? = some id → change.open? ≠ some id) ∧
      (change.isNoop = true ↔ next.shown name = page.shown name) ∧
      (∀ inside?, event = .outsideClick inside? → change.open? = none) ∧
      ∀ other, other ≠ name →
        next.groups other = page.groups other ∧ next.shown other = page.shown other := by
  refine ⟨showsOpen_after events, ?_⟩
  intro name event page next change
  have shows : page.ShowsOpen := showsOpen_after events
  have showsNext : next.ShowsOpen := showsOpen_after _
  have same : next = page.handle name event := after_concat events name event
  have move := page.handle_move name event
  rw [← same] at move
  refine ⟨fun id told => ?_, fun id told => ?_, fun id closes opens => ?_, ?_, ?_, ?_⟩
  · rw [shows name, Option.mem_toFinset]
    exact move.close_eq told
  · rw [shows name, Option.mem_toFinset]
    exact move.open_ne told
  · exact move.open_ne opens (move.close_eq closes)
  · rw [shows name, showsNext name, toFinset_option_inj]
    exact move.isNoop_iff
  · rintro inside? rfl
    exact move.open_eq_none
  · intro other different
    rw [same]
    exact page.handle_other name event different

end DropdownPage

end DonationPage
