/-! Groups of dropdowns, of which one at most is open in each group. -/
namespace DonationPage

/-- What a page is to do after an event: to close one dropdown, to open one, both or nothing. -/
structure DropdownChange where
  close? : Option String
  open? : Option String
deriving DecidableEq

def DropdownChange.isNoop (change : DropdownChange) : Bool :=
  change.close?.isNone && change.open?.isNone

structure DropdownGroup where
  open? : Option String
deriving DecidableEq

inductive DropdownEvent where
  | toggle (id : String)
  | close
  | outsideClick (inside? : Option String)
deriving DecidableEq

namespace DropdownGroup

def empty : DropdownGroup := ⟨none⟩

/-- Opens a dropdown and closes the one that was open; a second time closes it. -/
def toggle (g : DropdownGroup) (id : String) : DropdownGroup × DropdownChange :=
  if g.open? = some id then (⟨none⟩, ⟨some id, none⟩) else (⟨some id⟩, ⟨g.open?, some id⟩)

def close (g : DropdownGroup) : DropdownGroup × DropdownChange := (⟨none⟩, ⟨g.open?, none⟩)

def outsideClick (g : DropdownGroup) (inside? : Option String) : DropdownGroup × DropdownChange :=
  if g.open?.isSome ∧ g.open? = inside? then (g, ⟨none, none⟩) else g.close

def handle (g : DropdownGroup) : DropdownEvent → DropdownGroup × DropdownChange
  | .toggle id => g.toggle id
  | .close => g.close
  | .outsideClick inside? => g.outsideClick inside?

end DropdownGroup

abbrev DropdownGroups := String → DropdownGroup

namespace DropdownGroups

def empty : DropdownGroups := fun _ => .empty

def handle (groups : DropdownGroups) (name : String) (event : DropdownEvent) :
    DropdownGroups × DropdownChange :=
  let (group, change) := (groups name).handle event
  (fun other => if other = name then group else groups other, change)

end DropdownGroups

end DonationPage
