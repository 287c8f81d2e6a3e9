import DonationPage.PageTags
import DonationPage.Proofs.Json.Value
/-! What a page that is given as a file has in its elements: a text as it is, and any other value as a
text that is read as that value again. -/
namespace DonationPage

open Json

def LastAt {α : Type} (key : String) (a : α) (members : List (String × α)) : Prop :=
  ∃ earlier later, members = earlier ++ (key, a) :: later ∧ ∀ m ∈ later, m.1 ≠ key

namespace PageTags

/-- A page file spells these members, in this order, and some of them maybe under one key. The
object takes one of the levels that may be nested. -/
def Spells (text : String) (added : List (String × Value)) : Prop :=
  ∃ body, AmongSpaces text ('\x7b' :: body) ∧
    MembersFrom (Value.Spelled (Value.maxDepth - 1)) true body added

theorem run_read_object {text : String} {members : List (String × Value)} :
    Value.read.run text = .ok (.object members) ↔
      ∃ added, Spells text added ∧ members = addMembers [] added := by
  rw [Value.run_read_eq_ok]
  constructor
  · rintro ⟨_, among, spelled⟩
    cases spelled with
    | @object Inner body added nests spelled =>
      cases nests
      exact ⟨added, ⟨body, among, spelled⟩, rfl⟩
  · rintro ⟨added, ⟨body, among, spelled⟩, rfl⟩
    exact ⟨_, among, .object rfl spelled⟩

theorem source_ofJson {text : String} {added : List (String × Value)} (spells : Spells text added) :
    ∃ page, ofJson text = .ok page ∧
      ∀ id, page.source id = (findMember id (addMembers [] added)).map elementText := by
  have read := run_read_object.mpr ⟨added, spells, rfl⟩
  refine ⟨_, by rw [ofJson, read], fun id => ?_⟩
  have ascending : Ascending ((addMembers [] added).map fun m => (m.1, elementText m.2)) :=
    List.pairwise_map.mpr (ascending_addMembers .nil)
  rw [source, ofPairs, Table.get?, Table.members_ofList, ← findMember_map,
    addMembers_of_ascending ascending, List.nil_append]

theorem exists_spells {text : String} {page : PageTags} (taken : ofJson text = .ok page) :
    ∃ added, Spells text added := by
  unfold ofJson at taken
  split at taken
  · cases taken
  · next members read =>
    obtain ⟨added, spells, -⟩ := run_read_object.mp read
    exact ⟨added, spells⟩
  · cases taken

theorem elementText_eq {v : Value} (other : ∀ s, v ≠ .scalar (.text s)) :
    elementText v = String.ofList v.write := by
  unfold elementText
  split
  · next s => exact absurd rfl (other s)
  · rfl

/-- A page file that is accepted spells an object. Under the id of each of its members the page has
an element: a text stands there itself, and any other value is read there as it was given, unless it
holds a binary number. Of two members with one id the last counts. Other ids have no element. -/
theorem ofJson_elements (text : String) :
    (∀ page, ofJson text = .ok page → ∃ added, Spells text added) ∧
    ∀ added, Spells text added → ∃ page, ofJson text = .ok page ∧
      (∀ id, (∀ m ∈ added, m.1 ≠ id) → page.source id = none) ∧
      ∀ id v, LastAt id v added →
        (∀ s, v = .scalar (.text s) → page.source id = some s) ∧
        ((∀ s, v ≠ .scalar (.text s)) → v.Integral →
          page.source.read Value.read id = .ok v) := by
  refine ⟨fun page taken => exists_spells taken, fun added spells => ?_⟩
  obtain ⟨page, taken, elements⟩ := source_ofJson spells
  refine ⟨page, taken, ?_, ?_⟩
  · intro id absent
    rw [elements, findMember_of_absent absent]
    rfl
  · rintro id v ⟨earlier, later, rfl, last⟩
    have element : page.source id = some (elementText v) := by
      rw [elements, findMember_of_last last]
      rfl
    refine ⟨?_, fun other integral => ?_⟩
    · rintro s rfl
      exact element
    · obtain ⟨body, -, members⟩ := spells
      obtain ⟨core, spelled⟩ := members.exists_core (id, v) (by simp)
      have again := Value.run_read_write spelled.succ integral
      rw [TagSource.read, element, elementText_eq other]
      simp only [again]

example : ((ofJson "\x7b\"a\":\"x\", \"a\": [ 2,\"\\u0041\" ]\x7d").toOption.bind
    fun page => page.source "a") = some "[2,\"A\"]" := by decide +kernel

end PageTags

end DonationPage
