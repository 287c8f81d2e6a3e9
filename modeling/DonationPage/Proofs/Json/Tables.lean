import DonationPage.Json.Payload
import DonationPage.Proofs.Json.Objects
/-! The grammars of texts and of tables around any grammar of their values, and what a payload of such
a shape is decoded from. -/
namespace DonationPage.Json

def SpellsText (core : List Char) (s : String) : Prop :=
  ∃ body, core = '"' :: body ++ ['"'] ∧ Spells body s.toList

/-- A table is spelled as an object of its values, the last of each key. -/
def SpellsTable {α : Type} (Spelled : List Char → α → Prop) (core : List Char) (t : Table α) : Prop :=
  ∃ body added, core = '\x7b' :: body ∧ MembersFrom Spelled true body added ∧
    t = Table.ofList added

theorem reads_readTextValue : Reads readTextValue SpellsText where
  starts := by
    rintro _ s ⟨body, rfl, -⟩
    exact ⟨'"', _, rfl, by decide⟩
  takes := by
    rintro _ rest s ⟨body, rfl, spells⟩ -
    exact readTextValue_eq_ok.mpr ⟨[], body, spaces_nil, by simp, spells⟩
  spaces cs spaces := by
    unfold readTextValue
    rw [skipSpaces_left spaces]
  sound read := by
    obtain ⟨left, body, spaces, rfl, spells⟩ := readTextValue_eq_ok.mp read
    exact ⟨left, _, spaces, by simp, body, rfl, spells⟩

section Tables

variable {α : Type} {Spelled : List Char → α → Prop} {item : Reader α}

def insertNext (item : Reader α) (key : String) (t : Table α) : Reader (Table α) := do
  readColon
  let a ← item
  return t.insert key a

theorem addsNext_insertNext :
    AddsNext item (fun key a (t : Table α) => t.insert key a) (insertNext item) := fun _ _ => rfl

theorem readTable_eq_ok (reads : Reads item Spelled) {cs rest : List Char} {t : Table α} :
    readTable item cs = .ok (t, rest) ↔
      ∃ left core, Spaces left ∧ cs = left ++ core ++ rest ∧ SpellsTable Spelled core t := by
  unfold readTable
  constructor
  · intro read
    obtain ⟨left, spaces, joined⟩ := exists_skipSpaces cs
    split at read
    · next tail skipped =>
      obtain ⟨body, added, rfl, spelled, same⟩ := (readMembers_eq_ok addsNext_insertNext reads).mp read
      exact ⟨left, '\x7b' :: body, spaces, joined.trans (by simp [skipped]), body, added, rfl,
        spelled, same⟩
    · cases read
  · rintro ⟨left, _, spaces, rfl, body, added, rfl, spelled, same⟩
    rw [List.append_assoc, List.cons_append, skipSpaces_append spaces rfl]
    exact (readMembers_eq_ok addsNext_insertNext reads).mpr ⟨body, added, rfl, spelled, same⟩

theorem reads_readTable (reads : Reads item Spelled) :
    Reads (readTable item) (SpellsTable Spelled) where
  starts := by
    rintro _ t ⟨body, added, rfl, -⟩
    exact ⟨'\x7b', _, rfl, by decide⟩
  takes spelled ends :=
    (readTable_eq_ok reads).mpr ⟨[], _, spaces_nil, (List.nil_append _).symm, spelled⟩
  spaces cs spaces := by
    unfold readTable
    rw [skipSpaces_left spaces]
  sound read := (readTable_eq_ok reads).mp read

theorem decode_eq_ok [Payload α] {Spelled : List Char → (Payload.shape α).Val → Prop}
    (reads : Reads (Payload.shape α).read Spelled) {text : String} {a : α} :
    decode α text = .ok a ↔
      ∃ core v, AmongSpaces text core ∧ Spelled core v ∧ Payload.ofVal v = a := by
  have decoded : decode α text = .ok a ↔
      ∃ v, (Payload.shape α).read.run text = .ok v ∧ Payload.ofVal v = a := by
    simp only [decode, readPayload, Reader.run_eq_ok, Reader.map_eq_ok]
    grind
  rw [decoded]
  simp only [reads.run_eq_ok]
  grind

end Tables

end DonationPage.Json
