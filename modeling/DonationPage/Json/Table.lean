/-! Tables from texts to values, in ascending order of the keys and without a key twice. The order of
texts is that of their characters' numbers, which is also the order of their UTF-8 bytes. -/
namespace DonationPage.Json

/-- Puts a value at its key's place in a list of members; a value already there gives way. -/
def insertMember {α : Type} (key : String) (value : α) : List (String × α) → List (String × α)
  | [] => [(key, value)]
  | (k, v) :: rest =>
    if key < k then (key, value) :: (k, v) :: rest
    else if key = k then (key, value) :: rest
    else (k, v) :: insertMember key value rest

def findMember {α : Type} (key : String) : List (String × α) → Option α
  | [] => none
  | (k, v) :: rest => if key = k then some v else findMember key rest

def Ascending {α : Type} (members : List (String × α)) : Prop :=
  members.Pairwise fun a b => a.1 < b.1

private theorem key_mem_insertMember {α : Type} {key k : String} {value : α}
    {members : List (String × α)} (h : ∃ v, (k, v) ∈ insertMember key value members) :
    k = key ∨ ∃ v, (k, v) ∈ members := by
  obtain ⟨v, h⟩ := h
  induction members with
  | nil => simp_all [insertMember]
  | cons m rest ih =>
    obtain ⟨k', v'⟩ := m
    grind [insertMember]

theorem ascending_insertMember {α : Type} (key : String) (value : α)
    {members : List (String × α)} (h : Ascending members) :
    Ascending (insertMember key value members) := by
  induction members with
  | nil => simp [insertMember, Ascending]
  | cons m rest ih =>
    obtain ⟨k, v⟩ := m
    have hrest : Ascending rest := (List.pairwise_cons.1 h).2
    have hk : ∀ m ∈ rest, k < m.1 := (List.pairwise_cons.1 h).1
    unfold insertMember
    split
    · next hlt =>
      refine List.pairwise_cons.2 ⟨fun m hm => ?_, h⟩
      rcases List.mem_cons.1 hm with rfl | hm
      · exact hlt
      · exact String.lt_trans hlt (hk m hm)
    · next hlt =>
      split
      · next heq =>
        exact List.pairwise_cons.2 ⟨fun m hm => heq ▸ hk m hm, hrest⟩
      · next hne =>
        refine List.pairwise_cons.2 ⟨fun m hm => ?_, ih hrest⟩
        rcases key_mem_insertMember ⟨m.2, hm⟩ with hm | ⟨v', hm⟩
        · simp only [hm]
          exact Decidable.byContradiction fun h =>
            hne (String.le_antisymm (String.not_lt.1 h) (String.not_lt.1 hlt))
        · exact hk (m.1, v') hm

theorem findMember_insertMember {α : Type} (key : String) (value : α) (k : String)
    (members : List (String × α)) :
    findMember k (insertMember key value members) =
      if k = key then some value else findMember k members := by
  induction members with
  | nil => simp [insertMember, findMember]
  | cons m rest ih => grind [insertMember, findMember]

theorem findMember_eq_some_iff {α : Type} {key : String} {value : α} {members : List (String × α)}
    (ascending : Ascending members) :
    findMember key members = some value ↔ (key, value) ∈ members := by
  induction members with
  | nil => simp [findMember]
  | cons m rest ih =>
    obtain ⟨k, v⟩ := m
    obtain ⟨above, ascending⟩ := List.pairwise_cons.1 ascending
    rw [findMember, List.mem_cons, Prod.mk.injEq]
    by_cases same : key = k
    · have alone : (key, value) ∉ rest := fun later =>
        String.lt_irrefl k (same ▸ above (key, value) later)
      simp [same, same ▸ alone, eq_comm]
    · simp [same, ih ascending]

theorem findMember_filter {α : Type} (keep : String → Bool) (key : String)
    (members : List (String × α)) :
    findMember key (members.filter fun m => keep m.1) =
      if keep key then findMember key members else none := by
  induction members with
  | nil => simp [findMember]
  | cons m rest ih => grind [findMember]

theorem insertMember_of_below {α : Type} {key : String} {members : List (String × α)}
    (below : ∀ m ∈ members, m.1 < key) (value : α) :
    insertMember key value members = members ++ [(key, value)] := by
  induction members with
  | nil => rfl
  | cons m rest ih =>
    obtain ⟨k, v⟩ := m
    have less : k < key := below (k, v) List.mem_cons_self
    have above : ¬key < k := fun other => String.lt_irrefl k (String.lt_trans less other)
    have other : key ≠ k := fun same => String.lt_irrefl k (same ▸ less)
    rw [insertMember, if_neg above, if_neg other,
      ih fun m member => below m (List.mem_cons_of_mem (k, v) member), List.cons_append]

/-- Equal tables are those with the same value, or none, at every key. -/
structure Table (α : Type) where
  members : List (String × α)
  ascending : Ascending members

namespace Table

variable {α : Type}

instance [DecidableEq α] : DecidableEq (Table α) := fun a b =>
  decidable_of_iff (a.members = b.members) (by cases a; cases b; simp)

def empty : Table α := ⟨[], List.Pairwise.nil⟩

def insert (key : String) (value : α) (t : Table α) : Table α :=
  ⟨insertMember key value t.members, ascending_insertMember key value t.ascending⟩

def get? (t : Table α) (key : String) : Option α := findMember key t.members

theorem mem_members_iff {t : Table α} {key : String} {value : α} :
    (key, value) ∈ t.members ↔ t.get? key = some value :=
  (findMember_eq_some_iff t.ascending).symm

def size (t : Table α) : Nat := t.members.length

def ofList (members : List (String × α)) : Table α :=
  members.foldl (fun t m => t.insert m.1 m.2) empty

end Table

end DonationPage.Json
