import DonationPage.Json.Value
import DonationPage.Proofs.Json.Lists
import DonationPage.Proofs.Json.Writing
/-! The grammar of objects around any grammar of their values. The reader of objects takes exactly
what the grammar spells, and keeps the last value of each key. -/
namespace DonationPage.Json

/-- What is left of an object, and its members as they stand in it, two of one key included. -/
inductive MembersFrom {α : Type} (Spelled : List Char → α → Prop) :
    Bool → List Char → List (String × α) → Prop
  | close {first : Bool} {left : List Char} (spaces : Spaces left) :
      MembersFrom Spelled first (left ++ ['\x7d']) []
  | member {first : Bool} {gap body left right core tail : List Char} {key : String} {a : α}
      {ms : List (String × α)} (apart : Gap first gap) (spells : Spells body key.toList)
      (before : Spaces left) (after : Spaces right) (spelled : Spelled core a)
      (others : MembersFrom Spelled false tail ms) :
      MembersFrom Spelled first
        (gap ++ '"' :: body ++ '"' :: left ++ ':' :: right ++ core ++ tail) ((key, a) :: ms)

theorem readKey_eq_ok {cs rest : List Char} {key : String} : readKey cs = .ok (key, rest) ↔
    ∃ body, cs = '"' :: body ++ '"' :: rest ∧ Spells body key.toList := by
  constructor
  · intro read
    unfold readKey at read
    split at read
    · obtain ⟨body, rfl, spells⟩ := readText_eq_ok.mp read
      exact ⟨body, rfl, spells⟩
    · cases read
  · rintro ⟨body, rfl, spells⟩
    exact readText_eq_ok.mpr ⟨body, rfl, spells⟩

theorem startMembers_eq_none {cs rest : List Char} : startMembers cs = .ok (none, rest) ↔
    ∃ left, Spaces left ∧ cs = left ++ '\x7d' :: rest := by
  refine mark_eq_ok (by decide) fun c tail => ?_
  split
  · next close => simp [close]
  · next other => simp [other, Reader.map_eq_ok]

theorem nextMember_eq_none {cs rest : List Char} : nextMember cs = .ok (none, rest) ↔
    ∃ left, Spaces left ∧ cs = left ++ '\x7d' :: rest := by
  refine mark_eq_ok (by decide) fun c tail => ?_
  split
  · next close => simp [close]
  · next other =>
    simp only [other, false_and, iff_false]
    intro taken
    split at taken
    · cases taken
    split at taken
    · cases taken
    split at taken
    · cases taken
    · simp [Reader.map_eq_ok] at taken

theorem startMembers_eq_some {cs rest : List Char} {key : String} :
    startMembers cs = .ok (some key, rest) ↔ ∃ gap body, Gap true gap ∧
      cs = gap ++ '"' :: body ++ '"' :: rest ∧ Spells body key.toList := by
  refine afterSpaces_eq_ok.trans ?_
  constructor
  · rintro ⟨left, c, tail, spaces, rfl, -, taken⟩
    split at taken
    · cases taken
    · obtain ⟨other, taken, same⟩ := Reader.map_eq_ok.mp taken
      cases same
      obtain ⟨body, same, spells⟩ := readKey_eq_ok.mp taken
      exact ⟨left, body, .start spaces, by simp [same], spells⟩
  · rintro ⟨gap, body, ⟨spaces⟩, rfl, spells⟩
    refine ⟨gap, '"', body ++ '"' :: rest, spaces, by simp, by decide, ?_⟩
    exact Reader.map_eq_ok.mpr ⟨key, readKey_eq_ok.mpr ⟨body, rfl, spells⟩, rfl⟩

theorem nextMember_eq_some {cs rest : List Char} {key : String} :
    nextMember cs = .ok (some key, rest) ↔ ∃ gap body, Gap false gap ∧
      cs = gap ++ '"' :: body ++ '"' :: rest ∧ Spells body key.toList := by
  refine (comma_eq_ok ?_ ?_).trans ?_
  · exact nofun
  · decide
  constructor
  · rintro ⟨gap, d, tail, apart, rfl, -, taken⟩
    split at taken
    · cases taken
    · obtain ⟨other, taken, same⟩ := Reader.map_eq_ok.mp taken
      cases same
      obtain ⟨body, same, spells⟩ := readKey_eq_ok.mp taken
      exact ⟨gap, body, apart, by simp [same], spells⟩
  · rintro ⟨gap, body, apart, rfl, spells⟩
    refine ⟨gap, '"', body ++ '"' :: rest, apart, by simp, by decide, ?_⟩
    exact Reader.map_eq_ok.mpr ⟨key, readKey_eq_ok.mpr ⟨body, rfl, spells⟩, rfl⟩

theorem noMember_iff {first : Bool} {cs rest : List Char} :
    (if first then startMembers else nextMember) cs = .ok (none, rest) ↔
      ∃ left, Spaces left ∧ cs = left ++ '\x7d' :: rest := by
  cases first with
  | false => exact nextMember_eq_none
  | true => exact startMembers_eq_none

theorem aMember_iff {first : Bool} {cs rest : List Char} {key : String} :
    (if first then startMembers else nextMember) cs = .ok (some key, rest) ↔
      ∃ gap body, Gap first gap ∧ cs = gap ++ '"' :: body ++ '"' :: rest ∧
        Spells body key.toList := by
  cases first with
  | false => exact nextMember_eq_some
  | true => exact startMembers_eq_some

/-- Members added to others one after the other; of two of one key the later counts. -/
def addMembers {α : Type} (members : List (String × α)) (added : List (String × α)) :
    List (String × α) :=
  added.foldl (fun members m => insertMember m.1 m.2 members) members

section Added

variable {α : Type} {members added : List (String × α)}

theorem mem_insertMember {key : String} {a : α} {m : String × α}
    (member : m ∈ insertMember key a members) : m = (key, a) ∨ m ∈ members := by
  induction members with
  | nil => simpa [insertMember] using member
  | cons other members ih => grind [insertMember]

theorem mem_addMembers {m : String × α} (member : m ∈ addMembers members added) :
    m ∈ members ∨ m ∈ added := by
  induction added generalizing members with
  | nil => exact .inl member
  | cons first added ih =>
    rcases ih member with inserted | later
    · rcases mem_insertMember inserted with rfl | before
      · exact .inr List.mem_cons_self
      · exact .inl before
    · exact .inr (List.mem_cons_of_mem first later)

theorem ascending_addMembers (ascending : Ascending members) :
    Ascending (addMembers members added) := by
  induction added generalizing members with
  | nil => exact ascending
  | cons first added ih => exact ih (ascending_insertMember first.1 first.2 ascending)

theorem addMembers_of_ascending (ascending : Ascending (members ++ added)) :
    addMembers members added = members ++ added := by
  induction added generalizing members with
  | nil => exact (List.append_nil members).symm
  | cons first added ih =>
    have below : ∀ m ∈ members, m.1 < first.1 := fun m member =>
      (List.pairwise_append.mp ascending).2.2 m member first List.mem_cons_self
    rw [List.append_cons] at ascending ⊢
    change addMembers (insertMember first.1 first.2 members) added = _
    rw [insertMember_of_below below]
    exact ih ascending

theorem findMember_of_absent {key : String} (absent : ∀ m ∈ added, m.1 ≠ key) :
    findMember key (addMembers members added) = findMember key members := by
  induction added generalizing members with
  | nil => rfl
  | cons first added ih =>
    have other : key ≠ first.1 := (absent first List.mem_cons_self).symm
    have later : findMember key (addMembers (insertMember first.1 first.2 members) added) =
        findMember key (insertMember first.1 first.2 members) :=
      ih fun m member => absent m (List.mem_cons_of_mem first member)
    rw [findMember_insertMember, if_neg other] at later
    exact later

theorem findMember_of_last {key : String} {a : α} {earlier later : List (String × α)}
    (last : ∀ m ∈ later, m.1 ≠ key) :
    findMember key (addMembers members (earlier ++ (key, a) :: later)) = some a := by
  have split : addMembers members (earlier ++ (key, a) :: later) =
      addMembers (insertMember key a (addMembers members earlier)) later := by
    simp [addMembers]
  rw [split, findMember_of_absent last, findMember_insertMember, if_pos rfl]

theorem findMember_map {β : Type} (f : α → β) (key : String) :
    findMember key (members.map fun m => (m.1, f m.2)) = (findMember key members).map f := by
  induction members with
  | nil => rfl
  | cons m members ih =>
    simp only [List.map_cons, findMember]
    split
    · rfl
    · exact ih

theorem Table.members_ofList (added : List (String × α)) :
    (Table.ofList added).members = addMembers [] added := by
  have inserted (t : Table α) : (added.foldl (fun t m => t.insert m.1 m.2) t).members =
      addMembers t.members added := by
    induction added generalizing t with
    | nil => rfl
    | cons first added ih => exact ih (t.insert first.1 first.2)
  exact inserted .empty

end Added

section Grammar

variable {α : Type} {Spelled : List Char → α → Prop}

theorem MembersFrom.endsNumber {cs : List Char} {ms : List (String × α)}
    (members : MembersFrom Spelled false cs ms) (rest : List Char) : EndsNumber (cs ++ rest) := by
  cases members with
  | close spaces =>
    rw [List.append_assoc]
    exact endsNumber_spaces spaces (by decide) rest
  | member apart spells before after spelled others =>
    simp only [List.append_assoc]
    exact apart.endsNumber _

theorem MembersFrom.length_lt {first : Bool} {cs : List Char} {ms : List (String × α)}
    (members : MembersFrom Spelled first cs ms) : ms.length < cs.length := by
  induction members with
  | close spaces => simp
  | member apart spells before after spelled others ih =>
    simp only [List.length_cons, List.length_append]
    omega

theorem MembersFrom.imp {Other : List Char → α → Prop} {first : Bool} {cs : List Char}
    {ms : List (String × α)} (implies : ∀ core a, Spelled core a → Other core a)
    (members : MembersFrom Spelled first cs ms) : MembersFrom Other first cs ms := by
  induction members with
  | close spaces => exact .close spaces
  | member apart spells before after spelled others ih =>
    exact .member apart spells before after (implies _ _ spelled) ih

theorem MembersFrom.exists_core {first : Bool} {cs : List Char} {ms : List (String × α)}
    (members : MembersFrom Spelled first cs ms) : ∀ m ∈ ms, ∃ core, Spelled core m.2 := by
  induction members with
  | close spaces => exact nofun
  | member apart spells before after spelled others ih =>
    intro m member
    rcases List.mem_cons.mp member with rfl | later
    · exact ⟨_, spelled⟩
    · exact ih m later

theorem writeMember_append (key : String) (value rest : List Char) :
    writeMember key value ++ rest =
      '"' :: (key.toList.flatMap writeChar ++ '"' :: ':' :: (value ++ rest)) := by
  simp [writeMember, writeText]

theorem membersFrom_writeMember {first : Bool} {gap tail value : List Char} {key : String}
    {a : α} {ms : List (String × α)} (apart : Gap first gap) (spelled : Spelled value a)
    (others : MembersFrom Spelled false tail ms) :
    MembersFrom Spelled first (gap ++ (writeMember key value ++ tail)) ((key, a) :: ms) := by
  have written := MembersFrom.member apart (spells_writeChars key.toList) spaces_nil spaces_nil
    spelled others
  rw [writeMember_append]
  simpa using written

theorem membersFrom_flatMap {write : α → List Char} {ms : List (String × α)}
    (spelled : ∀ m ∈ ms, Spelled (write m.2) m.2) :
    MembersFrom Spelled false
      (ms.flatMap (fun m => ',' :: writeMember m.1 (write m.2)) ++ ['\x7d']) ms := by
  induction ms with
  | nil => exact .close spaces_nil
  | cons m ms ih =>
    have others := ih fun other member => spelled other (List.mem_cons_of_mem m member)
    have apart : Gap false ([] ++ [',']) := .comma spaces_nil spaces_nil
    rw [List.flatMap_cons, List.append_assoc]
    exact membersFrom_writeMember apart (spelled m List.mem_cons_self) others

theorem membersFrom_separate {write : α → List Char} {ms : List (String × α)}
    (spelled : ∀ m ∈ ms, Spelled (write m.2) m.2) :
    MembersFrom Spelled true
      (separate (ms.map fun m => writeMember m.1 (write m.2)) ++ ['\x7d']) ms := by
  cases ms with
  | nil => exact .close spaces_nil
  | cons m ms =>
    have others := membersFrom_flatMap fun other member =>
      spelled other (List.mem_cons_of_mem m member)
    have apart : Gap true [] := .start spaces_nil
    rw [List.map_cons, separate_cons, List.flatMap_map, List.append_assoc]
    exact membersFrom_writeMember apart (spelled m List.mem_cons_self) others

end Grammar

theorem readMembersIn_cons {σ : Type} {member : String → σ → Reader σ} {first : Bool}
    {s next last : σ} {key : String} {cs mid tail rest : List Char} {steps : Nat}
    (more : (if first then startMembers else nextMember) cs = .ok (some key, mid))
    (taken : member key s mid = .ok (next, tail))
    (others : readMembersIn member steps false next tail = .ok (last, rest)) :
    readMembersIn member (steps + 1) first s cs = .ok (last, rest) := by
  rw [readMembersIn, Reader.bind_eq_ok]
  refine ⟨some key, mid, more, ?_⟩
  dsimp only
  rw [Reader.bind_eq_ok]
  exact ⟨next, tail, taken, others⟩

def AddsNext {α σ : Type} (inner : Reader α) (add : String → α → σ → σ)
    (member : String → σ → Reader σ) : Prop :=
  ∀ key s, member key s = do
    readColon
    let a ← inner
    return add key a s

section Members

variable {α σ : Type} {inner : Reader α} {Spelled : List Char → α → Prop}
  {add : String → α → σ → σ} {member : String → σ → Reader σ}

theorem AddsNext.sound (adds : AddsNext inner add member) (reads : Reads inner Spelled)
    {key : String} {before after : σ} {cs rest : List Char}
    (read : member key before cs = .ok (after, rest)) :
    ∃ left right core a, Spaces left ∧ Spaces right ∧ cs = left ++ ':' :: right ++ core ++ rest ∧
      Spelled core a ∧ after = add key a before := by
  rw [adds] at read
  obtain ⟨⟨⟩, mid, colon, read⟩ := Reader.bind_eq_ok.mp read
  obtain ⟨a, last, taken, made⟩ := Reader.bind_eq_ok.mp read
  cases made
  obtain ⟨left, spaces, rfl⟩ := readColon_eq_ok.mp colon
  obtain ⟨right, core, blank, rfl, spelled⟩ := reads.sound taken
  exact ⟨left, right, core, a, spaces, blank, by simp, spelled, rfl⟩

theorem AddsNext.complete (adds : AddsNext inner add member) (reads : Reads inner Spelled)
    (key : String) (s : σ) {left right core rest : List Char} {a : α} (before : Spaces left)
    (after : Spaces right) (spelled : Spelled core a) (ends : EndsNumber rest) :
    member key s (left ++ ':' :: (right ++ core ++ rest)) = .ok (add key a s, rest) := by
  have colon : readColon (left ++ ':' :: (right ++ core ++ rest)) =
      .ok ((), right ++ core ++ rest) := readColon_eq_ok.mpr ⟨left, before, rfl⟩
  have taken : inner (right ++ core ++ rest) = .ok (a, rest) := by
    rw [List.append_assoc, reads.spaces _ after]
    exact reads.takes spelled ends
  rw [adds]
  exact Reader.bind_eq_ok.mpr ⟨(), _, colon, Reader.bind_eq_ok.mpr ⟨a, rest, taken, rfl⟩⟩

theorem readMembersIn_sound (adds : AddsNext inner add member) (reads : Reads inner Spelled)
    {steps : Nat} {first : Bool} {s last : σ} {cs rest : List Char}
    (read : readMembersIn member steps first s cs = .ok (last, rest)) :
    ∃ body added, cs = body ++ rest ∧ MembersFrom Spelled first body added ∧
      last = added.foldl (fun s m => add m.1 m.2 s) s := by
  induction steps generalizing first s cs with
  | zero => cases read
  | succ steps ih =>
    obtain ⟨key?, mid, next, goes⟩ := Reader.bind_eq_ok.mp read
    cases key? with
    | none =>
      cases goes
      obtain ⟨left, spaces, rfl⟩ := noMember_iff.mp next
      exact ⟨left ++ ['\x7d'], [], by simp, .close spaces, rfl⟩
    | some key =>
      obtain ⟨gap, body, apart, rfl, spells⟩ := aMember_iff.mp next
      obtain ⟨more, left, taken, goes⟩ := Reader.bind_eq_ok.mp goes
      obtain ⟨left, right, core, a, before, after, rfl, spelled, rfl⟩ := adds.sound reads taken
      obtain ⟨tail, added, rfl, others, rfl⟩ := ih goes
      exact ⟨_, (key, a) :: added, by simp, .member apart spells before after spelled others, rfl⟩

theorem readMembersIn_complete (adds : AddsNext inner add member) (reads : Reads inner Spelled)
    {first : Bool} {body : List Char} {added : List (String × α)}
    (spelled : MembersFrom Spelled first body added) (rest : List Char) (s : σ) {steps : Nat}
    (enough : added.length < steps) :
    readMembersIn member steps first s (body ++ rest) =
      .ok (added.foldl (fun s m => add m.1 m.2 s) s, rest) := by
  induction spelled generalizing s steps with
  | @close first left spaces =>
    obtain ⟨steps, rfl⟩ := Nat.exists_eq_succ_of_ne_zero (Nat.ne_zero_of_lt enough)
    have next : (if first then startMembers else nextMember) (left ++ '\x7d' :: rest) =
        .ok (none, rest) := noMember_iff.mpr ⟨left, spaces, rfl⟩
    rw [List.append_assoc, readMembersIn, Reader.bind_eq_ok]
    exact ⟨none, rest, next, rfl⟩
  | @member first gap body left right core tail key a ms apart spells before after spelled others
      ih =>
    obtain ⟨steps, rfl⟩ := Nat.exists_eq_succ_of_ne_zero (Nat.ne_zero_of_lt enough)
    have next : (if first then startMembers else nextMember)
        (gap ++ '"' :: body ++ '"' :: (left ++ ':' :: (right ++ core ++ (tail ++ rest)))) =
          .ok (some key, left ++ ':' :: (right ++ core ++ (tail ++ rest))) :=
      aMember_iff.mpr ⟨gap, body, apart, rfl, spells⟩
    have taken := adds.complete reads key s before after spelled (others.endsNumber rest)
    have joined : gap ++ '"' :: body ++ '"' :: left ++ ':' :: right ++ core ++ tail ++ rest =
        gap ++ '"' :: body ++ '"' :: (left ++ ':' :: (right ++ core ++ (tail ++ rest))) := by
      simp
    rw [joined]
    exact readMembersIn_cons next taken (ih _ (Nat.lt_of_succ_lt_succ enough))

/-- An object is read exactly as it is spelled, up to its closing brace, and its members are added in
their order. -/
theorem readMembers_eq_ok (adds : AddsNext inner add member) (reads : Reads inner Spelled)
    {s last : σ} {cs rest : List Char} :
    readMembers member s cs = .ok (last, rest) ↔
      ∃ body added, cs = body ++ rest ∧ MembersFrom Spelled true body added ∧
        last = added.foldl (fun s m => add m.1 m.2 s) s := by
  constructor
  · exact readMembersIn_sound adds reads
  · rintro ⟨body, added, rfl, spelled, rfl⟩
    have length := spelled.length_lt
    refine readMembersIn_complete adds reads spelled rest s ?_
    rw [List.length_append]
    omega

end Members

end DonationPage.Json
