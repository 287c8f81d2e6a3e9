import DonationPage.Proofs.Json.Sequence
import DonationPage.Proofs.Json.Tables
/-! What is written of a payload is read as that payload, whatever its shape, if no record or choice
has a name twice and nothing optional is optional again. -/
namespace DonationPage.Json

def Fields.names : Fields → List String
  | .nil => []
  | .cons name _ _ rest => name :: rest.names

def Shape.isOptional : Shape → Bool
  | .optional _ => true
  | _ => false

mutual

/-- Different values of the shape are written differently. -/
def Shape.unambiguous : Shape → Bool
  | .text | .int64 | .uint64 => true
  | .list item => item.unambiguous
  | .optional content => !content.isOptional && content.unambiguous
  | .table item => item.unambiguous
  | .choice names => decide names.Nodup
  | .record _ fields => fields.unambiguous

def Fields.unambiguous : Fields → Bool
  | .nil => true
  | .cons name _ shape rest => !rest.names.contains name && shape.unambiguous && rest.unambiguous

end

section Parts

variable {α σ : Type}

theorem readOptional_some {content : Reader α} {cs rest : List Char} {a : α}
    (starts : ∃ c tail, cs = c :: tail ∧ isSpace c = false ∧ c ≠ 'n')
    (reads : content (cs ++ rest) = .ok (a, rest)) :
    readOptional content (cs ++ rest) = .ok (some a, rest) := by
  obtain ⟨c, tail, rfl, visible, other⟩ := starts
  unfold readOptional
  rw [List.cons_append, skipSpaces_cons visible]
  split
  · next null =>
    cases null
    exact absurd rfl other
  · rw [← List.cons_append, reads]
    rfl

theorem readChoice_writeText {names : List String} (distinct : names.Nodup)
    (i : Fin names.length) (rest : List Char) :
    readChoice names (writeText (names.get i) ++ rest) = .ok (i, rest) := by
  have found : names.finIdxOf? (names.get i) = some i := by
    rw [List.finIdxOf?_eq_some_iff]
    refine ⟨rfl, fun j earlier same => ?_⟩
    have index : j.val = i.val := (List.getElem_inj distinct).mp same
    omega
  rw [writeText_append]
  change readVariant names _ = _
  unfold readVariant
  rw [readText_writeChars]
  simp only [bind, Except.bind, found]

theorem readListValue_writeList {item : Reader α} {write : α → List Char}
    (takes : Takes item fun core a => core = write a) (as : List α) (rest : List Char) :
    readListValue item (writeList (as.map write) ++ rest) = .ok (as, rest) := by
  have written : writeList (as.map write) ++ rest =
      '[' :: (separate (as.map write) ++ ']' :: rest) := by
    simp [writeList]
  rw [written]
  exact readItems_separate takes as rest

theorem writeObject_append (ms : List (List Char)) (rest : List Char) :
    writeObject ms ++ rest = '\x7b' :: (separate ms ++ '\x7d' :: rest) := by
  simp [writeObject]

theorem readRecord_writeObject {name : String} {member : String → σ → Reader σ} {start last : σ}
    {fill : σ → Except String α} {inOrder : Reader α} {ms : List (String × List Char)} {a : α}
    (takes : TakesMembers member start ms last) (filled : fill last = .ok a) (rest : List Char) :
    readRecord name member start fill inOrder
      (writeObject (ms.map fun m => writeMember m.1 m.2) ++ rest) = .ok (a, rest) := by
  have read := readMembers_separate takes rest
  rw [writeObject_append]
  change (readMembers member start _).bind _ = _
  rw [read]
  simp only [Except.bind, filled]

theorem takesMembers_insertNext {item : Reader α} {write : α → List Char}
    {ms before : List (String × α)}
    (reads : ∀ m ∈ ms, ∀ rest, EndsNumber rest → item (write m.2 ++ rest) = .ok (m.2, rest))
    (ascending : Ascending (before ++ ms)) :
    TakesMembers (insertNext item) ⟨before, ascending.sublist (List.sublist_append_left ..)⟩
      (ms.map fun m => (m.1, write m.2)) ⟨before ++ ms, ascending⟩ := by
  -- On the members that are left: those before them are the table that was read so far.
  induction ms generalizing before with
  | nil =>
    simp only [List.append_nil]
    exact .nil
  | cons m ms ih =>
    obtain ⟨key, a⟩ := m
    have joined : before ++ (key, a) :: ms = before ++ [(key, a)] ++ ms := by simp
    have ascends : Ascending (before ++ [(key, a)] ++ ms) := joined ▸ ascending
    have below : ∀ m ∈ before, m.1 < key := fun m member =>
      (List.pairwise_append.mp ascending).2.2 m member (key, a) List.mem_cons_self
    have taken (rest : List Char) (ends : EndsNumber rest) :
        insertNext item key ⟨before, ascending.sublist (List.sublist_append_left ..)⟩
          (':' :: (write a ++ rest)) =
            .ok (⟨before ++ [(key, a)], ascends.sublist (List.sublist_append_left ..)⟩, rest) := by
      have value := reads (key, a) List.mem_cons_self rest ends
      change (item (write a ++ rest)).bind _ = _
      rw [value]
      change Except.ok (Table.mk (insertMember key a before) _, rest) = _
      simp only [insertMember_of_below below]
    have others := ih (fun m member => reads m (List.mem_cons_of_mem _ member)) ascends
    simp only [joined]
    exact .cons taken others

theorem readTable_writeObject {item : Reader α} {write : α → List Char} (t : Table α)
    (reads : ∀ m ∈ t.members, ∀ rest, EndsNumber rest →
      item (write m.2 ++ rest) = .ok (m.2, rest)) (rest : List Char) :
    readTable item (writeObject (t.members.map fun m => writeMember m.1 (write m.2)) ++ rest) =
      .ok (t, rest) := by
  have ascending : Ascending ([] ++ t.members) := t.ascending
  have takes : TakesMembers (insertNext item) .empty
      (t.members.map fun m => (m.1, write m.2)) t :=
    takesMembers_insertNext reads ascending
  have read := readMembers_separate takes rest
  rw [List.map_map] at read
  rw [writeObject_append]
  exact read

end Parts

theorem Shape.exists_write : (shape : Shape) → (v : shape.Val) → ∃ c tail,
    shape.write v = c :: tail ∧
      (c ∈ ['"', '-', '[', '\x7b'] ∨ c.isDigit = true ∨ c = 'n' ∧ shape.isOptional = true)
  | .text, v => by
    rw [Shape.write]
    exact ⟨'"', _, rfl, by decide⟩
  | .int64, v => by
    obtain ⟨c, tail, written, sign | digit⟩ := (integerLiteral_intDigits (Int64.toInt v)).head
    · exact ⟨c, tail, written, .inl (by simp [sign])⟩
    · exact ⟨c, tail, written, .inr (.inl digit)⟩
  | .uint64, v => by
    obtain ⟨c, tail, written⟩ := List.exists_cons_of_ne_nil (digits_ne_nil (UInt64.toNat v))
    have digit : c.isDigit = true := isDigit_of_mem_digits (written ▸ List.mem_cons_self)
    exact ⟨c, tail, written, .inr (.inl digit)⟩
  | .list item, v => by
    rw [Shape.write]
    exact ⟨'[', _, rfl, .inl (by decide)⟩
  | .optional content, none => by
    rw [Shape.write]
    exact ⟨'n', _, rfl, .inr (.inr ⟨rfl, rfl⟩)⟩
  | .optional content, some v => by
    obtain ⟨c, tail, written, mark | digit | ⟨null, -⟩⟩ := content.exists_write v
    all_goals rw [Shape.write]
    · exact ⟨c, tail, written, .inl mark⟩
    · exact ⟨c, tail, written, .inr (.inl digit)⟩
    · exact ⟨c, tail, written, .inr (.inr ⟨null, rfl⟩)⟩
  | .table item, v => by
    rw [Shape.write]
    exact ⟨'\x7b', _, rfl, .inl (by decide)⟩
  | .choice names, v => by
    rw [Shape.write]
    exact ⟨'"', _, rfl, .inl (by decide)⟩
  | .record _ fields, v => by
    rw [Shape.write]
    exact ⟨'\x7b', _, rfl, .inl (by decide)⟩

theorem Shape.visible_write (shape : Shape) (v : shape.Val) : ∃ c tail, shape.write v = c :: tail ∧
    isSpace c = false ∧ c ≠ ']' ∧ (c = 'n' → shape.isOptional = true) := by
  obtain ⟨c, tail, written, first⟩ := shape.exists_write v
  refine ⟨c, tail, written, ?_⟩
  rcases first with mark | digit | ⟨rfl, optional⟩
  · obtain ⟨visible, other, given⟩ : isSpace c = false ∧ c ≠ ']' ∧ c ≠ 'n' := by
      simp only [List.mem_cons, List.not_mem_nil, or_false] at mark
      rcases mark with rfl | rfl | rfl | rfl
      all_goals decide
    exact ⟨visible, other, fun null => absurd null given⟩
  · have other {letter : Char} (known : letter.isDigit = false) : c ≠ letter := by
      rintro rfl
      exact absurd digit (by simp [known])
    exact ⟨isSpace_of_isDigit digit, other (by decide), fun null => absurd null (other (by decide))⟩
  · exact ⟨rfl, by decide, fun _ => optional⟩

theorem Shape.startsItem_write (shape : Shape) (v : shape.Val) : StartsItem (shape.write v) := by
  obtain ⟨c, tail, written, visible, other, -⟩ := shape.visible_write v
  exact ⟨c, tail, written, visible, other⟩

theorem Shape.omitted_of_isNone {shape : Shape} {v : shape.Val} (none : shape.isNone v = true)
    (presence : Presence) : shape.omitted? presence = some v := by
  cases shape with
  | optional content =>
    have same : v = Option.none := Option.isNone_iff_eq_none.mp none
    rw [same]
    rfl
  | _ => cases none

namespace Fields

def written : (fields : Fields) → fields.Val → List (String × List Char)
  | .nil, _ => []
  | .cons name presence shape rest, v =>
    if presence = .sparse ∧ shape.isNone v.1 = true then rest.written v.2
    else (name, shape.write v.1) :: rest.written v.2

def slotsOf : (fields : Fields) → fields.Val → fields.Slots
  | .nil, _ => ()
  | .cons _ presence shape rest, v =>
    (if presence = .sparse ∧ shape.isNone v.1 = true then none else some v.1, rest.slotsOf v.2)

theorem writeMembers_eq : (fields : Fields) → (v : fields.Val) →
    fields.writeMembers v = (fields.written v).map fun m => writeMember m.1 m.2
  | .nil, _ => rfl
  | .cons name presence shape rest, v => by
    rw [writeMembers, written]
    split
    · exact writeMembers_eq rest v.2
    · rw [List.map_cons, writeMembers_eq rest v.2]

theorem fill_slotsOf : (fields : Fields) → (v : fields.Val) → fields.fill (fields.slotsOf v) = .ok v
  | .nil, _ => rfl
  | .cons name presence shape rest, v => by
    have others := fill_slotsOf rest v.2
    have value : (if presence = .sparse ∧ shape.isNone v.1 = true then none else some v.1).or
        (shape.omitted? presence) = some v.1 := by
      split
      · next left => exact Shape.omitted_of_isNone left.2 presence
      · rfl
    simp only [slotsOf, fill, value, others]
    rfl

theorem mem_names_of_mem_written : (fields : Fields) → (v : fields.Val) →
    ∀ m ∈ fields.written v, m.1 ∈ fields.names
  | .nil, _, _, member => nomatch member
  | .cons name presence shape rest, v, m, member => by
    rw [written] at member
    rw [names]
    split at member
    · exact List.mem_cons_of_mem name (mem_names_of_mem_written rest v.2 m member)
    · rcases List.mem_cons.mp member with rfl | later
      · exact List.mem_cons_self
      · exact List.mem_cons_of_mem name (mem_names_of_mem_written rest v.2 m later)

theorem takesMembers_cons {name : String} {presence : Presence} {shape : Shape} {rest : Fields}
    {slots last : rest.Slots} {ms : List (String × List Char)}
    (takes : TakesMembers rest.readMember slots ms last) (other : ∀ m ∈ ms, m.1 ≠ name)
    (slot : Option shape.Val) :
    TakesMembers (cons name presence shape rest).readMember (slot, slots) ms (slot, last) := by
  induction takes with
  | nil => exact .nil
  | @cons slots next last key value ms first others ih =>
    refine .cons (fun more ends => ?_) (ih fun m member => other m (List.mem_cons_of_mem _ member))
    have different : key ≠ name := other (key, value) List.mem_cons_self
    rw [readMember, if_neg different]
    change (rest.readMember key slots _).bind _ = _
    rw [first more ends]
    rfl

end Fields

mutual

/-- A written value is read up to its end, if no number goes on behind it. -/
theorem Shape.read_write : (shape : Shape) → shape.unambiguous = true → (v : shape.Val) →
    (rest : List Char) → EndsNumber rest → shape.read (shape.write v ++ rest) = .ok (v, rest)
  | .text, _, v, rest, _ => by
    rw [Shape.read, Shape.write]
    exact readTextValue_writeText v rest
  | .int64, _, v, rest, ends => by
    have below : Int64.toInt v < UInt64.size := Int.lt_trans (Int64.toInt_lt v) (by decide)
    rw [Shape.read, Shape.write]
    exact readInteger_append (integerLiteral_intDigits _) (Int64.minValue_le_toInt v) below
      (int64_eq_some.mpr rfl) ends
  | .uint64, _, v, rest, ends => by
    have least : Int64.minValue.toInt ≤ (0 : Nat) := by decide
    have above : Int64.minValue.toInt ≤ UInt64.toNat v := by omega
    have below : UInt64.toNat v < UInt64.size := UInt64.toNat_lt_size v
    rw [Shape.read, Shape.write]
    exact readInteger_append (integerLiteral_digits _) above (by omega) (uint64_toNat v) ends
  | .list item, plain, v, rest, _ => by
    rw [Shape.unambiguous] at plain
    rw [Shape.read, Shape.write]
    have takes : Takes item.read fun core a => core = item.write a :=
      ⟨fun {_ a} same => same ▸ item.startsItem_write a,
        fun {_ rest a} same ends => same ▸ item.read_write plain a rest ends⟩
    exact readListValue_writeList takes v rest
  | .optional content, _, none, rest, _ => by
    rw [Shape.read, Shape.write]
    rfl
  | .optional content, plain, some v, rest, ends => by
    rw [Shape.unambiguous, Bool.and_eq_true] at plain
    obtain ⟨given, plain⟩ := plain
    obtain ⟨c, tail, written, visible, -, null⟩ := content.visible_write v
    have starts : ∃ c tail, content.write v = c :: tail ∧ isSpace c = false ∧ c ≠ 'n' := by
      refine ⟨c, tail, written, visible, fun same => ?_⟩
      simp [null same] at given
    rw [Shape.read, Shape.write]
    exact readOptional_some starts (content.read_write plain v rest ends)
  | .table item, plain, v, rest, _ => by
    rw [Shape.unambiguous] at plain
    rw [Shape.read, Shape.write]
    exact readTable_writeObject v (fun m _ => item.read_write plain m.2) rest
  | .choice names, plain, v, rest, _ => by
    rw [Shape.unambiguous, decide_eq_true_eq] at plain
    rw [Shape.read, Shape.write]
    exact readChoice_writeText plain v rest
  | .record name fields, plain, v, rest, _ => by
    rw [Shape.unambiguous] at plain
    rw [Shape.read, Shape.write, fields.writeMembers_eq]
    exact readRecord_writeObject (fields.takesMembers_perm plain v (.refl _))
      (fields.fill_slotsOf v) rest

/-- The members that are written for a record fill its slots, in whatever order they stand. -/
theorem Fields.takesMembers_perm : (fields : Fields) → fields.unambiguous = true →
    (v : fields.Val) → {ms : List (String × List Char)} → ms.Perm (fields.written v) →
      TakesMembers fields.readMember fields.noSlots ms (fields.slotsOf v)
  | .nil, _, _, ms, order => by
    rw [Fields.written] at order
    rw [order.eq_nil]
    exact .nil
  | .cons name presence shape rest, plain, v, ms, order => by
    rw [Fields.unambiguous, Bool.and_eq_true, Bool.and_eq_true] at plain
    obtain ⟨⟨fresh, plain⟩, plainRest⟩ := plain
    have other : ∀ m ∈ rest.written v.2, m.1 ≠ name := by
      rintro m member rfl
      simp [rest.mem_names_of_mem_written v.2 m member] at fresh
    rw [Fields.written] at order
    rw [Fields.slotsOf, Fields.noSlots]
    split at order
    · next left =>
      rw [if_pos left]
      exact Fields.takesMembers_cons (rest.takesMembers_perm plainRest v.2 order)
        (fun m member => other m (order.mem_iff.mp member)) none
    · next given =>
      rw [if_neg given]
      -- Those before the first field's member and those after it are members of the others.
      obtain ⟨before, after, rfl⟩ := List.append_of_mem (order.mem_iff.mpr List.mem_cons_self)
      have others := (List.perm_middle.symm.trans order).cons_inv
      obtain ⟨mid, early, late⟩ :=
        takesMembers_append.mp (rest.takesMembers_perm plainRest v.2 others)
      have otherwise {m : String × List Char} (member : m ∈ before ++ after) : m.1 ≠ name :=
        other m (others.mem_iff.mp member)
      have taken (more : List Char) (ends : EndsNumber more) :
          (Fields.cons name presence shape rest).readMember name (none, mid)
            (':' :: (shape.write v.1 ++ more)) = .ok ((some v.1, mid), more) := by
        rw [Fields.readMember, if_pos rfl, if_neg (by simp)]
        change (shape.read (shape.write v.1 ++ more)).bind _ = _
        rw [shape.read_write plain v.1 more ends]
        rfl
      refine takesMembers_append.mpr ⟨(none, mid), ?_, .cons taken ?_⟩
      · exact Fields.takesMembers_cons early
          (fun m member => otherwise (List.mem_append_left after member)) none
      · exact Fields.takesMembers_cons late
          (fun m member => otherwise (List.mem_append_right before member)) (some v.1)

end

theorem Shape.read_members {name : String} {fields : Fields} (plain : fields.unambiguous = true)
    (v : fields.Val) {ms : List (String × List Char)} (order : ms.Perm (fields.written v))
    (rest : List Char) : (Shape.record name fields).read
      (writeObject (ms.map fun m => writeMember m.1 m.2) ++ rest) = .ok (v, rest) := by
  rw [Shape.read]
  exact readRecord_writeObject (fields.takesMembers_perm plain v order) (fields.fill_slotsOf v) rest

section Payloads

variable {α : Type} [Payload α]

theorem decode_of_read {cs : List Char} {a : α}
    (read : (Payload.shape α).read cs = .ok (Payload.toVal a, [])) :
    decode α (String.ofList cs) = .ok a := by
  rw [decode, Reader.run_eq_ok]
  refine ⟨[], ?_, spaces_nil⟩
  rw [String.toList_ofList, readPayload, read]
  change Except.ok (Payload.ofVal (Payload.toVal a), []) = _
  rw [Payload.ofVal_toVal]

theorem decode_encode (plain : (Payload.shape α).unambiguous = true) (a : α) :
    decode α (encode a) = .ok a := by
  have read := (Payload.shape α).read_write plain (Payload.toVal a) [] endsNumber_nil
  rw [List.append_nil] at read
  exact decode_of_read read

theorem toList_encode_list (as : List α) :
    (encode as).toList = writeList (as.map fun a => (encode a).toList) := by
  have each : (as.map fun a => (encode a).toList) =
      (as.map Payload.toVal).map (Payload.shape α).write := by
    simp [encode]
  rw [each, encode, String.toList_ofList]
  rfl

end Payloads

end DonationPage.Json
