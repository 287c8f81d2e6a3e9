import DonationPage.Proofs.Json.Objects
/-! The grammar of JSON values, nested up to a bound, and of the text that holds one of them. The
reader takes exactly this grammar. What is written for a value that was read is in it again, and
stands for the same value, as long as there is no binary number in the value. -/
namespace DonationPage.Json

inductive Scalar.Spelled : List Char → Scalar → Prop
  | null : Spelled ['n', 'u', 'l', 'l'] .null
  | yes : Spelled ['t', 'r', 'u', 'e'] (.bool true)
  | no : Spelled ['f', 'a', 'l', 's', 'e'] (.bool false)
  | number {core : List Char} {s : Scalar} (spelled : SpellsNumber core s) : Spelled core s
  | text {body : List Char} {s : String} (spells : Spells body s.toList) :
      Spelled ('"' :: body ++ ['"']) (.text s)

theorem Scalar.spelled_text (s : String) : Scalar.Spelled (writeText s) (.text s) :=
  .text (spells_writeChars s.toList)

theorem Scalar.spelled_int {i : Int} (low : Int64.minValue.toInt ≤ i) (high : i < UInt64.size) :
    Scalar.Spelled (intDigits i) (.int i) := by
  refine .number (readNumber_eq_int.mpr ?_)
  exact ⟨intDigits i, (List.append_nil _).symm, integerLiteral_intDigits i, endsNumber_nil, low,
    high⟩

theorem readWord_eq_ok {word cs rest : List Char} :
    readWord word cs = .ok ((), rest) ↔ cs = word ++ rest := by
  induction word generalizing cs with
  | nil => simp [readWord]
  | cons w word ih =>
    cases cs with
    | nil => simp [readWord]
    | cons c cs =>
      rw [readWord]
      split
      · next same => simp [ih, same]
      · next other => simp [other]

theorem scalarReader_sound {c : Char} {read : Reader Scalar} (known : scalarReader? c = some read)
    {tail rest : List Char} {s : Scalar} (taken : read (c :: tail) = .ok (s, rest)) :
    ∃ core, c :: tail = core ++ rest ∧ Scalar.Spelled core s := by
  have word {w : List Char} {s t : Scalar} (taken : (do readWord w; return t : Reader Scalar)
      (c :: tail) = .ok (s, rest)) : c :: tail = w ++ rest ∧ s = t := by
    obtain ⟨⟨⟩, mid, word, made⟩ := Reader.bind_eq_ok.mp taken
    cases made
    exact ⟨readWord_eq_ok.mp word, rfl⟩
  unfold scalarReader? at known
  split_ifs at known
  all_goals cases known
  · obtain ⟨same, rfl⟩ := word taken
    exact ⟨_, same, .null⟩
  · obtain ⟨same, rfl⟩ := word taken
    exact ⟨_, same, .yes⟩
  · obtain ⟨same, rfl⟩ := word taken
    exact ⟨_, same, .no⟩
  · obtain ⟨core, same, spelled⟩ := exists_spellsNumber taken
    exact ⟨core, same, .number spelled⟩
  · next mark =>
    obtain ⟨⟨s, left⟩, text, made⟩ := bind_eq_ok.mp taken
    cases made
    obtain ⟨body, same, spells⟩ := readText_eq_ok.mp text
    rw [List.drop_one, List.tail_cons] at same
    exact ⟨_, by rw [mark, same, List.append_assoc]; rfl, .text spells⟩

theorem scalarReader_of_number {c : Char} (first : c = '-' ∨ c.isDigit = true) :
    scalarReader? c = some readNumber ∧ isSpace c = false ∧ c ≠ ']' := by
  rcases first with rfl | digit
  · exact ⟨rfl, rfl, by decide⟩
  · have other {letter : Char} (known : letter.isDigit = false) : c ≠ letter := by
      rintro rfl
      simp [known] at digit
    refine ⟨?_, isSpace_of_isDigit digit, other (by decide)⟩
    unfold scalarReader?
    rw [if_neg (other (by decide)), if_neg (other (by decide)), if_neg (other (by decide)),
      if_pos (.inr digit)]

theorem Scalar.Spelled.read {core : List Char} {s : Scalar} (spelled : Scalar.Spelled core s) :
    StartsItem core ∧ ∃ c tail read, core = c :: tail ∧ scalarReader? c = some read ∧
      ∀ rest, EndsNumber rest → read (core ++ rest) = .ok (s, rest) := by
  have word {w : List Char} {s : Scalar} (rest : List Char) :
      (do readWord w; return s : Reader Scalar) (w ++ rest) = .ok (s, rest) :=
    Reader.bind_eq_ok.mpr ⟨(), rest, readWord_eq_ok.mpr rfl, rfl⟩
  cases spelled with
  | null =>
    exact ⟨⟨'n', _, rfl, by decide, by decide⟩, 'n', _, _, rfl, rfl, fun rest _ => word rest⟩
  | yes =>
    exact ⟨⟨'t', _, rfl, by decide, by decide⟩, 't', _, _, rfl, rfl, fun rest _ => word rest⟩
  | no =>
    exact ⟨⟨'f', _, rfl, by decide, by decide⟩, 'f', _, _, rfl, rfl, fun rest _ => word rest⟩
  | number spelled =>
    obtain ⟨c, tail, rfl, first⟩ := spelled.head
    obtain ⟨known, visible, other⟩ := scalarReader_of_number first
    exact ⟨⟨c, tail, rfl, visible, other⟩, c, tail, readNumber, rfl, known,
      fun rest ends => spelled.append ends⟩
  | @text body s spells =>
    refine ⟨⟨'"', _, rfl, by decide, by decide⟩, '"', _, _, rfl, rfl, fun rest _ => ?_⟩
    have text : readText (body ++ '"' :: rest) = .ok (s, rest) :=
      readText_eq_ok.mpr ⟨body, rfl, spells⟩
    rw [List.append_assoc]
    exact bind_eq_ok.mpr ⟨(s, rest), text, rfl⟩

namespace Value

/-- What a value is spelled by, if the values inside it are spelled as the relation says; without
one it holds none. -/
inductive SpelledAround (inner? : Option (List Char → Value → Prop)) : List Char → Value → Prop
  | scalar {core : List Char} {s : Scalar} (spelled : Scalar.Spelled core s) :
      SpelledAround inner? core (.scalar s)
  | list {Inner : List Char → Value → Prop} {body : List Char} {items : List Value}
      (nests : inner? = some Inner) (spelled : ItemsFrom Inner true body items) :
      SpelledAround inner? ('[' :: body) (.list items)
  | object {Inner : List Char → Value → Prop} {body : List Char}
      {added : List (String × Value)} (nests : inner? = some Inner)
      (spelled : MembersFrom Inner true body added) :
      SpelledAround inner? ('\x7b' :: body) (.object (addMembers [] added))

def Spelled : Nat → List Char → Value → Prop
  | 0 => SpelledAround none
  | levels + 1 => SpelledAround (some (Spelled levels))

theorem Spelled.scalar {levels : Nat} {core : List Char} {s : Scalar}
    (spelled : Scalar.Spelled core s) : Spelled levels core (.scalar s) := by
  cases levels with
  | zero => exact SpelledAround.scalar spelled
  | succ levels => exact SpelledAround.scalar spelled

theorem addsNext_readMember {inner : Reader Value} :
    AddsNext inner insertMember (readMember inner) := fun _ _ => rfl

theorem reads_readAround {inner? : Option (Reader Value)}
    {Inner? : Option (List Char → Value → Prop)} (nests : Option.Rel Reads inner? Inner?) :
    Reads (readAround inner?) (SpelledAround Inner?) where
  starts spelled := by
    cases spelled with
    | scalar spelled => exact spelled.read.1
    | list nests spelled => exact ⟨'[', _, rfl, by decide, by decide⟩
    | object nests spelled => exact ⟨'\x7b', _, rfl, by decide, by decide⟩
  sound read := by
    obtain ⟨left, c, tail, spaces, rfl, -, taken⟩ := afterSpaces_eq_ok.mp read
    cases known : scalarReader? c with
    | some scalar =>
      simp only [known] at taken
      obtain ⟨s, alone, rfl⟩ := Reader.map_eq_ok.mp taken
      obtain ⟨core, same, spelled⟩ := scalarReader_sound known alone
      exact ⟨left, core, spaces, by rw [same, List.append_assoc], .scalar spelled⟩
    | none =>
      simp only [known] at taken
      cases nests with
      | none => grind
      | some reads =>
        dsimp only at taken
        split at taken
        · next list =>
          obtain ⟨items, inside, rfl⟩ := Reader.map_eq_ok.mp taken
          obtain ⟨body, rfl, spelled⟩ := (readItems_eq_ok reads).mp inside
          exact ⟨left, '[' :: body, spaces, by simp [list], .list rfl spelled⟩
        split at taken
        · next object =>
          obtain ⟨members, inside, rfl⟩ := Reader.map_eq_ok.mp taken
          obtain ⟨body, added, rfl, spelled, rfl⟩ :=
            (readMembers_eq_ok addsNext_readMember reads).mp inside
          exact ⟨left, '\x7b' :: body, spaces, by simp [object], .object rfl spelled⟩
        · cases taken
  spaces cs spaces := by
    unfold readAround
    rw [skipSpaces_left spaces]
  takes := by
    intro core rest v spelled ends
    unfold readAround
    cases spelled with
    | scalar spelled =>
      obtain ⟨⟨c, tail, rfl, visible, -⟩, _, _, read, ⟨⟩, known, takes⟩ := spelled.read
      rw [List.cons_append, skipSpaces_cons visible]
      simp only [known]
      exact Reader.map_eq_ok.mpr ⟨_, takes rest ends, rfl⟩
    | @list Inner body items nested spelled =>
      rw [List.cons_append, skipSpaces_cons (by decide)]
      cases nests with
      | none => cases nested
      | some reads =>
        cases nested
        exact Reader.map_eq_ok.mpr
          ⟨items, (readItems_eq_ok reads).mpr ⟨body, rfl, spelled⟩, rfl⟩
    | @object Inner body added nested spelled =>
      rw [List.cons_append, skipSpaces_cons (by decide)]
      cases nests with
      | none => cases nested
      | some reads =>
        cases nested
        refine Reader.map_eq_ok.mpr ⟨_, (readMembers_eq_ok addsNext_readMember reads).mpr ?_, rfl⟩
        exact ⟨body, added, rfl, spelled, rfl⟩

theorem reads_readWithin (levels : Nat) : Reads (readWithin levels) (Spelled levels) := by
  induction levels with
  | zero => exact reads_readAround .none
  | succ levels ih => exact reads_readAround (.some ih)

theorem SpelledAround.imp {inner? other? : Option (List Char → Value → Prop)}
    (implies : ∀ Inner, inner? = some Inner → ∃ Other, other? = some Other ∧
      ∀ core v, Inner core v → Other core v) {core : List Char} {v : Value}
    (spelled : SpelledAround inner? core v) : SpelledAround other? core v := by
  cases spelled with
  | scalar spelled => exact .scalar spelled
  | list nests items =>
    obtain ⟨Other, known, implies⟩ := implies _ nests
    exact .list known (items.imp implies)
  | object nests members =>
    obtain ⟨Other, known, implies⟩ := implies _ nests
    exact .object known (members.imp implies)

theorem Spelled.succ {levels : Nat} {core : List Char} {v : Value}
    (spelled : Spelled levels core v) : Spelled (levels + 1) core v := by
  induction levels generalizing core v with
  | zero =>
    refine SpelledAround.imp ?_ spelled
    rintro _ ⟨⟩
  | succ levels ih =>
    refine SpelledAround.imp ?_ spelled
    rintro _ ⟨⟩
    exact ⟨_, rfl, fun core v inner => ih inner⟩

/-- No number in the value, at any depth, is a binary one: all are integers, and of 64 bits if the
value was read. -/
inductive Integral : Value → Prop
  | scalar {s : Scalar} (exact : ∀ x, s ≠ .float x) : Integral (.scalar s)
  | list {items : List Value} (each : ∀ v ∈ items, Integral v) : Integral (.list items)
  | object {members : List (String × Value)} (each : ∀ m ∈ members, Integral m.2) :
      Integral (.object members)

theorem writeItems_eq (items : List Value) : writeItems items = items.map write := by
  induction items with
  | nil => rfl
  | cons v items ih => rw [writeItems, ih, List.map_cons]

theorem writeMembers_eq (members : List (String × Value)) :
    writeMembers members = members.map fun m => writeMember m.1 m.2.write := by
  induction members with
  | nil => rfl
  | cons m members ih => rw [writeMembers, ih, List.map_cons]

theorem spelled_writeScalar {core : List Char} {s : Scalar} (spelled : Scalar.Spelled core s)
    (exact : ∀ x, s ≠ .float x) : Scalar.Spelled (writeScalar s) s := by
  cases s with
  | null => exact .null
  | bool b =>
    cases b with
    | true => exact .yes
    | false => exact .no
  | float x => exact absurd rfl (exact x)
  | text s => exact Scalar.spelled_text s
  | int i =>
    cases spelled with
    | number spelled =>
      obtain ⟨-, -, -, -, low, high⟩ := readNumber_eq_int.mp spelled
      exact Scalar.spelled_int low high

theorem SpelledAround.write {inner? : Option (List Char → Value → Prop)}
    (again : ∀ Inner, inner? = some Inner → ∀ core v, Inner core v → v.Integral → Inner v.write v)
    {core : List Char} {v : Value} (spelled : SpelledAround inner? core v) (integral : v.Integral) :
    SpelledAround inner? v.write v := by
  cases spelled with
  | scalar spelled =>
    cases integral with
    | scalar exact => exact .scalar (spelled_writeScalar spelled exact)
  | @list Inner body items nests spelled =>
    cases integral with
    | list each =>
      have written : ∀ v ∈ items, Inner v.write v := by
        intro v member
        obtain ⟨core, spelled⟩ := spelled.exists_core v member
        exact again Inner nests core v spelled (each v member)
      rw [Value.write, writeItems_eq]
      exact .list nests (itemsFrom_separate written)
  | @object Inner body added nests spelled =>
    cases integral with
    | object each =>
      have written : ∀ m ∈ addMembers [] added, Inner m.2.write m.2 := by
        intro m member
        have given := (mem_addMembers member).resolve_left List.not_mem_nil
        obtain ⟨core, spelled⟩ := spelled.exists_core m given
        exact again Inner nests core m.2 spelled (each m member)
      have same : addMembers [] (addMembers [] added) = addMembers [] added :=
        addMembers_of_ascending (ascending_addMembers .nil)
      have made := SpelledAround.object nests (membersFrom_separate written)
      rw [same] at made
      rw [Value.write, writeMembers_eq]
      exact made

theorem Spelled.write {levels : Nat} {core : List Char} {v : Value}
    (spelled : Spelled levels core v) (integral : v.Integral) : Spelled levels v.write v := by
  induction levels generalizing core v with
  | zero =>
    refine SpelledAround.write ?_ spelled integral
    rintro _ ⟨⟩
  | succ levels ih =>
    refine SpelledAround.write ?_ spelled integral
    rintro _ ⟨⟩ core v spelled integral
    exact ih spelled integral

/-- A text is read as a value exactly when it spells the value, with nothing but spaces around. -/
theorem run_read_eq_ok {text : String} {v : Value} :
    read.run text = .ok v ↔ ∃ core, AmongSpaces text core ∧ Spelled maxDepth core v :=
  (reads_readWithin maxDepth).run_eq_ok

theorem run_read_write {core : List Char} {v : Value} (spelled : Spelled maxDepth core v)
    (integral : v.Integral) : read.run (String.ofList v.write) = .ok v := by
  rw [run_read_eq_ok]
  exact ⟨v.write, ⟨[], [], by simp, spaces_nil, spaces_nil⟩, spelled.write integral⟩

end Value

end DonationPage.Json
