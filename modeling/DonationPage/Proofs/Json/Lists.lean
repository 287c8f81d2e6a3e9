import DonationPage.Proofs.Json.Number
import DonationPage.Text.Split
/-! The grammar of lists around any grammar of their items: spaces may stand between any two parts.
The reader of lists takes exactly what the grammar spells. -/
namespace DonationPage.Json

theorem separate_cons (item : List Char) (items : List (List Char)) :
    separate (item :: items) = item ++ items.flatMap (',' :: ·) :=
  intercalate_cons ',' item items

theorem endsNumber_cons {c : Char} (punctuation : c ∈ [',', ']', '\x7d'])
    (rest : List Char) : EndsNumber (c :: rest) := by
  intro d head
  cases head
  simp only [List.mem_cons, List.not_mem_nil, or_false] at punctuation
  rcases punctuation with rfl | rfl | rfl
  all_goals decide

def StartsItem (cs : List Char) : Prop := ∃ c tail, cs = c :: tail ∧ isSpace c = false ∧ c ≠ ']'

theorem StartsItem.append {core : List Char} (starts : StartsItem core) (rest : List Char) :
    StartsItem (core ++ rest) := by
  obtain ⟨c, tail, rfl, visible, other⟩ := starts
  exact ⟨c, tail ++ rest, rfl, visible, other⟩

/-- What stands before an item or a member: spaces, and unless it is the first a comma among them. -/
inductive Gap : Bool → List Char → Prop
  | start {left : List Char} (spaces : Spaces left) : Gap true left
  | comma {left right : List Char} (before : Spaces left) (after : Spaces right) :
      Gap false (left ++ ',' :: right)

/-- What is left of a list, and its items: from its start, or from after an item on. -/
inductive ItemsFrom {α : Type} (Spelled : List Char → α → Prop) : Bool → List Char → List α → Prop
  | close {first : Bool} {left : List Char} (spaces : Spaces left) :
      ItemsFrom Spelled first (left ++ [']']) []
  | item {first : Bool} {gap core tail : List Char} {a : α} {as : List α} (apart : Gap first gap)
      (spelled : Spelled core a) (others : ItemsFrom Spelled false tail as) :
      ItemsFrom Spelled first (gap ++ core ++ tail) (a :: as)

/-- A reader takes what a grammar spells, whatever ends a number behind it. -/
structure Takes {α : Type} (read : Reader α) (Spelled : List Char → α → Prop) : Prop where
  starts {core : List Char} {a : α} : Spelled core a → StartsItem core
  takes {core rest : List Char} {a : α} : Spelled core a → EndsNumber rest →
    read (core ++ rest) = .ok (a, rest)

/-- A reader takes what a grammar spells with spaces before it, and nothing else. -/
structure Reads {α : Type} (read : Reader α) (Spelled : List Char → α → Prop) : Prop
    extends Takes read Spelled where
  spaces {left : List Char} (cs : List Char) : Spaces left → read (left ++ cs) = read cs
  sound {cs rest : List Char} {a : α} : read cs = .ok (a, rest) →
    ∃ left core, Spaces left ∧ cs = left ++ core ++ rest ∧ Spelled core a

theorem Reads.run_eq_ok {α : Type} {read : Reader α} {Spelled : List Char → α → Prop}
    (reads : Reads read Spelled) {text : String} {a : α} :
    read.run text = .ok a ↔ ∃ core, AmongSpaces text core ∧ Spelled core a := by
  rw [Reader.run_eq_ok]
  constructor
  · rintro ⟨rest, taken, ends⟩
    obtain ⟨left, core, spaces, joined, spelled⟩ := reads.sound taken
    exact ⟨core, ⟨left, rest, joined, spaces, ends⟩, spelled⟩
  · rintro ⟨core, ⟨left, right, joined, spaces, ends⟩, spelled⟩
    rw [joined, List.append_assoc]
    refine ⟨right, ?_, ends⟩
    rw [reads.spaces _ spaces]
    exact reads.takes spelled (.of_spaces ends)

theorem Spaces.append {left right : List Char} (before : Spaces left) (after : Spaces right) :
    Spaces (left ++ right) := by
  intro c member
  exact (List.mem_append.mp member).elim (before c) (after c)

theorem Gap.append {first : Bool} {gap left : List Char} (apart : Gap first gap)
    (spaces : Spaces left) : Gap first (gap ++ left) := by
  cases apart with
  | start before => exact .start (before.append spaces)
  | comma before after =>
    rw [List.append_assoc, List.cons_append]
    exact .comma before (after.append spaces)

theorem endsNumber_spaces {left : List Char} (spaces : Spaces left) {c : Char}
    (punctuation : c ∈ [',', ']', '\x7d']) (rest : List Char) : EndsNumber (left ++ c :: rest) := by
  cases left with
  | nil => exact endsNumber_cons punctuation rest
  | cons d left =>
    intro e head
    exact EndsNumber.of_spaces spaces e head

theorem Gap.endsNumber {gap : List Char} (apart : Gap false gap) (rest : List Char) :
    EndsNumber (gap ++ rest) := by
  cases apart with
  | comma before after =>
    rw [List.append_assoc, List.cons_append]
    exact endsNumber_spaces before (by decide) _

theorem afterSpaces_eq_ok {α : Type} {fault : Fault} {read : Char → Reader α} {cs rest : List Char}
    {a : α} : (match skipSpaces cs with
      | [] => Except.error fault
      | c :: tail => read c tail) = .ok (a, rest) ↔
    ∃ left c tail, Spaces left ∧ cs = left ++ c :: tail ∧ isSpace c = false ∧
      read c tail = .ok (a, rest) := by
  constructor
  · intro taken
    split at taken
    · cases taken
    · next c tail skipped =>
      obtain ⟨left, spaces, joined, visible⟩ := skipSpaces_eq_cons_iff.mp skipped
      exact ⟨left, c, tail, spaces, joined, visible, taken⟩
  · rintro ⟨left, c, tail, spaces, rfl, visible, taken⟩
    rw [skipSpaces_append spaces visible]
    exact taken

theorem mark_eq_ok {α : Type} {fault : Fault} {read : Char → Reader α} {cs rest : List Char}
    {a : α} {mark : Char} (visible : isSpace mark = false)
    (takes : ∀ c tail, read c tail = .ok (a, rest) ↔ c = mark ∧ tail = rest) :
    (match skipSpaces cs with
      | [] => Except.error fault
      | c :: tail => read c tail) = .ok (a, rest) ↔
    ∃ left, Spaces left ∧ cs = left ++ mark :: rest := by
  simp only [afterSpaces_eq_ok, takes]
  constructor
  · rintro ⟨left, _, _, spaces, rfl, -, rfl, rfl⟩
    exact ⟨left, spaces, rfl⟩
  · rintro ⟨left, spaces, rfl⟩
    exact ⟨left, mark, rest, spaces, rfl, visible, rfl, rfl⟩

theorem readColon_eq_ok {cs rest : List Char} : readColon cs = .ok ((), rest) ↔
    ∃ left, Spaces left ∧ cs = left ++ ':' :: rest := by
  refine mark_eq_ok (by decide) fun c tail => ?_
  grind

section Items

theorem startItems_eq_false {cs rest : List Char} : startItems cs = .ok (false, rest) ↔
    ∃ left, Spaces left ∧ cs = left ++ ']' :: rest := by
  refine mark_eq_ok (by decide) fun c tail => ?_
  grind

theorem nextItem_eq_false {cs rest : List Char} : nextItem cs = .ok (false, rest) ↔
    ∃ left, Spaces left ∧ cs = left ++ ']' :: rest := by
  refine mark_eq_ok (by decide) fun c tail => ?_
  grind

theorem startItems_eq_true {cs rest : List Char} : startItems cs = .ok (true, rest) ↔
    ∃ gap, Gap true gap ∧ cs = gap ++ rest ∧ StartsItem rest := by
  refine afterSpaces_eq_ok.trans ?_
  constructor
  · rintro ⟨left, c, tail, spaces, rfl, visible, taken⟩
    split at taken
    · cases taken
    · next other =>
      cases taken
      exact ⟨left, .start spaces, rfl, c, tail, rfl, visible, other⟩
  · rintro ⟨gap, ⟨spaces⟩, rfl, c, tail, rfl, visible, other⟩
    exact ⟨gap, c, tail, spaces, rfl, visible, if_neg other⟩

theorem comma_eq_ok {α : Type} {closed : List Char → Except Fault (α × List Char)} {close : Char}
    {missing fault : Fault} {uncomma : Char → List Char → Fault} {read : Char → Reader α}
    {cs rest : List Char} {a : α} (other : ∀ tail, closed tail ≠ .ok (a, rest))
    (differs : close ≠ ',') :
    (match skipSpaces cs with
      | [] => Except.error missing
      | c :: tail =>
        if c = close then closed tail
        else if c ≠ ',' then .error (uncomma c tail)
        else match skipSpaces tail with
          | [] => .error fault
          | d :: tail => read d tail) = .ok (a, rest) ↔
    ∃ gap d tail, Gap false gap ∧ cs = gap ++ d :: tail ∧ isSpace d = false ∧
      read d tail = .ok (a, rest) := by
  refine afterSpaces_eq_ok.trans ?_
  constructor
  · rintro ⟨left, c, tail, before, rfl, -, taken⟩
    split at taken
    · exact absurd taken (other tail)
    split at taken
    · cases taken
    next comma =>
    obtain rfl := not_not.mp comma
    obtain ⟨right, d, tail, after, rfl, visible, taken⟩ := afterSpaces_eq_ok.mp taken
    exact ⟨left ++ ',' :: right, d, tail, .comma before after, by simp, visible, taken⟩
  · rintro ⟨gap, d, tail, apart, rfl, visible, taken⟩
    cases apart with
    | @comma left right before after =>
      refine ⟨left, ',', right ++ d :: tail, before, by simp, by decide, ?_⟩
      rw [if_neg differs.symm, if_neg (by decide)]
      exact afterSpaces_eq_ok.mpr ⟨right, d, tail, after, rfl, visible, taken⟩

theorem nextItem_eq_true {cs rest : List Char} : nextItem cs = .ok (true, rest) ↔
    ∃ gap, Gap false gap ∧ cs = gap ++ rest ∧ StartsItem rest := by
  refine (comma_eq_ok ?_ ?_).trans ?_
  · exact nofun
  · decide
  constructor
  · rintro ⟨gap, d, tail, apart, rfl, visible, taken⟩
    split at taken
    · cases taken
    · next other =>
      cases taken
      exact ⟨gap, apart, rfl, d, tail, rfl, visible, other⟩
  · rintro ⟨gap, apart, rfl, d, tail, rfl, visible, other⟩
    exact ⟨gap, d, tail, apart, rfl, visible, if_neg other⟩

theorem noItem_iff {first : Bool} {cs rest : List Char} :
    (if first then startItems else nextItem) cs = .ok (false, rest) ↔
      ∃ left, Spaces left ∧ cs = left ++ ']' :: rest := by
  cases first with
  | false => exact nextItem_eq_false
  | true => exact startItems_eq_false

theorem anItem_iff {first : Bool} {cs rest : List Char} :
    (if first then startItems else nextItem) cs = .ok (true, rest) ↔
      ∃ gap, Gap first gap ∧ cs = gap ++ rest ∧ StartsItem rest := by
  cases first with
  | false => exact nextItem_eq_true
  | true => exact startItems_eq_true

variable {α : Type} {item : Reader α} {Spelled : List Char → α → Prop}

theorem ItemsFrom.endsNumber {cs : List Char} {as : List α} (items : ItemsFrom Spelled false cs as)
    (rest : List Char) : EndsNumber (cs ++ rest) := by
  cases items with
  | close spaces =>
    rw [List.append_assoc]
    exact endsNumber_spaces spaces (by decide) rest
  | item apart spelled others =>
    rw [List.append_assoc, List.append_assoc]
    exact apart.endsNumber _

theorem ItemsFrom.length_lt {first : Bool} {cs : List Char} {as : List α}
    (starts : ∀ {core a}, Spelled core a → StartsItem core)
    (items : ItemsFrom Spelled first cs as) : as.length < cs.length := by
  induction items with
  | close spaces => simp
  | item apart spelled others ih =>
    obtain ⟨c, tail, rfl, -⟩ := starts spelled
    simp only [List.length_cons, List.length_append]
    omega

theorem ItemsFrom.imp {Other : List Char → α → Prop} {first : Bool} {cs : List Char} {as : List α}
    (implies : ∀ core a, Spelled core a → Other core a) (items : ItemsFrom Spelled first cs as) :
    ItemsFrom Other first cs as := by
  induction items with
  | close spaces => exact .close spaces
  | item apart spelled others ih => exact .item apart (implies _ _ spelled) ih

theorem ItemsFrom.exists_core {first : Bool} {cs : List Char} {as : List α}
    (items : ItemsFrom Spelled first cs as) : ∀ a ∈ as, ∃ core, Spelled core a := by
  induction items with
  | close spaces => exact nofun
  | item apart spelled others ih =>
    intro a member
    rcases List.mem_cons.mp member with rfl | later
    · exact ⟨_, spelled⟩
    · exact ih a later

theorem ItemsFrom.map {β : Type} {Other : List Char → β → Prop} (f : α → β) {first : Bool}
    {cs : List Char} {as : List α}
    (items : ItemsFrom (fun core a => Other core (f a)) first cs as) :
    ItemsFrom Other first cs (as.map f) := by
  induction items with
  | close spaces => exact .close spaces
  | item apart spelled others ih => exact .item apart spelled ih

theorem itemsFrom_flatMap {write : α → List Char} {as : List α}
    (spelled : ∀ a ∈ as, Spelled (write a) a) :
    ItemsFrom Spelled false (as.flatMap (fun a => ',' :: write a) ++ [']']) as := by
  induction as with
  | nil => exact .close spaces_nil
  | cons a as ih =>
    have others := ih fun b member => spelled b (List.mem_cons_of_mem a member)
    have apart : Gap false ([] ++ [',']) := .comma spaces_nil spaces_nil
    rw [List.flatMap_cons, List.append_assoc]
    exact .item apart (spelled a List.mem_cons_self) others

theorem itemsFrom_separate {write : α → List Char} {as : List α}
    (spelled : ∀ a ∈ as, Spelled (write a) a) :
    ItemsFrom Spelled true (separate (as.map write) ++ [']']) as := by
  cases as with
  | nil => exact .close spaces_nil
  | cons a as =>
    have others := itemsFrom_flatMap fun b member => spelled b (List.mem_cons_of_mem a member)
    have apart : Gap true [] := .start spaces_nil
    rw [List.map_cons, separate_cons, List.flatMap_map, List.append_assoc]
    exact .item apart (spelled a List.mem_cons_self) others

theorem readItemsIn_cons {first : Bool} {cs mid tail rest : List Char} {a : α} {as : List α}
    {steps : Nat} (more : (if first then startItems else nextItem) cs = .ok (true, mid))
    (taken : item mid = .ok (a, tail))
    (others : readItemsIn item steps false tail = .ok (as, rest)) :
    readItemsIn item (steps + 1) first cs = .ok (a :: as, rest) := by
  rw [readItemsIn, Reader.bind_eq_ok]
  refine ⟨true, mid, more, ?_⟩
  rw [if_pos rfl, Reader.bind_eq_ok]
  refine ⟨a, tail, taken, ?_⟩
  rw [Reader.bind_eq_ok]
  exact ⟨as, rest, others, rfl⟩

theorem readItemsIn_sound (reads : Reads item Spelled) {steps : Nat} {first : Bool}
    {cs rest : List Char} {as : List α} (read : readItemsIn item steps first cs = .ok (as, rest)) :
    ∃ body, cs = body ++ rest ∧ ItemsFrom Spelled first body as := by
  induction steps generalizing first cs as with
  | zero => cases read
  | succ steps ih =>
    obtain ⟨more, mid, next, goes⟩ := Reader.bind_eq_ok.mp read
    cases more with
    | false =>
      cases goes
      obtain ⟨left, spaces, rfl⟩ := noItem_iff.mp next
      exact ⟨left ++ [']'], by simp, .close spaces⟩
    | true =>
      obtain ⟨gap, apart, rfl, -⟩ := anItem_iff.mp next
      rw [if_pos rfl] at goes
      obtain ⟨a, left, taken, goes⟩ := Reader.bind_eq_ok.mp goes
      obtain ⟨others, last, more, made⟩ := Reader.bind_eq_ok.mp goes
      cases made
      obtain ⟨spaces, core, blank, rfl, spelled⟩ := reads.sound taken
      obtain ⟨tail, rfl, items⟩ := ih more
      exact ⟨gap ++ spaces ++ core ++ tail, by simp, .item (apart.append blank) spelled items⟩

theorem readItemsIn_complete (takes : Takes item Spelled) {first : Bool} {body : List Char}
    {as : List α} (items : ItemsFrom Spelled first body as) (rest : List Char) {steps : Nat}
    (enough : as.length < steps) :
    readItemsIn item steps first (body ++ rest) = .ok (as, rest) := by
  induction items generalizing steps with
  | @close first left spaces =>
    obtain ⟨steps, rfl⟩ := Nat.exists_eq_succ_of_ne_zero (Nat.ne_zero_of_lt enough)
    have next : (if first then startItems else nextItem) (left ++ ']' :: rest) =
        .ok (false, rest) := noItem_iff.mpr ⟨left, spaces, rfl⟩
    rw [List.append_assoc, readItemsIn, Reader.bind_eq_ok]
    exact ⟨false, rest, next, rfl⟩
  | @item first gap core tail a as apart spelled others ih =>
    obtain ⟨steps, rfl⟩ := Nat.exists_eq_succ_of_ne_zero (Nat.ne_zero_of_lt enough)
    have next : (if first then startItems else nextItem) (gap ++ (core ++ (tail ++ rest))) =
        .ok (true, core ++ (tail ++ rest)) :=
      anItem_iff.mpr ⟨gap, apart, rfl, (takes.starts spelled).append _⟩
    have taken := takes.takes spelled (others.endsNumber rest)
    rw [List.append_assoc, List.append_assoc]
    exact readItemsIn_cons next taken (ih (Nat.lt_of_succ_lt_succ enough))

theorem readItems_of_itemsFrom (takes : Takes item Spelled) {body : List Char} {as : List α}
    (items : ItemsFrom Spelled true body as) (rest : List Char) :
    readItems item (body ++ rest) = .ok (as, rest) := by
  have length := items.length_lt takes.starts
  refine readItemsIn_complete takes items rest ?_
  rw [List.length_append]
  omega

/-- A list is read exactly as it is spelled, up to its closing bracket. -/
theorem readItems_eq_ok (reads : Reads item Spelled) {cs rest : List Char} {as : List α} :
    readItems item cs = .ok (as, rest) ↔
      ∃ body, cs = body ++ rest ∧ ItemsFrom Spelled true body as := by
  constructor
  · exact readItemsIn_sound reads
  · rintro ⟨body, rfl, items⟩
    exact readItems_of_itemsFrom reads.toTakes items rest

theorem readItems_separate {write : α → List Char} (takes : Takes item fun core a => core = write a)
    (as : List α) (rest : List Char) :
    readItems item (separate (as.map write) ++ ']' :: rest) = .ok (as, rest) := by
  have items : ItemsFrom (fun core a => core = write a) true
      (separate (as.map write) ++ [']']) as := itemsFrom_separate fun a _ => rfl
  rw [List.append_cons]
  exact readItems_of_itemsFrom takes items rest

end Items

end DonationPage.Json
