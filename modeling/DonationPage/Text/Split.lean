/-! Cutting a text at a separator: into all of its parts, or in two at the first one. -/
namespace DonationPage

/-- The parts between separators; there is one more than separators. -/
def splitAt (separator : Char) : List Char → List (List Char)
  | [] => [[]]
  | c :: cs =>
    if c = separator then [] :: splitAt separator cs
    else
      match splitAt separator cs with
      | [] => [[c]]
      | part :: parts => (c :: part) :: parts

/-- What precedes the first separator, and what follows it if there is one. -/
def cutAt (separator : Char) : List Char → List Char × Option (List Char)
  | [] => ([], none)
  | c :: cs =>
    if c = separator then ([], some cs)
    else
      let (before, after?) := cutAt separator cs
      (c :: before, after?)

def takeFlag (flag : Char) : List Char → Bool × List Char
  | [] => (false, [])
  | c :: cs => if c = flag then (true, cs) else (false, c :: cs)

def dropStart? : List Char → List Char → Option (List Char)
  | [], cs => some cs
  | _ :: _, [] => none
  | s :: start, c :: cs => if c = s then dropStart? start cs else none

theorem splitAt_ne_nil (separator : Char) (cs : List Char) : splitAt separator cs ≠ [] := by
  cases cs with
  | nil => simp [splitAt]
  | cons c cs =>
    unfold splitAt
    split
    · simp
    · split <;> simp

theorem not_mem_of_mem_splitAt {separator : Char} {cs part : List Char}
    (h : part ∈ splitAt separator cs) : separator ∉ part := by
  induction cs generalizing part with
  | nil => simp_all [splitAt]
  | cons c cs ih =>
    unfold splitAt at h
    split at h
    · rcases List.mem_cons.1 h with rfl | h
      · exact List.not_mem_nil
      · exact ih h
    · next hc =>
      split at h
      · next hnil => exact absurd hnil (splitAt_ne_nil separator cs)
      · next first parts hcons =>
        rcases List.mem_cons.1 h with rfl | h
        · exact List.not_mem_cons_of_ne_of_not_mem (Ne.symm hc) (ih (hcons ▸ List.mem_cons_self))
        · exact ih (hcons ▸ List.mem_cons_of_mem first h)

theorem splitAt_of_not_mem {separator : Char} {cs : List Char} (h : separator ∉ cs) :
    splitAt separator cs = [cs] := by
  induction cs with
  | nil => rfl
  | cons c cs ih =>
    rw [List.mem_cons, not_or] at h
    simp [splitAt, Ne.symm h.1, ih h.2]

theorem splitAt_append {separator : Char} {part : List Char} (h : separator ∉ part)
    (cs : List Char) :
    splitAt separator (part ++ separator :: cs) = part :: splitAt separator cs := by
  induction part with
  | nil => simp [splitAt]
  | cons c part ih =>
    rw [List.mem_cons, not_or] at h
    simp [splitAt, Ne.symm h.1, ih h.2]

theorem splitAt_append_cons (separator : Char) (cs rest : List Char) :
    splitAt separator (cs ++ separator :: rest) =
      splitAt separator cs ++ splitAt separator rest := by
  induction cs with
  | nil => simp [splitAt]
  | cons c cs ih =>
    by_cases cuts : c = separator
    · simp [splitAt, cuts, ih]
    · cases parts : splitAt separator cs with
      | nil => exact absurd parts (splitAt_ne_nil separator cs)
      | cons part parts' => simp [splitAt, cuts, ih, parts]

theorem eq_of_splitAt {separator : Char} {cs first : List Char} {parts : List (List Char)}
    (h : splitAt separator cs = first :: parts) :
    cs = first ++ parts.flatMap (separator :: ·) := by
  induction cs generalizing first parts with
  | nil =>
    cases h
    rfl
  | cons c cs ih =>
    unfold splitAt at h
    split at h
    · next hc =>
      cases hsplit : splitAt separator cs with
      | nil => exact absurd hsplit (splitAt_ne_nil separator cs)
      | cons next rest =>
        rw [hsplit] at h
        cases h
        rw [hc, ih hsplit]
        rfl
    · split at h
      · next hnil => exact absurd hnil (splitAt_ne_nil separator cs)
      · next part rest hcons =>
        cases h
        rw [ih hcons]
        rfl

theorem splitAt_eq_cons_iff {separator : Char} {cs first : List Char}
    {parts : List (List Char)} : splitAt separator cs = first :: parts ↔
      cs = first ++ parts.flatMap (separator :: ·) ∧ ∀ part ∈ first :: parts, separator ∉ part := by
  constructor
  · intro h
    exact ⟨eq_of_splitAt h, fun part member => not_mem_of_mem_splitAt (h ▸ member)⟩
  · rintro ⟨rfl, free⟩
    induction parts generalizing first with
    | nil => simpa using splitAt_of_not_mem (free first List.mem_cons_self)
    | cons part parts ih =>
      rw [List.flatMap_cons, List.cons_append, splitAt_append (free first List.mem_cons_self),
        ih fun other member => free other (List.mem_cons_of_mem first member)]

theorem intercalate_cons (separator : Char) (first : List Char) (parts : List (List Char)) :
    [separator].intercalate (first :: parts) = first ++ parts.flatMap (separator :: ·) := by
  induction parts generalizing first with
  | nil => simp
  | cons part parts ih => simp [ih part]

theorem exists_splitAt_append (separator : Char) (cs : List Char) : ∃ parts last,
    splitAt separator cs = parts ++ [last] ∧ ∀ tail, separator ∉ tail →
      splitAt separator (cs ++ tail) = parts ++ [last ++ tail] := by
  induction cs with
  | nil => exact ⟨[], [], rfl, fun tail free => splitAt_of_not_mem free⟩
  | cons c cs ih =>
    obtain ⟨parts, last, split, more⟩ := ih
    by_cases cuts : c = separator
    · refine ⟨[] :: parts, last, by simp [splitAt, cuts, split], fun tail free => ?_⟩
      simp [splitAt, cuts, more tail free]
    · cases parts with
      | nil =>
        refine ⟨[], c :: last, by simp [splitAt, cuts, split], fun tail free => ?_⟩
        simp [splitAt, cuts, more tail free]
      | cons first parts =>
        refine ⟨(c :: first) :: parts, last, by simp [splitAt, cuts, split], fun tail free => ?_⟩
        simp [splitAt, cuts, more tail free]

theorem cutAt_of_not_mem {separator : Char} {cs : List Char} (h : separator ∉ cs) :
    cutAt separator cs = (cs, none) := by
  induction cs with
  | nil => rfl
  | cons c cs ih =>
    rw [List.mem_cons, not_or] at h
    simp [cutAt, Ne.symm h.1, ih h.2]

theorem cutAt_append {separator : Char} {before : List Char} (h : separator ∉ before)
    (cs : List Char) : cutAt separator (before ++ separator :: cs) = (before, some cs) := by
  induction before with
  | nil => simp [cutAt]
  | cons c before ih =>
    rw [List.mem_cons, not_or] at h
    simp [cutAt, Ne.symm h.1, ih h.2]

theorem cutAt_spec (separator : Char) (cs : List Char) : separator ∉ (cutAt separator cs).1 ∧
    cs = (cutAt separator cs).1 ++ (cutAt separator cs).2.elim [] (separator :: ·) := by
  induction cs with
  | nil => simp [cutAt]
  | cons c cs ih =>
    by_cases hc : c = separator
    · simp [cutAt, hc]
    · obtain ⟨free, joined⟩ := ih
      simp only [cutAt, hc, ↓reduceIte, List.mem_cons, not_or, List.cons_append]
      exact ⟨⟨Ne.symm hc, free⟩, congrArg (c :: ·) joined⟩

theorem cutAt_eq_iff {separator : Char} {cs before : List Char} {after? : Option (List Char)} :
    cutAt separator cs = (before, after?) ↔
      separator ∉ before ∧ cs = before ++ after?.elim [] (separator :: ·) := by
  constructor
  · intro h
    have spec := cutAt_spec separator cs
    rwa [h] at spec
  · rintro ⟨free, rfl⟩
    cases after? with
    | none => simpa using cutAt_of_not_mem free
    | some after => exact cutAt_append free after

theorem exists_cutAt_of_mem {separator : Char} {cs : List Char} (member : separator ∈ cs) :
    ∃ before after, cutAt separator cs = (before, some after) ∧
      ∀ tail, cutAt separator (cs ++ tail) = (before, some (after ++ tail)) := by
  obtain ⟨before, after, rfl, free⟩ := List.eq_append_cons_of_mem member
  refine ⟨before, after, cutAt_append free after, fun tail => ?_⟩
  rw [List.append_assoc, List.cons_append, cutAt_append free]

theorem takeFlag_append {flag : Char} {cs : List Char} (h : cs.head? ≠ some flag)
    (present : Bool) :
    takeFlag flag ((if present then [flag] else []) ++ cs) = (present, cs) := by
  cases present with
  | true => simp [takeFlag]
  | false =>
    cases cs with
    | nil => rfl
    | cons c cs =>
      have other : c ≠ flag := by simpa using h
      simp [takeFlag, other]

theorem eq_of_takeFlag {flag : Char} {cs rest : List Char} {present : Bool}
    (h : takeFlag flag cs = (present, rest)) :
    cs = (if present then [flag] else []) ++ rest := by
  cases cs with
  | nil =>
    cases h
    rfl
  | cons c cs =>
    rw [takeFlag] at h
    split at h
    · next hc =>
      cases h
      simp [hc]
    · cases h
      rfl

end DonationPage
