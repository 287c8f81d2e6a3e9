/-! Blank characters: those with the White_Space property of the Unicode standard, which trimming
takes off both ends of a text. -/
namespace DonationPage

/-- The White_Space property; format characters such as the zero-width space lack it. -/
def isBlank (c : Char) : Bool :=
  let n := c.toNat
  (9 ≤ n && n ≤ 13) || n = 0x20 || n = 0x85 || n = 0xA0 || n = 0x1680 ||
    (0x2000 ≤ n && n ≤ 0x200A) || n = 0x2028 || n = 0x2029 || n = 0x202F || n = 0x205F ||
    n = 0x3000

theorem isBlank_of_isDigit {c : Char} (digit : c.isDigit = true) : isBlank c = false := by
  simp only [Char.isDigit, Bool.and_eq_true, decide_eq_true_eq, UInt32.le_iff_toNat_le] at digit
  have low : 48 ≤ c.toNat := digit.1
  have high : c.toNat ≤ 57 := digit.2
  simp [isBlank]
  omega

theorem dropWhile_isBlank_append {left cs : List Char} (blank : ∀ c ∈ left, isBlank c = true)
    (visible : ∀ c, cs.head? = some c → isBlank c = false) :
    (left ++ cs).dropWhile isBlank = cs := by
  rw [List.dropWhile_append_of_pos blank]
  cases cs with
  | nil => rfl
  | cons c cs => simp [visible c rfl]

theorem exists_dropWhile_isBlank (cs : List Char) :
    ∃ left, left ++ cs.dropWhile isBlank = cs ∧ ∀ c ∈ left, isBlank c = true :=
  ⟨cs.takeWhile isBlank, List.takeWhile_append_dropWhile, List.all_eq_true.mp List.all_takeWhile⟩

def trim (cs : List Char) : List Char :=
  ((cs.dropWhile isBlank).reverse.dropWhile isBlank).reverse

/-- Holds of a text with no character but blanks, the empty text included. -/
def isBlankText (text : String) : Bool :=
  text.toList.all isBlank

private theorem dropWhile_isBlank_eq_nil {cs : List Char} :
    cs.dropWhile isBlank = [] ↔ ∀ c ∈ cs, isBlank c = true := by
  induction cs with
  | nil => simp
  | cons c cs ih => by_cases h : isBlank c <;> simp [h, ih]

theorem trim_eq_nil_iff (cs : List Char) : trim cs = [] ↔ ∀ c ∈ cs, isBlank c = true := by
  rw [trim, List.reverse_eq_nil_iff, dropWhile_isBlank_eq_nil]
  constructor
  · intro h c hc
    rw [← List.takeWhile_append_dropWhile (p := isBlank) (l := cs)] at hc
    rcases List.mem_append.1 hc with hc | hc
    · exact List.all_eq_true.1 (List.all_takeWhile (p := isBlank)) c hc
    · exact h c (List.mem_reverse.2 hc)
  · intro h c hc
    exact h c ((List.dropWhile_sublist _).subset (List.mem_reverse.1 hc))

private theorem dropWhile_isBlank_of_visible {cs : List Char}
    (visible : ∀ c ∈ cs, isBlank c = false) : cs.dropWhile isBlank = cs := by
  cases cs with
  | nil => rfl
  | cons c cs => simp [visible c List.mem_cons_self]

theorem exists_trim (cs : List Char) : ∃ left right, cs = left ++ trim cs ++ right ∧
    ∀ c ∈ left ++ right, isBlank c = true := by
  have blank (cs : List Char) : ∀ c ∈ cs.takeWhile isBlank, isBlank c = true :=
    List.all_eq_true.mp List.all_takeWhile
  have front := List.takeWhile_append_dropWhile (p := isBlank) (l := cs)
  have back := List.takeWhile_append_dropWhile (p := isBlank) (l := (cs.dropWhile isBlank).reverse)
  refine ⟨cs.takeWhile isBlank, ((cs.dropWhile isBlank).reverse.takeWhile isBlank).reverse, ?_, ?_⟩
  · rw [trim, List.append_assoc, ← List.reverse_append, back, List.reverse_reverse, front]
  · intro c member
    rcases List.mem_append.mp member with left | right
    · exact blank cs c left
    · exact blank _ c (List.mem_reverse.mp right)

theorem trim_eq_iff {cs core : List Char} (visible : ∀ c ∈ core, isBlank c = false) :
    trim cs = core ↔ ∃ left right, cs = left ++ core ++ right ∧
      ∀ c ∈ left ++ right, isBlank c = true := by
  constructor
  · rintro rfl
    exact exists_trim cs
  · rintro ⟨left, right, rfl, blank⟩
    cases core with
    | nil => simpa [trim_eq_nil_iff] using blank
    | cons c core =>
      have front : (left ++ (c :: core) ++ right).dropWhile isBlank = c :: core ++ right := by
        rw [List.append_assoc, List.dropWhile_append_of_pos fun a h => blank a (by simp [h])]
        simp [visible c List.mem_cons_self]
      rw [trim, front, List.reverse_append,
        List.dropWhile_append_of_pos fun a h => blank a (by simp_all),
        dropWhile_isBlank_of_visible fun a h => visible a (List.mem_reverse.mp h),
        List.reverse_reverse]

end DonationPage
