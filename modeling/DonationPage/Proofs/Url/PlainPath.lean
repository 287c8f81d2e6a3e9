import DonationPage.Proofs.Text.Percent
import DonationPage.Settings
import DonationPage.Url
/-! Paths of plain names, which are sent as they are written. -/
namespace DonationPage

theorem dropWhile_of_none {f : Char → Bool} {cs : List Char} (none : ∀ c ∈ cs, f c = false) :
    cs.dropWhile f = cs := by
  cases cs with
  | nil => rfl
  | cons c cs => exact List.dropWhile_cons_of_neg (by simp [none c List.mem_cons_self])

/-- The letters that stand for themselves wherever they stand behind the host of a URL. -/
def plainLetters : List Char := "abcdefghijklmnopqrstuvwxyz".toList

def isPlainName (name : List Char) : Bool := !name.isEmpty && name.all (plainLetters.contains ·)

/-- Names in plain letters, from the root down. -/
structure PlainPath where
  names : List (List Char)
  nonempty : names ≠ []
  plain : names.all isPlainName = true

theorem isPlainName_iff {name : List Char} :
    isPlainName name = true ↔ name ≠ [] ∧ ∀ c ∈ name, c ∈ plainLetters := by
  simp [isPlainName]

theorem not_mark_of_plain {name : List Char} (plain : isPlainName name = true) :
    isAbove name = false ∧ isHere name = false := by
  obtain ⟨nonempty, letters⟩ := isPlainName_iff.mp plain
  obtain ⟨c, cs, rfl⟩ := List.exists_cons_of_ne_nil nonempty
  have unlike : plainLetters.all (fun c => c.toLower ≠ '.' && c.toLower ≠ '%') = true := by decide
  have letter := List.all_eq_true.mp unlike c (letters c List.mem_cons_self)
  simp only [Bool.and_eq_true, decide_eq_true_eq] at letter
  obtain ⟨dot, percent⟩ := letter
  constructor
  · simp [isAbove, ← String.toList_inj, dot, percent]
  · simp [isHere, ← String.toList_inj, dot, percent]

namespace PlainPath

variable (p : PlainPath)

def chars : List Char := p.names.flatMap ('/' :: ·)

def text : String := String.ofList p.chars

theorem exists_chars : ∃ rest, p.chars = '/' :: rest := by
  obtain ⟨name, names, made⟩ := List.exists_cons_of_ne_nil p.nonempty
  exact ⟨_, by rw [chars, made, List.flatMap_cons, List.cons_append]⟩

theorem mem_chars {c : Char} (member : c ∈ p.chars) : c ∈ '/' :: plainLetters := by
  obtain ⟨name, among, member⟩ := List.mem_flatMap.mp member
  rcases List.mem_cons.mp member with rfl | inside
  · exact List.mem_cons_self
  · have plain := List.all_eq_true.mp p.plain name among
    exact List.mem_cons_of_mem _ ((isPlainName_iff.mp plain).2 c inside)

theorem not_mem_chars {c : Char} (other : c ∉ '/' :: plainLetters) : c ∉ p.chars :=
  fun member => other (p.mem_chars member)

theorem all_chars {f : Char → Bool} (holds : ('/' :: plainLetters).all f = true) :
    ∀ c ∈ p.chars, f c = true :=
  fun c member => List.all_eq_true.mp holds c (p.mem_chars member)

theorem percentEncode_chars (keeps : Char → Bool) (kept : ('/' :: plainLetters).all keeps = true) :
    percentEncode keeps p.chars = p.chars :=
  percentEncode_of_kept (p.all_chars kept)

theorem map_slash : (p.chars.map fun c => if c = '\\' then '/' else c) = p.chars := by
  have slashes : ∀ c ∈ p.chars, (if c = '\\' then '/' else c) = c := by
    have other : '\\' ∉ p.chars := p.not_mem_chars (by decide)
    intro c member
    refine if_neg ?_
    rintro rfl
    exact other member
  rw [List.map_congr_left slashes, List.map_id']

theorem splitAt_rest {rest : List Char} (made : p.chars = '/' :: rest) :
    splitAt '/' rest = p.names := by
  obtain ⟨name, names, some⟩ := List.exists_cons_of_ne_nil p.nonempty
  rw [chars, some, List.flatMap_cons, List.cons_append, List.cons.injEq] at made
  rw [some, splitAt_eq_cons_iff]
  refine ⟨made.2.symm, fun part among slash => ?_⟩
  rw [← some] at among
  have plain := List.all_eq_true.mp p.plain part among
  exact absurd ((isPlainName_iff.mp plain).2 _ slash) (by decide)

theorem splitAt_append_chars (cs : List Char) :
    splitAt '/' (cs ++ p.chars) = splitAt '/' cs ++ p.names := by
  obtain ⟨rest, made⟩ := p.exists_chars
  rw [made, splitAt_append_cons, p.splitAt_rest made]

end PlainPath

theorem resolveSegments_of_plain {names : List (List Char)} (plain : names.all isPlainName = true)
    (done : List (List Char)) :
    resolveSegments done names = done.reverse ++ names := by
  induction names generalizing done with
  | nil => rw [resolveSegments, List.append_nil]
  | cons name names ih =>
    rw [List.all_cons, Bool.and_eq_true] at plain
    obtain ⟨first, plain⟩ := plain
    obtain ⟨above, here⟩ := not_mark_of_plain first
    have safe : plainLetters.all isPathSafe = true := by decide
    have kept : percentEncode isPathSafe name = name := percentEncode_of_kept fun c inside =>
      List.all_eq_true.mp safe c ((isPlainName_iff.mp first).2 c inside)
    rw [resolveSegments, if_neg (by simp [above]), if_neg (by simp [here]), kept, ih plain,
      List.reverse_cons, List.append_assoc, List.singleton_append]

/-- The paths that are asked for behind an origin. -/
def originPaths : List String :=
  ["/donation/once/initiate", "/donation/once/complete", Settings.defaultPlanPath,
    Settings.formerPlanPath, "/error"]

theorem sentPath_chars (p : PlainPath) : sentPath p.chars = p.chars := by
  obtain ⟨rest, made⟩ := p.exists_chars
  rw [sentPath, p.map_slash, made]
  simp only [List.head?_cons, ↓reduceIte, List.drop_one, List.tail_cons]
  rw [p.splitAt_rest made, resolveSegments_of_plain p.plain, ← made]
  rfl

theorem readReference_chars (p : PlainPath) : HttpUrl.readReference p.chars = (p.chars, none) := by
  have noHash : '#' ∉ p.chars := p.not_mem_chars (by decide)
  have noMark : '?' ∉ p.chars := p.not_mem_chars (by decide)
  simp [HttpUrl.readReference, cutAt_of_not_mem noHash, cutAt_of_not_mem noMark, sentPath_chars]

namespace PlainPath

theorem text_eq_iff {p : PlainPath} {path : String} : p.text = path ↔ p.chars = path.toList := by
  rw [← String.toList_inj, text, String.toList_ofList]

def error : PlainPath := ⟨["error".toList], by decide, by decide⟩

theorem exists_text {path : String} (known : path ∈ originPaths) :
    ∃ p : PlainPath, p.text = path := by
  simp only [originPaths, List.mem_cons, List.not_mem_nil, or_false] at known
  rcases known with rfl | rfl | rfl | rfl | rfl
  · exact ⟨⟨["donation".toList, "once".toList, "initiate".toList], by decide, by decide⟩,
      text_eq_iff.mpr (by decide)⟩
  · exact ⟨⟨["donation".toList, "once".toList, "complete".toList], by decide, by decide⟩,
      text_eq_iff.mpr (by decide)⟩
  · exact ⟨⟨["donation".toList, "plan".toList, "complete".toList], by decide, by decide⟩,
      text_eq_iff.mpr (by decide)⟩
  · exact ⟨⟨["subscription".toList, "capture".toList], by decide, by decide⟩,
      text_eq_iff.mpr (by decide)⟩
  · exact ⟨error, text_eq_iff.mpr (by decide)⟩

end PlainPath

end DonationPage
