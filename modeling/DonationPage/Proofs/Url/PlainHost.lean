import DonationPage.Proofs.Url.PlainPath
import Mathlib.Data.Option.Basic
/-! Hosts named in plain letters, or by the four numbers of their address. They are read as they are
written. -/
namespace DonationPage

/-- What the labels of a plain host are written in. -/
def labelLetters : List Char := plainLetters ++ "0123456789".toList

def isPlainLabel (label : List Char) : Bool :=
  !label.isEmpty && label.all (labelLetters.contains ·)

theorem isPlainLabel_iff {label : List Char} :
    isPlainLabel label = true ↔ label ≠ [] ∧ ∀ c ∈ label, c ∈ labelLetters := by
  simp [isPlainLabel]

theorem isPlainLabel_of_isPlainName {name : List Char} (plain : isPlainName name = true) :
    isPlainLabel name = true := by
  obtain ⟨nonempty, letters⟩ := isPlainName_iff.mp plain
  exact isPlainLabel_iff.mpr ⟨nonempty, fun c inside => List.mem_append_left _ (letters c inside)⟩

section Label

variable {label : List Char}

theorem all_of_plainLabel {f : Char → Bool} (holds : labelLetters.all f = true)
    (plain : isPlainLabel label = true) : label.all f = true :=
  List.all_eq_true.mpr fun c inside =>
    List.all_eq_true.mp holds c ((isPlainLabel_iff.mp plain).2 c inside)

theorem dropStart?_of_not_mem {c : Char} {start cs : List Char} (needed : c ∈ start)
    (free : c ∉ cs) : dropStart? start cs = none := by
  induction start generalizing cs with
  | nil => cases needed
  | cons s start ih =>
    cases cs with
    | nil => rfl
    | cons d cs =>
      rw [List.mem_cons, not_or] at free
      rw [dropStart?]
      split
      · next same =>
        rcases List.mem_cons.mp needed with rfl | later
        · exact absurd same.symm free.1
        · exact ih later free.2
      · rfl

theorem readLabel?_of_plain (plain : isPlainLabel label = true) :
    readLabel? label = some label := by
  have noHyphen : '-' ∉ label := by
    intro inside
    exact absurd ((isPlainLabel_iff.mp plain).2 _ inside) (by decide)
  have uncoded : dropStart? "xn--".toList label = none := dropStart?_of_not_mem (by decide) noHyphen
  rw [readLabel?, uncoded]
  exact if_pos (.inl (all_of_plainLabel (by decide) plain))

theorem joinsWell_of_plain (visible : label.all (fun c => c ≠ joiner && c ≠ nonJoiner) = true)
    (before : List Char) : joinsWell before label = true := by
  induction label generalizing before with
  | nil => rfl
  | cons c label ih =>
    rw [List.all_cons, Bool.and_eq_true] at visible
    rw [joinsWell, ih visible.2, mayStand, visible.1]
    rfl

theorem isWellFormed_of_plain (plain : isPlainLabel label = true) :
    isWellFormed label = true := by
  have noMark : label.all (!startsAsMark ·) = true :=
    all_of_plainLabel (by decide +kernel) plain
  have starts : label.head?.any startsAsMark = false := by
    cases label with
    | nil => rfl
    | cons c label =>
      rw [List.all_cons, Bool.and_eq_true, Bool.not_eq_true'] at noMark
      exact noMark.1
  rw [isWellFormed, starts, joinsWell_of_plain (all_of_plainLabel (by decide) plain)]
  rfl

theorem hasRight_of_plain (plain : isPlainLabel label = true) : hasRight label = false := by
  have left : label.all (fun c =>
      !(Direction.ofChar c = .right || Direction.ofChar c = .arabicNumber)) = true :=
    all_of_plainLabel (by decide +kernel) plain
  simpa [hasRight] using left

end Label

/-- The text of a host name. -/
def joinLabels (labels : List (List Char)) : List Char := ['.'].intercalate labels

theorem mapM_eq_some_map {α β : Type} {f : α → Option β} {g : α → β} {as : List α}
    (all : ∀ a ∈ as, f a = some (g a)) : as.mapM f = some (as.map g) := by
  induction as with
  | nil => rfl
  | cons a as ih =>
    rw [List.forall_mem_cons] at all
    rw [List.mapM_cons, all.1, ih all.2]
    rfl

theorem spell?_of_kept {cs : List Char} (kept : ∀ c ∈ cs, spellChar? c = some [c])
    (allowed : ∀ c ∈ cs, isForbidden c = false) : spell? cs = some cs := by
  have spelled := mapM_eq_some_map kept
  have whole : (cs.map ([·])).flatten = cs := by
    rw [← List.flatMap_def, List.flatMap_singleton']
  have free : (cs.all fun c => ¬ isForbidden c) = true := by simpa using allowed
  simp only [spell?, spelled, Option.bind_eq_bind, Option.bind_some, whole,
    (Option.guard_eq_some' ()).mpr free]
  rfl

section Name

variable {name : List Char}

theorem all_isDigit_of_plainName (plain : isPlainName name = true) :
    name.all Char.isDigit = false := by
  obtain ⟨nonempty, letters⟩ := isPlainName_iff.mp plain
  obtain ⟨c, cs, rfl⟩ := List.exists_cons_of_ne_nil nonempty
  have noDigit : plainLetters.all (!Char.isDigit ·) = true := by decide
  have first := List.all_eq_true.mp noDigit c (letters c List.mem_cons_self)
  rw [Bool.not_eq_true'] at first
  rw [List.all_cons, first, Bool.false_and]

theorem readAddressNumber?_of_plainName (plain : isPlainName name = true) :
    readAddressNumber? name = none := by
  obtain ⟨nonempty, letters⟩ := isPlainName_iff.mp plain
  obtain ⟨c, cs, rfl⟩ := List.exists_cons_of_ne_nil nonempty
  -- A letter may be a digit in a larger base, but only a zero starts a number in one.
  have noDigit : plainLetters.all (fun c => c ≠ '0' && (valueInBase? 10 [c]).isNone) = true := by
    decide
  have first := List.all_eq_true.mp noDigit c (letters c List.mem_cons_self)
  simp only [Bool.and_eq_true, decide_eq_true_eq, Option.isNone_iff_eq_none] at first
  obtain ⟨other, none⟩ := first
  rw [readAddressNumber?]
  · rw [← List.singleton_append, valueInBase?, List.foldlM_append]
    exact congrArg (Option.bind · _) none
  · rintro ⟨⟩
  · rintro d ds ⟨⟩
    exact other rfl

end Name

section Labels

variable {labels : List (List Char)}

theorem mem_joinLabels {c : Char} (plain : labels.all isPlainLabel = true)
    (member : c ∈ joinLabels labels) : c ∈ '.' :: labelLetters := by
  cases labels with
  | nil => cases member
  | cons label labels =>
    rw [joinLabels, intercalate_cons, List.mem_append] at member
    rcases member with first | later
    · have plain := List.all_eq_true.mp plain label List.mem_cons_self
      exact List.mem_cons_of_mem _ ((isPlainLabel_iff.mp plain).2 c first)
    · obtain ⟨part, among, inside⟩ := List.mem_flatMap.mp later
      rcases List.mem_cons.mp inside with rfl | inside
      · exact List.mem_cons_self
      · have plain := List.all_eq_true.mp plain part (List.mem_cons_of_mem _ among)
        exact List.mem_cons_of_mem _ ((isPlainLabel_iff.mp plain).2 c inside)

theorem splitAt_joinLabels (plain : labels.all isPlainLabel = true) (nonempty : labels ≠ []) :
    splitAt '.' (joinLabels labels) = labels := by
  obtain ⟨label, rest, rfl⟩ := List.exists_cons_of_ne_nil nonempty
  rw [joinLabels, intercalate_cons, splitAt_eq_cons_iff]
  refine ⟨rfl, fun part among dot => ?_⟩
  have plain := List.all_eq_true.mp plain part among
  exact absurd ((isPlainLabel_iff.mp plain).2 _ dot) (by decide)

theorem all_joinLabels {f : Char → Bool} (holds : ('.' :: labelLetters).all f = true)
    (plain : labels.all isPlainLabel = true) : ∀ c ∈ joinLabels labels, f c = true :=
  fun c member => List.all_eq_true.mp holds c (mem_joinLabels plain member)

theorem readName?_joinLabels (plain : labels.all isPlainLabel = true) (nonempty : labels ≠ []) :
    readName? (joinLabels labels) = some labels := by
  have kept : ∀ c ∈ joinLabels labels, (spellChar? c == some [c]) = true :=
    all_joinLabels (by decide) plain
  have allowed : ∀ c ∈ joinLabels labels, (!isForbidden c) = true :=
    all_joinLabels (by decide) plain
  have spelled : spell? (joinLabels labels) = some (joinLabels labels) :=
    spell?_of_kept (by simpa using kept) (by simpa using allowed)
  have plain' := List.all_eq_true.mp plain
  have read : labels.mapM readLabel? = some (labels.map id) :=
    mapM_eq_some_map fun label among => readLabel?_of_plain (plain' label among)
  rw [List.map_id] at read
  have formed : labels.all isWellFormed = true :=
    List.all_eq_true.mpr fun label among => isWellFormed_of_plain (plain' label among)
  have left : labels.any hasRight = false := List.any_eq_false.mpr fun label among => by
    rw [hasRight_of_plain (plain' label among)]
    exact Bool.false_ne_true
  have meant : labels.all isWellFormed = true ∧
      (labels.any hasRight = true → labels.all goesOneWay = true) :=
    ⟨formed, fun right => absurd (left.symm.trans right) Bool.false_ne_true⟩
  simp only [readName?, spelled, splitAt_joinLabels plain nonempty, read, Option.bind_eq_bind,
    Option.bind_some, (Option.guard_eq_some' ()).mpr meant]
  rfl

theorem joinLabels_ne_nil (plain : labels.all isPlainLabel = true) (nonempty : labels ≠ []) :
    joinLabels labels ≠ [] := by
  intro none
  have parts := splitAt_joinLabels plain nonempty
  rw [none, splitAt] at parts
  rw [← parts] at plain
  exact absurd plain (by decide)

theorem dropRoot_of_plain (plain : labels.all isPlainLabel = true) : dropRoot labels = labels := by
  refine if_neg fun root => ?_
  exact absurd (List.all_eq_true.mp plain [] (List.mem_of_getLast? root)) (by decide)

theorem endsInNumber_of_names (plain : labels.all isPlainName = true) :
    endsInNumber labels = false := by
  have labelled : labels.all isPlainLabel = true := List.all_eq_true.mpr fun label among =>
    isPlainLabel_of_isPlainName (List.all_eq_true.mp plain label among)
  rw [endsInNumber, dropRoot_of_plain labelled]
  cases last : labels.getLast? with
  | none => rfl
  | some label =>
    have name := List.all_eq_true.mp plain label (List.mem_of_getLast? last)
    simp [all_isDigit_of_plainName name, readAddressNumber?_of_plainName name]

theorem ofText_joinLabels (plain : labels.all isPlainLabel = true) (nonempty : labels ≠ []) :
    Host.ofText (joinLabels labels) =
      if endsInNumber labels then
        ((readV4? labels).map fun address => .ok (.v4 address)).getD (.error .badV4)
      else .ok (.name labels) := by
  have kept : ∀ c ∈ joinLabels labels, isUnreserved c = true := all_joinLabels (by decide) plain
  have bytes : utf8Decode (percentDecode (joinLabels labels)) = joinLabels labels := by
    have escapes : isUnreserved '%' = false := rfl
    have written := percentDecode_percentEncode_self escapes (joinLabels labels)
    rw [percentEncode_of_kept kept] at written
    rw [written, utf8Decode_utf8Encode]
  have named : labels ≠ [[]] := by
    rintro rfl
    exact absurd plain (by decide)
  have unbracketed : ∀ c ∈ joinLabels labels, (c != '[') = true :=
    all_joinLabels (by decide) plain
  obtain ⟨c, cs, made⟩ := List.exists_cons_of_ne_nil (joinLabels_ne_nil plain nonempty)
  have other : c ≠ '[' := by simpa using unbracketed c (made ▸ List.mem_cons_self)
  rw [made] at bytes ⊢
  rw [Host.ofText, bytes, ← made, readName?_joinLabels plain nonempty]
  · dsimp only
    rw [if_neg named]
    cases readV4? labels <;> rfl
  · simp
  · rintro rest ⟨⟩
    exact other rfl

end Labels

theorem readAddressNumber?_digits (byte : UInt8) :
    readAddressNumber? (digits byte.toNat) = some byte.toNat := by
  have table : ∀ n < 256, readAddressNumber? (digits n) = some n := by decide +kernel
  exact table _ byte.toNat_lt

theorem mem_of_isDigit {c : Char} (digit : c.isDigit = true) : c ∈ "0123456789".toList := by
  have range : 48 ≤ c.toNat ∧ c.toNat ≤ 57 := Char.isDigit_iff_toNat.mp digit
  have table : ∀ n < 58, 48 ≤ n → Char.ofNat n ∈ "0123456789".toList := by decide
  rw [← Char.ofNat_toNat c]
  exact table c.toNat (by omega) range.1

theorem isPlainLabel_digits (n : Nat) : isPlainLabel (digits n) = true :=
  isPlainLabel_iff.mpr ⟨digits_ne_nil n, fun _ inside =>
    List.mem_append_right _ (mem_of_isDigit (isDigit_of_mem_digits inside))⟩

theorem intText_natCast (n : Nat) : Json.intText n = String.ofList (digits n) := by
  rw [Json.intText, intDigits, if_neg (Int.not_lt.mpr (Int.natCast_nonneg n)), Int.natAbs_natCast]

/-- A host in plain letters, or the four numbers of its address. -/
inductive PlainHost where
  | names (labels : List (List Char)) (nonempty : labels ≠ [])
      (plain : labels.all isPlainName = true)
  | address (a b c d : UInt8)

namespace PlainHost

def labels : PlainHost → List (List Char)
  | names labels _ _ => labels
  | address a b c d => [digits a.toNat, digits b.toNat, digits c.toNat, digits d.toNat]

def text (h : PlainHost) : String := String.ofList (joinLabels h.labels)

def host : PlainHost → Host
  | names labels _ _ => .name labels
  | address a b c d => .v4 (((a.toNat * 256 + b.toNat) * 256 + c.toNat) * 256 + d.toNat)

theorem labels_ne_nil (h : PlainHost) : h.labels ≠ [] := by
  cases h with
  | names labels nonempty plain => exact nonempty
  | address a b c d => exact List.cons_ne_nil _ _

theorem labels_plain (h : PlainHost) : h.labels.all isPlainLabel = true := by
  cases h with
  | names labels nonempty plain =>
    exact List.all_eq_true.mpr fun label among =>
      isPlainLabel_of_isPlainName (List.all_eq_true.mp plain label among)
  | address a b c d => simp [labels, isPlainLabel_digits]

theorem readV4?_address (a b c d : UInt8) : readV4? (address a b c d).labels =
    some (((a.toNat * 256 + b.toNat) * 256 + c.toNat) * 256 + d.toNat) := by
  have read : (address a b c d).labels.mapM readAddressNumber? =
      some [a.toNat, b.toNat, c.toNat, d.toNat] := by
    simp [labels, readAddressNumber?_digits]
  rw [readV4?, dropRoot_of_plain (labels_plain _), read]
  have a_lt : a.toNat < 256 := a.toNat_lt
  have b_lt : b.toNat < 256 := b.toNat_lt
  have c_lt : c.toNat < 256 := c.toNat_lt
  have d_lt : d.toNat < 256 := d.toNat_lt
  have bounded : [a.toNat, b.toNat, c.toNat].length ≤ 3 ∧
      [a.toNat, b.toNat, c.toNat].all (· < 256) = true ∧ d.toNat < Nat.pow 256 1 := by
    simp [a_lt, b_lt, c_lt, d_lt]
  refine (congrArg (Option.bind · _) ((Option.guard_eq_some' ()).mpr bounded)).trans ?_
  simp

theorem endsInNumber_address (a b c d : UInt8) :
    endsInNumber (address a b c d).labels = true := by
  rw [endsInNumber, dropRoot_of_plain (labels_plain _)]
  simp [labels, readAddressNumber?_digits]

theorem ofText_text (h : PlainHost) : Host.ofText h.text.toList = .ok h.host := by
  rw [text, String.toList_ofList, ofText_joinLabels h.labels_plain h.labels_ne_nil]
  cases h with
  | names labels nonempty plain =>
    have named : endsInNumber labels = false := endsInNumber_of_names plain
    exact if_neg (by simp [PlainHost.labels, named])
  | address a b c d =>
    rw [if_pos (endsInNumber_address a b c d), readV4?_address]
    rfl

theorem text_eq (h : PlainHost) : h.text = ".".intercalate (h.labels.map String.ofList) := by
  rw [text, joinLabels, ← String.toList_inj, String.toList_ofList, String.toList_intercalate,
    List.map_map]
  exact congrArg _ (List.map_id'' (fun cs => String.toList_ofList (l := cs)) _).symm

theorem address_host (h : PlainHost) : h.host.address = h.text := by
  rw [text_eq]
  cases h with
  | names labels nonempty plain => rfl
  | address a b c d =>
    have a_lt : a.toNat < 256 := a.toNat_lt
    have b_lt : b.toNat < 256 := b.toNat_lt
    have c_lt : c.toNat < 256 := c.toNat_lt
    have d_lt : d.toNat < 256 := d.toNat_lt
    rw [host, Host.address, v4Text]
    refine congrArg _ ?_
    simp only [labels, List.map_cons, List.map_nil, ← intText_natCast, List.cons.injEq, and_true,
      Nat.pow_eq, Nat.reducePow]
    refine ⟨congrArg _ ?_, congrArg _ ?_, congrArg _ ?_, congrArg _ ?_⟩
    all_goals omega

theorem text_host (h : PlainHost) : h.host.text = h.text := by
  rw [← address_host]
  cases h <;> rfl

theorem isSendable_host (h : PlainHost) : h.host.isSendable = true := by
  rw [Host.isSendable, address_host, text, String.toList_ofList, List.all_eq_true]
  exact all_joinLabels (by decide) h.labels_plain

end PlainHost

end DonationPage
