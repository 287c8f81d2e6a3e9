import DonationPage.Origin
import DonationPage.Proofs.Except
import DonationPage.Proofs.Url.PlainPath
import Mathlib.Data.List.TakeWhile
/-! A path behind an origin. Where a request can be sent to an origin with one path of plain names
behind it, one can be sent to it with any other that is no longer: they name the same host. -/
namespace DonationPage

theorem exists_resolveSegments (before done : List (List Char)) :
    ∃ front, ∀ p : PlainPath, resolveSegments done (before ++ p.names) = front ++ p.names := by
  induction before generalizing done with
  | nil => exact ⟨done.reverse, fun p => resolveSegments_of_plain p.plain done⟩
  | cons segment before ih =>
    -- Names follow, so the segment is not the last one.
    obtain ⟨front, behind⟩ := ih <| if isAbove segment then done.drop 1
      else if isHere segment then done else percentEncode isPathSafe segment :: done
    refine ⟨front, fun p => ?_⟩
    have more : before ++ p.names ≠ [] := by simp [p.nonempty]
    rw [← behind p, List.cons_append, resolveSegments]
    simp only [if_neg more]

theorem exists_sentPath {before : List Char}
    (rooted : ∀ c ∈ before.head?, HttpUrl.isSlash c = true) :
    ∃ front, ∀ p : PlainPath, sentPath (before ++ p.chars) = front ++ p.chars := by
  cases before with
  | nil =>
    exact ⟨[], sentPath_chars⟩
  | cons c before =>
    let slashed := before.map fun c => if c = '\\' then '/' else c
    obtain ⟨front, behind⟩ := exists_resolveSegments (splitAt '/' slashed) []
    have slash : (if c = '\\' then '/' else c) = '/' := by
      have among := rooted c rfl
      grind [HttpUrl.isSlash]
    refine ⟨front.flatMap ('/' :: ·), fun p => ?_⟩
    rw [List.cons_append, sentPath, List.map_cons, slash, List.map_append, p.map_slash]
    simp only [List.head?_cons, ↓reduceIte, List.drop_one, List.tail_cons]
    rw [p.splitAt_append_chars, behind, List.flatMap_append]
    rfl

namespace HttpUrl

def referenceText (reference : List Char × Option (List Char)) : List Char :=
  reference.1 ++ (reference.2.map ('#' :: ·)).getD []

theorem not_mem_append_chars {c : Char} {before : List Char} (free : c ∉ before)
    (other : c ∉ '/' :: plainLetters) (p : PlainPath) : c ∉ before ++ p.chars := by
  rw [List.mem_append, not_or]
  exact ⟨free, p.not_mem_chars other⟩

theorem exists_readReference {before : List Char}
    (starts : ∀ c ∈ before.head?, endsAuthority c = true) :
    ∃ front, ∀ p : PlainPath,
      referenceText (readReference (before ++ p.chars)) = front ++ p.chars := by
  -- What is put behind goes on the fragment if there is one, else on the query, else on the path.
  by_cases hash : '#' ∈ before
  · obtain ⟨reference, fragment, alone, cut⟩ := exists_cutAt_of_mem hash
    refine ⟨referenceText (readReference before), fun p => ?_⟩
    have safe := p.percentEncode_chars isFragmentSafe (by decide)
    simp [readReference, alone, cut, referenceText, percentEncode_append, safe]
  have noHash := not_mem_append_chars hash (by decide)
  by_cases mark : '?' ∈ before
  · obtain ⟨path, query, alone, cut⟩ := exists_cutAt_of_mem mark
    refine ⟨referenceText (readReference before), fun p => ?_⟩
    have safe := p.percentEncode_chars isQuerySafe (by decide)
    simp [readReference, cutAt_of_not_mem hash, cutAt_of_not_mem (noHash p), alone, cut,
      referenceText, percentEncode_append, safe]
  · have noMark := not_mem_append_chars mark (by decide)
    have rooted : ∀ c ∈ before.head?, isSlash c = true := by
      intro c first
      have ends := starts c first
      have member := List.mem_of_mem_head? first
      grind [endsAuthority]
    obtain ⟨front, behind⟩ := exists_sentPath rooted
    refine ⟨front, fun p => ?_⟩
    simp [readReference, cutAt_of_not_mem (noHash p), cutAt_of_not_mem (noMark p), referenceText,
      behind]

def ofParts (secure : Bool) (authority : Host × Nat)
    (reference : List Char × Option (List Char)) : HttpUrl :=
  ⟨secure, authority.1, authority.2, String.ofList reference.1, reference.2.map String.ofList⟩

def authorityText (secure : Bool) (authority : Host × Nat) : String :=
  (if secure then "https" else "http") ++ "://" ++ authority.1.text ++
    if authority.2 = defaultService secure then "" else ":" ++ Json.intText authority.2

theorem text_ofParts (secure : Bool) (authority : Host × Nat)
    (reference : List Char × Option (List Char)) :
    (ofParts secure authority reference).text =
      authorityText secure authority ++ String.ofList (referenceText reference) := by
  obtain ⟨target, fragment?⟩ := reference
  rw [text, authorityText, ofParts]
  dsimp only
  cases fragment? <;> simp [referenceText, ← String.toList_inj]

theorem authority_append (named : List Char) (p : PlainPath) :
    (named ++ p.chars).takeWhile (!endsAuthority ·) = named.takeWhile (!endsAuthority ·) ∧
    (named ++ p.chars).dropWhile (!endsAuthority ·) =
      named.dropWhile (!endsAuthority ·) ++ p.chars := by
  obtain ⟨tail, made⟩ := p.exists_chars
  have stops : endsAuthority '/' = true := by decide
  induction named with
  | nil => simp [made, stops]
  | cons c named ih =>
    by_cases ends : endsAuthority c = true
    · simp [ends]
    · simp [ends, ih]

section Rest

variable {secure : Bool} {rest : List Char} {p : PlainPath} {url : HttpUrl}

theorem ofRest_of_slashes (slashes : ∀ c ∈ rest, isSlash c = true) (tail : List Char) :
    ofRest secure (rest ++ tail) = ofRest secure tail := by
  rw [ofRest, List.dropWhile_append_of_pos slashes]
  rfl

theorem ofRest_behind (named : ¬∀ c ∈ rest, isSlash c = true)
    (read : ofRest secure (rest ++ p.chars) = .ok url) (p' : PlainPath) :
    ∃ url', ofRest secure (rest ++ p'.chars) = .ok url' ∧ url'.host = url.host ∧
      ∃ front, url.text = front ++ p.text ∧ url'.text = front ++ p'.text := by
  let behind := rest.dropWhile isSlash
  let reference := behind.dropWhile (!endsAuthority ·)
  have more : behind ≠ [] := mt List.dropWhile_eq_nil_iff.mp named
  have reads (p : PlainPath) : ofRest secure (rest ++ p.chars) =
      (readAuthority secure (behind.takeWhile (!endsAuthority ·))).map fun authority =>
        ofParts secure authority (readReference (reference ++ p.chars)) := by
    rw [ofRest, List.dropWhile_append, if_neg (by rwa [List.isEmpty_iff])]
    dsimp only
    rw [(authority_append _ p).1, (authority_append _ p).2]
    rfl
  have starts : ∀ c ∈ reference.head?, endsAuthority c = true := by
    intro c first
    have stops := List.head?_dropWhile_not (!endsAuthority ·) behind
    rw [Option.mem_def.mp first] at stops
    simpa using stops
  obtain ⟨front, ends⟩ := exists_readReference starts
  rw [reads] at read
  obtain ⟨authority, names, made⟩ := map_eq_ok.mp read
  refine ⟨ofParts secure authority (readReference (reference ++ p'.chars)), ?_, ?_,
    authorityText secure authority ++ String.ofList front, ?_, ?_⟩
  · rw [reads, names]
    rfl
  · rw [← made]
    rfl
  · rw [← made, text_ofParts, ends, String.ofList_append, String.append_assoc]
    rfl
  · rw [text_ofParts, ends, String.ofList_append, String.append_assoc]
    rfl

end Rest

theorem dropWhile_append_of_stops {f : Char → Bool} {rest : List Char}
    (stops : ∀ c ∈ rest, f c = false) (cs : List Char) :
    (cs ++ rest).dropWhile f = cs.dropWhile f ++ rest := by
  rw [List.dropWhile_append, dropWhile_of_none stops]
  split
  · next none => rw [List.isEmpty_iff.mp none, List.nil_append]
  · rfl

theorem exists_cleanUrl (before : List Char) :
    ∃ start, ∀ p : PlainPath, cleanUrl (before ++ p.chars) = start ++ p.chars := by
  refine ⟨(before.filter fun c => c ≠ '\t' ∧ c ≠ '\n' ∧ c ≠ '\r').dropWhile (·.toNat ≤ 0x20),
    fun p => ?_⟩
  have visible : ('/' :: plainLetters).all (fun c => decide (c ≠ '\t' ∧ c ≠ '\n' ∧ c ≠ '\r') &&
      !decide (c.toNat ≤ 0x20)) = true := by decide
  have visible (c : Char) (member : c ∈ p.chars) :=
    Bool.and_eq_true_iff.mp (List.all_eq_true.mp visible c (p.mem_chars member))
  have kept : (p.chars.filter fun c => c ≠ '\t' ∧ c ≠ '\n' ∧ c ≠ '\r') = p.chars :=
    List.filter_eq_self.mpr fun c member => (visible c member).1
  have stops : ∀ c ∈ p.chars, decide (c.toNat ≤ 0x20) = false :=
    fun c member => by simpa only [Bool.not_eq_true'] using (visible c member).2
  have stopsBack : ∀ c ∈ p.chars.reverse, decide (c.toNat ≤ 0x20) = false :=
    fun c member => stops c (List.mem_reverse.mp member)
  have back := dropWhile_append_of_stops stopsBack []
  rw [List.dropWhile_nil, List.nil_append] at back
  have more : p.chars.reverse.isEmpty = false := by
    obtain ⟨rest, made⟩ := p.exists_chars
    simp [made]
  rw [cleanUrl, List.filter_append, kept, dropWhile_append_of_stops stops, List.reverse_append,
    List.dropWhile_append, back, more, if_neg Bool.false_ne_true, List.reverse_append,
    List.reverse_reverse, List.reverse_reverse]

section Text

variable {origin : String} {p : PlainPath} {url : HttpUrl}

theorem toList_append_text (origin : String) (p : PlainPath) :
    (origin ++ p.text).toList = origin.toList ++ p.chars := by
  rw [String.toList_append, PlainPath.text, String.toList_ofList]

/-- A URL that can be read with one path at its end can be read with another, for the same host, or
both are read from their paths alone. -/
theorem ofText_behind (read : ofText (origin ++ p.text) = .ok url) (p' : PlainPath) :
    (∃ url', ofText (origin ++ p'.text) = .ok url' ∧ url'.host = url.host ∧
      ∃ front, url.text = front ++ p.text ∧ url'.text = front ++ p'.text) ∨
    ∃ secure, ofText (origin ++ p'.text) = ofRest secure p'.chars := by
  obtain ⟨start, clean⟩ := exists_cleanUrl origin.toList
  by_cases colon : ':' ∈ start
  · obtain ⟨scheme, rest, -, cut⟩ := exists_cutAt_of_mem colon
    have reads (p : PlainPath) : ofText (origin ++ p.text) =
        match readScheme? scheme with
        | some secure => ofRest secure (rest ++ p.chars)
        | none => .error .notHttp := by
      rw [ofText, toList_append_text, clean, cut]
      dsimp only
      cases readScheme? scheme <;> rfl
    rw [reads] at read ⊢
    cases known : readScheme? scheme with
    | none =>
      rw [known] at read
      cases read
    | some secure =>
      rw [known] at read
      -- Behind nothing but slashes the first name of the path is taken for the host.
      by_cases slashes : ∀ c ∈ rest, isSlash c = true
      · exact .inr ⟨secure, ofRest_of_slashes slashes p'.chars⟩
      · exact .inl (ofRest_behind slashes read p')
  · have free := not_mem_append_chars colon (by decide) p
    rw [ofText, toList_append_text, clean, cutAt_of_not_mem free] at read
    cases known : readScheme? (start ++ p.chars) <;> simp [known] at read

theorem destination_eq_ok {text : String} :
    destination text = .ok url ↔ ofText text = .ok url ∧ url.isSendable = true := by
  refine bind_eq_ok.trans ?_
  simp only [mapError_eq_ok]
  constructor
  · rintro ⟨url', read, checked⟩
    split at checked
    · next sendable =>
      cases checked
      exact ⟨read, sendable⟩
    · cases checked
  · rintro ⟨read, sendable⟩
    exact ⟨url, read, if_pos sendable⟩

/-- Where a request can be sent with one path behind an origin, one can be sent with any other that
is no longer, at least if its first name can stand for a host. -/
theorem destination_behind {p' : PlainPath} (place : destination (origin ++ p.text) = .ok url)
    (shorter : p'.text.utf8ByteSize ≤ p.text.utf8ByteSize)
    (alone : ∀ secure, ∃ url, ofRest secure p'.chars = .ok url ∧ url.isSendable = true) :
    ∃ url', destination (origin ++ p'.text) = .ok url' := by
  obtain ⟨read, sendable⟩ := destination_eq_ok.mp place
  rcases ofText_behind read p' with ⟨url', read', host, front, text, text'⟩ | ⟨secure, same⟩
  · refine ⟨url', destination_eq_ok.mpr ⟨read', ?_⟩⟩
    rw [isSendable, Bool.and_eq_true, decide_eq_true_eq, text, String.utf8ByteSize_append]
      at sendable
    rw [isSendable, Bool.and_eq_true, decide_eq_true_eq, host, text', String.utf8ByteSize_append]
    exact ⟨sendable.1, by omega⟩
  · obtain ⟨url', read', sendable'⟩ := alone secure
    exact ⟨url', destination_eq_ok.mpr ⟨same.trans read', sendable'⟩⟩

end Text

theorem destination_error {origin path : String} {url : HttpUrl} (known : path ∈ originPaths)
    (place : destination (origin ++ path) = .ok url) :
    ∃ url', destination (origin ++ "/error") = .ok url' := by
  have shortest : originPaths.all ("/error".utf8ByteSize ≤ ·.utf8ByteSize) = true := by decide
  have shorter := of_decide_eq_true (List.all_eq_true.mp shortest path known)
  have text : PlainPath.error.text = "/error" := PlainPath.text_eq_iff.mpr (by decide)
  obtain ⟨p, rfl⟩ := PlainPath.exists_text known
  rw [← text] at shorter ⊢
  refine destination_behind place shorter fun secure => ?_
  refine ⟨⟨secure, .name ["error".toList], defaultService secure, "/", none⟩, ?_⟩
  cases secure <;> decide +kernel

end HttpUrl

end DonationPage
