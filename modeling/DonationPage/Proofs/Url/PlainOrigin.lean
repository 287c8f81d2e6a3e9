import DonationPage.Origin
import DonationPage.Proofs.Url.PlainHost
/-! Origins that a request can be sent to: a plain host, and a service if one is named. A path of
plain names behind one is asked for as it is written. -/
namespace DonationPage

/-- A plain host over either scheme, and the service if one is named. -/
structure PlainOrigin where
  secure : Bool
  host : PlainHost
  service? : Option UInt16

theorem cutAtService_append {host : List Char}
    (plain : ∀ c ∈ host, (c ≠ ':' && c ≠ '[') = true) (service? : Option (List Char)) :
    HttpUrl.cutAtService false (host ++ service?.elim [] (':' :: ·)) = (host, service?) := by
  induction host with
  | nil => cases service? <;> rfl
  | cons c host ih =>
    rw [List.forall_mem_cons] at plain
    obtain ⟨first, plain⟩ := plain
    simp only [Bool.and_eq_true, decide_eq_true_eq] at first
    simp [HttpUrl.cutAtService, first.1, first.2, ih plain]

theorem readService_digits (secure : Bool) (n : UInt16) :
    HttpUrl.readService secure (some (digits n.toNat)) = .ok n.toNat := by
  have read : (digits n.toNat).all Char.isDigit = true ∧
      digitsValue (digits n.toNat) < UInt16.size := by
    refine ⟨List.all_eq_true.mpr fun c => isDigit_of_mem_digits, ?_⟩
    rw [digitsValue_digits]
    exact n.toNat_lt
  obtain ⟨d, ds, made⟩ := List.exists_cons_of_ne_nil (digits_ne_nil n.toNat)
  have value := digitsValue_digits n.toNat
  rw [made] at read value ⊢
  exact (if_pos read).trans (by rw [value])

namespace PlainOrigin

variable (o : PlainOrigin)

def text : String :=
  (if o.secure then "https" else "http") ++ "://" ++ o.host.text ++
    (o.service?.map fun n => ":" ++ Json.intText n.toNat).getD ""

def service : Nat := (o.service?.map UInt16.toNat).getD (HttpUrl.defaultService o.secure)

def place (path : String) : HttpUrl := ⟨o.secure, o.host.host, o.service, path, none⟩

def serviceDigits? : Option (List Char) := o.service?.map fun n => digits n.toNat

def authority : List Char :=
  joinLabels o.host.labels ++ o.serviceDigits?.elim [] (':' :: ·)

theorem toList_text : o.text.toList =
    (if o.secure then "https" else "http").toList ++ ':' :: '/' :: '/' :: o.authority := by
  rw [text, authority, serviceDigits?]
  cases o.service? <;> simp [PlainHost.text, intText_natCast]

theorem mem_authority {c : Char} (member : c ∈ o.authority) : c ∈ ":.".toList ++ labelLetters := by
  rw [authority, List.mem_append] at member
  rcases member with named | served
  · exact List.mem_cons_of_mem _ (mem_joinLabels o.host.labels_plain named)
  · rw [serviceDigits?] at served
    cases known : o.service? with
    | none =>
      rw [known] at served
      cases served
    | some n =>
      rw [known] at served
      rcases List.mem_cons.mp served with rfl | digit
      · exact List.mem_cons_self
      · exact List.mem_cons_of_mem _ (List.mem_cons_of_mem _
          ((isPlainLabel_iff.mp (isPlainLabel_digits n.toNat)).2 c digit))

theorem all_authority {f : Char → Bool} (holds : (":.".toList ++ labelLetters).all f = true) :
    ∀ c ∈ o.authority, f c = true :=
  fun c member => List.all_eq_true.mp holds c (o.mem_authority member)

theorem readAuthority_authority :
    HttpUrl.readAuthority o.secure o.authority = .ok (o.host.host, o.service) := by
  have noUser : '@' ∉ o.authority := fun member => absurd (o.mem_authority member) (by decide)
  have cut := cutAtService_append (all_joinLabels (by decide) o.host.labels_plain)
    o.serviceDigits?
  have named := o.host.ofText_text
  rw [PlainHost.text, String.toList_ofList] at named
  have served : HttpUrl.readService o.secure o.serviceDigits? = .ok o.service := by
    rw [serviceDigits?, service]
    cases o.service? with
    | none => rfl
    | some n => exact readService_digits o.secure n
  rw [HttpUrl.readAuthority, splitAt_of_not_mem noUser]
  simp only [List.getLastD_cons, List.getLastD_nil, authority, cut, named, served]
  rfl

theorem exists_authority : ∃ c rest, o.authority = c :: rest ∧ HttpUrl.isSlash c = false := by
  obtain ⟨c, cs, made⟩ := List.exists_cons_of_ne_nil
    (joinLabels_ne_nil o.host.labels_plain o.host.labels_ne_nil)
  have noSlash := o.all_authority (f := (!HttpUrl.isSlash ·)) (by decide)
  have starts : o.authority = c :: (cs ++ o.serviceDigits?.elim [] (':' :: ·)) := by
    rw [authority, made, List.cons_append]
  refine ⟨c, _, starts, ?_⟩
  simpa using noSlash c (starts ▸ List.mem_cons_self)

theorem ofRest_authority (p : PlainPath) :
    HttpUrl.ofRest o.secure ('/' :: '/' :: o.authority ++ p.chars) = .ok (o.place p.text) := by
  obtain ⟨c, rest, starts, noSlash⟩ := o.exists_authority
  have named : ('/' :: '/' :: o.authority ++ p.chars).dropWhile HttpUrl.isSlash =
      o.authority ++ p.chars := by
    have slash : HttpUrl.isSlash '/' = true := by decide
    simp [starts, slash, noSlash]
  have inside : ∀ c ∈ o.authority, (!HttpUrl.endsAuthority c) = true := o.all_authority (by decide)
  obtain ⟨tail, path⟩ := p.exists_chars
  have ends : HttpUrl.endsAuthority '/' = true := by decide
  have stops : p.chars.takeWhile (!HttpUrl.endsAuthority ·) = [] ∧
      p.chars.dropWhile (!HttpUrl.endsAuthority ·) = p.chars := by simp [path, ends]
  rw [HttpUrl.ofRest, named]
  dsimp only
  rw [List.takeWhile_append_of_pos inside, List.dropWhile_append_of_pos inside, stops.1, stops.2,
    List.append_nil, readAuthority_authority, readReference_chars]
  rfl

theorem cleanUrl_of_visible {cs : List Char}
    (visible : cs.all (fun c => decide (0x20 < c.toNat)) = true) :
    HttpUrl.cleanUrl cs = cs := by
  have kept : (cs.filter fun c => c ≠ '\t' ∧ c ≠ '\n' ∧ c ≠ '\r') = cs := by
    refine List.filter_eq_self.mpr fun c member => decide_eq_true ⟨?_, ?_, ?_⟩
    all_goals
      rintro rfl
      exact absurd (List.all_eq_true.mp visible _ member) (by decide)
  have inner (c : Char) (member : c ∈ cs) : decide (c.toNat ≤ 0x20) = false :=
    decide_eq_false (Nat.not_le.mpr (of_decide_eq_true (List.all_eq_true.mp visible c member)))
  rw [HttpUrl.cleanUrl, kept, dropWhile_of_none inner,
    dropWhile_of_none fun c member => inner c (List.mem_reverse.mp member), List.reverse_reverse]

theorem ofText_text (p : PlainPath) :
    HttpUrl.ofText (o.text ++ p.text) = .ok (o.place p.text) := by
  have whole : (o.text ++ p.text).toList = (if o.secure then "https" else "http").toList ++
      ':' :: ('/' :: '/' :: o.authority ++ p.chars) := by
    simp [toList_text, PlainPath.text]
  have scheme : ∀ secure, ':' ∉ (if secure then "https" else "http").toList ∧
      HttpUrl.readScheme? (if secure then "https" else "http").toList = some secure := by decide
  have visible : (o.text ++ p.text).toList.all (fun c => decide (0x20 < c.toNat)) = true := by
    have named := List.all_eq_true.mpr (o.all_authority (f := (0x20 < ·.toNat)) (by decide))
    have path := List.all_eq_true.mpr (p.all_chars (f := (0x20 < ·.toNat)) (by decide))
    rw [whole, List.all_append, List.all_cons, List.all_append, List.all_cons, List.all_cons, named,
      path]
    cases o.secure <;> decide
  rw [HttpUrl.ofText, cleanUrl_of_visible visible, whole, cutAt_append (scheme o.secure).1]
  dsimp only
  rw [(scheme o.secure).2]
  exact o.ofRest_authority p

theorem utf8ByteSize_text_place (path : String) :
    (o.place path).text.utf8ByteSize ≤ (o.text ++ path).utf8ByteSize := by
  rw [HttpUrl.text, text, place, service, PlainHost.text_host]
  cases o.service? with
  | none => simp
  | some n =>
    by_cases usual : n.toNat = HttpUrl.defaultService o.secure
    · simp [usual]
    · simp [usual]

/-- The path is asked for behind the origin as both are written. -/
theorem destination_text (p : PlainPath)
    (short : (o.text ++ p.text).utf8ByteSize ≤ HttpUrl.longestUrl) :
    HttpUrl.destination (o.text ++ p.text) = .ok (o.place p.text) := by
  have fits := Nat.le_trans (o.utf8ByteSize_text_place p.text) short
  have sendable : (o.place p.text).isSendable = true := by
    rw [HttpUrl.isSendable, decide_eq_true fits, Bool.and_true]
    exact o.host.isSendable_host
  rw [HttpUrl.destination, ofText_text]
  exact if_pos sendable

theorem destination_of_mem {path : String} (known : path ∈ originPaths)
    (short : (o.text ++ path).utf8ByteSize ≤ HttpUrl.longestUrl) :
    HttpUrl.destination (o.text ++ path) = .ok (o.place path) := by
  obtain ⟨p, rfl⟩ := PlainPath.exists_text known
  exact o.destination_text p short

example : (HttpUrl.destination "http://127.0.0.1:8080/error").toOption =
    some (place ⟨false, .address 127 0 0 1, some 8080⟩ "/error") := by decide +kernel

end PlainOrigin

end DonationPage
