import DonationPage.Proofs.Except
import DonationPage.Settings
import Mathlib.Data.List.DropRight
/-! The origin that variables give. It is checked to be an http URL before slashes are taken off its
end, so of a URL that is a scheme and slashes alone the scheme is left without them. -/
namespace DonationPage.Settings

def originUrl (lookup : Lookup) : Except Failure String :=
  match lookup "DONATION_ORIGIN_URL" with
  | none => .error (.setup .noOrigin)
  | some url => if isHttpUrl url then .ok url else .error (.setup (.originNotHttp url))

def pollMillisOf (lookup : Lookup) : Except Failure UInt64 :=
  match lookup "DONATION_POPUP_POLL_MS" with
  | none => .ok 500
  | some text =>
    match pollPeriod? text with
    | some n => .ok n
    | none => .error (.setup (.pollPeriod text))

theorem ofLookup_eq (lookup : Lookup) : ofLookup lookup =
    (originUrl lookup).bind fun url =>
      (rootedPath lookup "DONATION_SUCCESS_PATH" "/donation/success").bind fun successPath =>
        (rootedPath lookup "DONATION_PLAN_COMPLETE_PATH" defaultPlanPath).bind fun path =>
          (knownPlanPath path).bind fun planPath =>
            (pollMillisOf lookup).bind fun pollMillis =>
              .ok ⟨trimSlashes url, successPath, planPath,
                (lookup "DONATION_ERROR_TARGET").getD "#donation", pollMillis⟩ := by
  unfold ofLookup originUrl
  cases lookup "DONATION_ORIGIN_URL" with
  | none => rfl
  | some url =>
    dsimp only
    split
    · refine congrArg (Except.bind (rootedPath lookup "DONATION_SUCCESS_PATH" _))
        (funext fun successPath => ?_)
      refine congrArg (Except.bind (rootedPath lookup "DONATION_PLAN_COMPLETE_PATH" _))
        (funext fun path => ?_)
      refine congrArg (Except.bind (knownPlanPath path)) (funext fun planPath => ?_)
      unfold pollMillisOf
      cases lookup "DONATION_POPUP_POLL_MS" with
      | none => rfl
      | some text =>
        dsimp only
        cases pollPeriod? text <;> rfl
    · rfl

theorem ofLookup_eq_ok {lookup : Lookup} {s : Settings} : ofLookup lookup = .ok s ↔
    ∃ url, originUrl lookup = .ok url ∧ s.origin = trimSlashes url ∧
      rootedPath lookup "DONATION_SUCCESS_PATH" "/donation/success" = .ok s.successPath ∧
      (rootedPath lookup "DONATION_PLAN_COMPLETE_PATH" defaultPlanPath).bind knownPlanPath =
        .ok s.planPath ∧
      pollMillisOf lookup = .ok s.pollMillis ∧
      s.errorTarget = (lookup "DONATION_ERROR_TARGET").getD "#donation" := by
  simp only [ofLookup_eq, bind_eq_ok]
  constructor
  · rintro ⟨url, hasUrl, successPath, success, path, rooted, planPath, known, pollMillis, poll, made⟩
    cases made
    exact ⟨url, hasUrl, rfl, success, ⟨path, rooted, known⟩, poll, rfl⟩
  · rintro ⟨url, hasUrl, origin, success, ⟨path, rooted, known⟩, poll, target⟩
    refine ⟨url, hasUrl, _, success, path, rooted, _, known, _, poll, ?_⟩
    rw [← origin, ← target]

theorem ofLookup_eq_error {lookup : Lookup} {failure : Failure}
    (refused : ofLookup lookup = .error failure) : ∃ fault, failure = .setup fault := by
  simp only [ofLookup_eq, bind_eq_error, originUrl, rootedPath, knownPlanPath, pollMillisOf]
    at refused
  grind

theorem hasStart_iff {start text : String} :
    hasStart start text = true ↔ ∃ rest, text = start ++ rest := by
  rw [hasStart, List.isPrefixOf_iff_prefix]
  constructor
  · rintro ⟨rest, append⟩
    exact ⟨String.ofList rest, String.toList_inj.mp (by simp [append])⟩
  · rintro ⟨rest, rfl⟩
    exact ⟨rest.toList, by simp⟩

theorem rootedPath_eq_ok {lookup : Lookup} {key default path : String}
    (rooted : rootedPath lookup key default = .ok path) : path = (lookup key).getD default := by
  unfold rootedPath at rooted
  grind

def webSchemes : List String := ["http", "https"]

def IsHttp (url : String) : Prop := ∃ scheme ∈ webSchemes, ∃ rest, url = scheme ++ "://" ++ rest

def SchemeAlone (url : String) : Prop :=
  ∃ scheme ∈ webSchemes, ∃ n, url = scheme ++ "://" ++ String.ofList (List.replicate n '/')

theorem isHttpUrl_iff {url : String} : isHttpUrl url = true ↔ IsHttp url := by
  rw [isHttpUrl, Bool.or_eq_true, hasStart_iff, hasStart_iff]
  simp [IsHttp, webSchemes]

instance (url : String) : Decidable (IsHttp url) := decidable_of_iff _ isHttpUrl_iff

theorem originUrl_eq_ok {lookup : Lookup} {url : String} :
    originUrl lookup = .ok url ↔ lookup "DONATION_ORIGIN_URL" = some url ∧ IsHttp url := by
  unfold originUrl
  rw [← isHttpUrl_iff]
  grind

theorem toList_trimSlashes (text : String) :
    (trimSlashes text).toList = text.toList.rdropWhile (· = '/') := by
  rw [trimSlashes, String.toList_ofList, List.rdropWhile]

theorem trimSlashes_last (text : String) : (trimSlashes text).toList.getLast? ≠ some '/' := by
  rw [toList_trimSlashes]
  intro last
  obtain ⟨nonempty, slash⟩ := List.mem_getLast?_eq_getLast last
  exact List.rdropWhile_last_not _ _ nonempty (by simp [← slash])

theorem exists_trimSlashes (text : String) :
    ∃ n, text = trimSlashes text ++ String.ofList (List.replicate n '/') := by
  let cut := text.toList.rtakeWhile (· = '/')
  have slashes : cut = List.replicate cut.length '/' := by
    rw [List.eq_replicate_iff]
    exact ⟨rfl, fun c taken => by simpa using List.mem_rtakeWhile_imp taken⟩
  refine ⟨cut.length, ?_⟩
  rw [← String.toList_inj, String.toList_append, toList_trimSlashes, String.toList_ofList,
    ← slashes, List.rdropWhile_append_rtakeWhile]

theorem trimSlashes_append {start rest : String} (other : trimSlashes rest ≠ "") :
    trimSlashes (start ++ rest) = start ++ trimSlashes rest := by
  have other : (rest.toList.reverse.dropWhile (· = '/')).isEmpty = false := by
    contrapose! other
    simpa [trimSlashes] using other
  simp [trimSlashes, List.dropWhile_append, other]

theorem trimSlashes_scheme (scheme : String) (n : Nat) :
    trimSlashes (scheme ++ "://" ++ String.ofList (List.replicate n '/')) = scheme ++ ":" := by
  rw [trimSlashes, ← String.toList_inj]
  simp

theorem IsHttp.slash {url : String} (http : IsHttp url) : '/' ∈ url.toList := by
  obtain ⟨scheme, -, rest, rfl⟩ := http
  simp

/-- The shape of an address to put paths after: something that ends in no slash follows the separator of
a web scheme. Whether all of it can be read as a URL is another matter. -/
def IsBase (origin : String) : Prop :=
  ∃ scheme ∈ webSchemes, ∃ host, origin = scheme ++ "://" ++ host ∧ host ≠ "" ∧
    host.toList.getLast? ≠ some '/'

theorem IsBase.isHttp {origin : String} (base : IsBase origin) : IsHttp origin := by
  obtain ⟨scheme, known, host, same, -⟩ := base
  exact ⟨scheme, known, host, same⟩

theorem not_isHttp_trimSlashes {url : String} (alone : SchemeAlone url) :
    ¬IsHttp (trimSlashes url) := by
  obtain ⟨scheme, known, n, rfl⟩ := alone
  rw [trimSlashes_scheme]
  have slashless : ∀ scheme ∈ webSchemes, '/' ∉ (scheme ++ ":").toList := by decide
  exact fun http => slashless scheme known http.slash

theorem isBase_trimSlashes {url : String} (http : IsHttp url) (host : ¬SchemeAlone url) :
    IsBase (trimSlashes url) := by
  obtain ⟨scheme, known, rest, rfl⟩ := http
  have other : trimSlashes rest ≠ "" := by
    intro none
    obtain ⟨n, slashes⟩ := exists_trimSlashes rest
    rw [none, String.empty_append] at slashes
    exact host ⟨scheme, known, n, by rw [← slashes]⟩
  exact ⟨scheme, known, _, trimSlashes_append other, other, trimSlashes_last rest⟩

/-- An origin is accepted if its URL is one of the web, and kept without the slashes at its end. What
is kept is a URL of the web, and every path from the root is put after it with one slash between,
exactly where more than slashes follows the scheme of the given URL. -/
theorem ofLookup_origin (lookup : Lookup) :
    (lookup "DONATION_ORIGIN_URL" = none → ofLookup lookup = .error (.setup .noOrigin)) ∧
    (∀ given, lookup "DONATION_ORIGIN_URL" = some given → ¬IsHttp given →
      ofLookup lookup = .error (.setup (.originNotHttp given))) ∧
    (∀ failure, ofLookup lookup = .error failure → ∃ fault, failure = .setup fault) ∧
    ∀ s, ofLookup lookup = .ok s → ∃ given, lookup "DONATION_ORIGIN_URL" = some given ∧
      IsHttp given ∧ (∃ n, given = s.origin ++ String.ofList (List.replicate n '/')) ∧
      s.origin.toList.getLast? ≠ some '/' ∧ (IsHttp s.origin ↔ ¬SchemeAlone given) ∧
      ((∀ rest, ∃ base, IsBase base ∧ s.url ("/" ++ rest) = base ++ "/" ++ rest) ↔
        ¬SchemeAlone given) := by
  refine ⟨fun unset => ?_, fun given set other => ?_, fun _ => ofLookup_eq_error, fun s made => ?_⟩
  · simp [ofLookup_eq, originUrl, unset, Except.bind]
  · rw [← isHttpUrl_iff] at other
    simp [ofLookup_eq, originUrl, set, other, Except.bind]
  · obtain ⟨given, told, origin, -⟩ := ofLookup_eq_ok.mp made
    obtain ⟨set, http⟩ := originUrl_eq_ok.mp told
    rw [origin]
    refine ⟨given, set, http, exists_trimSlashes given, trimSlashes_last given, ?_, ?_⟩
    · exact ⟨fun kept alone => not_isHttp_trimSlashes alone kept,
        fun host => (isBase_trimSlashes http host).isHttp⟩
    · constructor
      · intro urls alone
        obtain ⟨base, isBase, same⟩ := urls ""
        have same : trimSlashes given = base := by
          simpa [Settings.url, origin, ← String.toList_inj] using same
        exact not_isHttp_trimSlashes alone (same ▸ isBase.isHttp)
      · intro host rest
        exact ⟨_, isBase_trimSlashes http host, by rw [Settings.url, origin, String.append_assoc]⟩

theorem slashes_origin :
    ∃ s, ofLookup (.ofList [("DONATION_ORIGIN_URL", "http:///")]) = .ok s ∧ s.origin = "http:" ∧
      ¬IsHttp s.origin ∧ s.url "/error" = "http:/error" ∧ ¬IsHttp (s.url "/error") := by
  refine ⟨⟨"http:", "/donation/success", "/donation/plan/complete", "#donation", 500⟩, rfl, ?_⟩
  decide

end DonationPage.Settings
