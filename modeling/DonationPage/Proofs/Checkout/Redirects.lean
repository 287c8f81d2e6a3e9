import DonationPage.Proofs.Checkout.CompletionForms
import DonationPage.Proofs.Text.Percent
/-! Where the page goes once the origin has confirmed a donation. The donor's given name is written
after the success path, so that it can be read again and nothing else can be read instead. -/
namespace DonationPage

theorem Step.map_result_eq_ok {α β : Type} {f : α → β} {step : Step α} {b : β} :
    (step.map f).result? = some (.ok b) ↔ ∃ a, step.result? = some (.ok a) ∧ f a = b := by
  simp [map, map_eq_ok]

namespace Checkout

variable {respond : Respondent} {before : List Call} {c : Checkout} {target : String}

theorem Conclusion.success {q : Request} {name : String} {step : Step Outcome}
    (concluded : Conclusion respond before c q name step)
    (succeeded : step.result? = some (.ok (.success target))) :
    target = c.successTarget name ∧ .page (.navigate target) ∈ step.calls := by
  cases concluded <;> simp_all

theorem Move.success {op : Operation} {step : Step Product} (move : Move respond before c op step)
    (succeeded : step.result? = some (.ok (.outcome (.success target)))) :
    ∃ approval q name, op = .approve approval ∧
      c.completion? respond before approval = some (.ok (q, name)) ∧
      target = c.successTarget name ∧ .page (.navigate target) ∈ step.calls := by
  cases move with
  | approved accepted settled =>
    cases settled with
    | @fetched r q name step asks answered concluded =>
      obtain ⟨_, succeeded, ⟨⟩⟩ := Step.map_result_eq_ok.mp succeeded
      obtain ⟨goes, calls⟩ := concluded.success succeeded
      exact ⟨_, q, name, rfl, answered, goes, List.mem_cons_of_mem _ calls⟩
    | _ => simp_all [Step.map, Except.map]
  | _ => simp_all

end Checkout

namespace Session

variable (s : Session)

/-- The donor's given name, as the provider tells it once an operation approves of the order. -/
def givenName? (ops : List Operation) : Operation → Option String
  | .approve approval =>
    match s.intent.kind with
    | .oneTime =>
      match s.respond (s.calls ops) (.capture approval.order) with
      | some (.ok capture) => some capture.payer.name.given
      | _ => none
    | .recurring =>
      match s.respond (s.calls ops) (.snapshot approval) with
      | some (.ok snapshot) => some snapshot.subscriber.name.given
      | _ => none
  | _ => none

/-- The operation completes the donation, and redirects to the target. -/
def Redirects (ops : List Operation) (op : Operation) (target : String) : Prop :=
  (s.next ops op).result? = some (.ok (.outcome (.success target)))

variable {s}

theorem givenName_of_completion {ops : List Operation} {approval : Approval} {q : Request}
    {name : String}
    (answered : (s.checkout ops).completion? s.respond (s.calls ops) approval =
      some (.ok (q, name))) :
    s.givenName? ops (.approve approval) = some name := by
  cases kind : s.intent.kind with
  | oneTime =>
    have once : (s.checkout ops).intent.kind = .oneTime := (s.same ops).1 ▸ kind
    obtain ⟨capture, r, captured, result, -, rfl⟩ :=
      (Checkout.completion_oneTime once).mp answered
    have told : r.payer.givenName = capture.payer.name.given :=
      (Checkout.onceForm_tellsOf (c := s.checkout ops) result).firstName
    simp only [givenName?, kind, captured, told]
  | recurring =>
    have recurring : (s.checkout ops).intent.kind = .recurring := (s.same ops).1 ▸ kind
    obtain ⟨_, _, snapshot, r, hasProviderPlan, hasPlan, looked, result, -, rfl⟩ :=
      (Checkout.completion_recurring recurring).mp answered
    have tells : ((s.checkout ops).planForm approval _ _ r).TellsOf _ approval snapshot :=
      Checkout.planForm_tellsOf hasProviderPlan hasPlan result
    have told : r.subscriber.givenName = snapshot.subscriber.name.given := tells.firstName
    simp only [givenName?, kind, looked, told]

theorem Redirects.eq {ops : List Operation} {op : Operation} {target : String}
    (redirects : s.Redirects ops op target) :
    ∃ name, s.givenName? ops op = some name ∧
      target = s.settings.successPath ++ "?name=" ++ encodeQueryValue name ∧
      .page (.navigate target) ∈ (s.next ops op).calls := by
  obtain ⟨approval, q, name, rfl, answered, goes, calls⟩ := (s.move_next ops op).success redirects
  rw [Checkout.successTarget, (s.same ops).2] at goes
  exact ⟨name, givenName_of_completion answered, goes, calls⟩

/-- A redirect goes to the success path with the donor's given name in a query. The name is written
in characters that stand for themselves and in bytes of two digits each, so it brings in nothing that
a URL is cut at, its bytes are read again from what is written, and other names go elsewhere. -/
theorem redirect_encodes {ops : List Operation} {op : Operation} {target : String}
    (redirects : s.Redirects ops op target) :
    ∃ name value, s.givenName? ops op = some name ∧
      .page (.navigate target) ∈ (s.next ops op).calls ∧
      target = s.settings.successPath ++ "?name=" ++ value ∧
      PercentEncoded isUnreserved value.toList ∧
      (percentDecode value.toList).toByteArray = name.toUTF8 ∧
      (∀ c ∈ value.toList, ' ' < c ∧ c < '\x7f' ∧ c ∉ ['&', '=', '#', '?', '/', '+']) ∧
      ∀ (t : Session) (others : List Operation) (other : Operation) (elsewhere : String),
        t.settings.successPath = s.settings.successPath → t.Redirects others other elsewhere →
        t.givenName? others other ≠ some name → elsewhere ≠ target := by
  obtain ⟨name, told, rfl, calls⟩ := redirects.eq
  have bytes (text : String) :
      (percentDecode (encodeQueryValue text).toList).toByteArray = text.toUTF8 := by
    rw [percentDecode_encodeQueryValue, toByteArray_utf8Encode]
  refine ⟨name, encodeQueryValue name, told, calls, rfl, ?_, bytes name, ?_, ?_⟩
  · rw [encodeQueryValue, String.toList_ofList]
    exact percentEncoded_percentEncode isUnreserved name.toList
  · intro c member
    rcases isUnreserved_of_mem_encodeQueryValue member with plain | rfl
    · obtain ⟨low, high⟩ := visible_of_isUnreserved plain
      refine ⟨low, high, fun cuts => ?_⟩
      simp only [List.mem_cons, List.not_mem_nil, or_false] at cuts
      rcases cuts with rfl | rfl | rfl | rfl | rfl | rfl <;> exact absurd plain (by decide)
    · decide
  · rintro t others other elsewhere path redirected differs rfl
    obtain ⟨otherName, otherTold, same, -⟩ := redirected.eq
    rw [path, String.append_right_inj] at same
    have sameBytes : otherName.toUTF8 = name.toUTF8 := by
      rw [← bytes, ← bytes, same]
    simp only [String.toUTF8_eq_toByteArray, String.toByteArray_inj] at sameBytes
    exact differs (by rw [otherTold, sameBytes])

def paidBy (settings : Settings) (name : String) : Session where
  intent := (usual .oneTime).intent
  settings := settings
  respond before r :=
    match r with
    | .capture order => some (.ok ⟨order.text, "COMPLETED",
        ⟨"PAYER1", "a@b.com", name, "Lovelace"⟩, [⟨⟨"USD", "25.00"⟩, none⟩]⟩)
    | r => (usual .oneTime).respond before r

theorem paidBy_redirects (settings : Settings) (name : String) :
    (paidBy settings name).Redirects [.initiate] (.approve ⟨⟨"O1"⟩, none⟩)
      (settings.successPath ++ "?name=" ++ encodeQueryValue name) ∧
    (paidBy settings name).givenName? [.initiate] (.approve ⟨⟨"O1"⟩, none⟩) = some name :=
  ⟨rfl, rfl⟩

theorem paidBy_encodes :
    ∃ target value, (paidBy (.ofOrigin "http://origin.test") "Zoë & Ada").Redirects [.initiate]
        (.approve ⟨⟨"O1"⟩, none⟩) target ∧
      target = "/donation/success?name=Zo%C3%AB%20%26%20Ada" ∧
      target = "/donation/success" ++ "?name=" ++ value ∧
      (percentDecode value.toList).toByteArray = "Zoë & Ada".toUTF8 := by
  obtain ⟨redirects, told⟩ := paidBy_redirects (.ofOrigin "http://origin.test") "Zoë & Ada"
  obtain ⟨name, value, given, -, goes, -, read, -⟩ := redirect_encodes redirects
  cases told.symm.trans given
  exact ⟨_, value, redirects, by decide, goes, read⟩

end Session
end DonationPage
