import DonationPage.Origin
import DonationPage.Proofs.Json.Writing
import DonationPage.Proofs.Text.FormData
import DonationPage.Proofs.Url.PlainOrigin
/-! What the origin is sent. Each request of it is one post of form data, whose body is read as the
fields of the form that was sent, so no two forms look alike to the origin. Settings may put the paths
behind an origin that no request can be sent to: of such a post nothing is sent. -/
namespace DonationPage

open Json

namespace FormPost

variable {p : FormPost}

theorem message_of_destination {url : HttpUrl} (place : HttpUrl.destination p.url = .ok url) :
    p.message =
      .ok ⟨"POST", url, "application/x-www-form-urlencoded", p.hxRequest?, p.body⟩ := by
  rw [message, place]
  rfl

theorem message_of_fault {fault : TransportFault} (none : HttpUrl.destination p.url = .error fault) :
    p.message = .error fault := by
  rw [message, none]
  rfl

theorem sent_of_destination {url : HttpUrl} (place : HttpUrl.destination p.url = .ok url) :
    p.sent = [⟨"POST", url, "application/x-www-form-urlencoded", p.hxRequest?, p.body⟩] := by
  rw [sent, message_of_destination place]
  rfl

theorem sent_of_fault {fault : TransportFault} (none : HttpUrl.destination p.url = .error fault) :
    p.sent = [] := by
  rw [sent, message_of_fault none]
  rfl

theorem hxRequest?_of_sent {message : Message} (member : message ∈ p.sent) :
    message.hxRequest? = p.hxRequest? := by
  cases place : HttpUrl.destination p.url with
  | error fault =>
    rw [sent_of_fault place] at member
    cases member
  | ok url =>
    rw [sent_of_destination place, List.mem_singleton] at member
    rw [member]

end FormPost

theorem Network.ofCarrier_of_fault {p : FormPost} {fault : TransportFault}
    (none : HttpUrl.destination p.url = .error fault)
    (carry : Message → Except TransportFault RawReply) : ofCarrier carry p = .error fault := by
  rw [ofCarrier, FormPost.message_of_fault none]
  rfl

namespace Origin

variable {settings settings' : Settings} {r r' : Request} {path path' : String}
  {fields fields' : List (String × String)} {hx? hx'? : Option String}

theorem posts_cons (settings : Settings) (call : Call) (calls : List Call) :
    posts settings (call :: calls) = posts settings [call] ++ posts settings calls :=
  List.filterMap_append (l := [call])

theorem sent_request {call : OriginCall r.Answer} (calls : call? settings r = some call) :
    sent settings [.request r] = call.post.sent := by
  simp [sent, posts, calls]

theorem conclude_of_received {α : Type} (call : OriginCall α) {raw : RawReply} {reply : Reply}
    (received : raw.toReply? = some reply) : call.conclude (.ok raw) = call.accept reply := by
  simp only [OriginCall.conclude, OriginCall.reply, received]

/-- The request is one post of the fields, to the path behind the origin, and what the network brings
to that post answers it. Where the URL is one to send a request to, one message is sent there, with the
body of the post. Elsewhere none is sent, and the request fails for that reason whatever carries
messages. -/
def SentAs (settings : Settings) (r : Request) (path : String)
    (fields : List (String × String)) (hx? : Option String) : Prop :=
  ∃ post meaning, posts settings [.request r] = [post] ∧
    (∀ network provider before,
      respondent settings network provider before r = (network before post).map meaning) ∧
    post.url = settings.origin ++ path ∧ decodeForm post.body = fields ∧
    match HttpUrl.destination (settings.origin ++ path) with
    | .ok url =>
      sent settings [.request r] =
        [⟨"POST", url, "application/x-www-form-urlencoded", hx?, post.body⟩]
    | .error fault =>
      sent settings [.request r] = [] ∧
      ∀ carry, meaning (Network.ofCarrier carry post) = .error (.transport fault)

def bodies (settings : Settings) (r : Request) : List String :=
  (posts settings [.request r]).map FormPost.body

theorem SentAs.fields_eq (asked : SentAs settings r path fields hx?)
    (asked' : SentAs settings' r' path' fields' hx'?)
    (same : bodies settings r = bodies settings' r') : fields = fields' := by
  obtain ⟨post, -, only, -, -, read, -⟩ := asked
  obtain ⟨post', -, only', -, -, read', -⟩ := asked'
  rw [bodies, bodies, only, only'] at same
  have body : post.body = post'.body := by simpa using same
  rw [← read, ← read', body]

theorem SentAs.of_call {call : OriginCall r.Answer} (calls : call? settings r = some call)
    (url : call.post.url = settings.url path) (body : call.post.body = encodeForm fields)
    (hx : call.post.hxRequest? = hx?) : SentAs settings r path fields hx? := by
  have posted : posts settings [.request r] = [call.post] := by simp [posts, calls]
  refine ⟨call.post, call.conclude, posted, ?_, url, ?_, ?_⟩
  · intro network provider before
    simp [respondent, calls]
  · rw [body, decodeForm_encodeForm]
  · rw [Settings.url] at url
    rw [sent_request calls, ← hx]
    split
    · next place =>
      rw [← url] at place
      exact FormPost.sent_of_destination place
    · next none =>
      rw [← url] at none
      refine ⟨FormPost.sent_of_fault none, fun carry => ?_⟩
      rw [Network.ofCarrier_of_fault none]
      rfl

theorem SentAs.bodies_iff {Form : Type} {request : Form → Request} {path : Settings → String}
    {fields : Form → List (String × String)} (apart : Function.Injective fields)
    (asked : ∀ settings form,
      SentAs settings (request form) (path settings) (fields form) hx?)
    (bodies_eq : ∀ settings settings' form,
      bodies settings (request form) = bodies settings' (request form))
    (settings settings' : Settings) (form form' : Form) :
    bodies settings (request form) = bodies settings' (request form') ↔ form = form' := by
  constructor
  · intro same
    exact apart ((asked settings form).fields_eq (asked settings' form') same)
  · rintro rfl
    exact bodies_eq settings settings' form

theorem sentAs_initiate (settings : Settings) (form : InitiateForm) :
    SentAs settings (.initiate form) "/donation/once/initiate" form.fields none :=
  .of_call rfl rfl rfl rfl

theorem sentAs_completeOnce (settings : Settings) (form : CompleteOnceForm) :
    SentAs settings (.completeOnce form) "/donation/once/complete" form.fields none :=
  .of_call rfl rfl rfl rfl

theorem sentAs_completePlan (settings : Settings) (form : CompletePlanForm) :
    SentAs settings (.completePlan form) settings.planPath form.fields none :=
  .of_call rfl rfl rfl rfl

theorem sentAs_reportError (settings : Settings) (text : String) :
    SentAs settings (.reportError text) "/error" [("error", text)] (some "true") :=
  .of_call rfl rfl rfl rfl

theorem hxRequest?_of_sent {message : Message} (member : message ∈ sent settings [.request r]) :
    message.hxRequest?.isSome = true ↔ ∃ text, r = .reportError text := by
  obtain ⟨post, posted, member⟩ := List.mem_flatMap.mp member
  rw [FormPost.hxRequest?_of_sent member]
  cases r with
  | reportError text =>
    rw [List.mem_singleton.mp posted]
    exact ⟨fun _ => ⟨text, rfl⟩, fun _ => rfl⟩
  | initiate form | completeOnce form | completePlan form =>
    rw [List.mem_singleton.mp posted]
    exact ⟨nofun, nofun⟩
  | subscribe request | capture order | snapshot approval => cases posted

theorem intText_injective {a b : Int64} (same : intText a.toInt = intText b.toInt) : a = b := by
  have digits : intDigits a.toInt = intDigits b.toInt := String.ofList_inj.mp same
  exact Int64.toInt_inj.mp (intDigits_inj.mp digits)

theorem initiate_fields_injective : Function.Injective InitiateForm.fields := by
  intro form form' same
  simp only [InitiateForm.fields, List.cons.injEq, Prod.mk.injEq, true_and, and_true] at same
  obtain ⟨fund, cents⟩ := same
  cases form
  cases form'
  rw [InitiateForm.mk.injEq]
  exact ⟨fund, intText_injective cents⟩

theorem once_fields_injective : Function.Injective CompleteOnceForm.fields := by
  intro form form' same
  simp only [CompleteOnceForm.fields, List.cons_append, List.nil_append, List.cons.injEq,
    Prod.mk.injEq, true_and, sparseField_inj] at same
  cases form
  cases form'
  rw [CompleteOnceForm.mk.injEq]
  exact same

theorem plan_fields_injective : Function.Injective CompletePlanForm.fields := by
  intro form form' same
  simp only [CompletePlanForm.fields, List.cons_append, List.nil_append, List.cons.injEq,
    Prod.mk.injEq, true_and, sparseField_inj] at same
  cases form
  cases form'
  rw [CompletePlanForm.mk.injEq]
  exact same

end Origin

end DonationPage
