import DonationPage.Proofs.Json.Tables
import DonationPage.Proofs.Origin.Posts
/-! What the origin's replies mean. A reply to a request for an order is an order, or a failure that
says why there is none; any reply to a completion is an answer; a report is answered with a fragment,
or rejected. Wherever a reply is a failure, the origin's own words are what is reported of it. -/
namespace DonationPage

open Json

def Confirming (status : UInt16) : Prop := 200 ≤ status ∧ status ≤ 299

theorem Confirming.ne_422 {status : UInt16} (confirms : Confirming status) : status ≠ 422 := by
  rintro rfl
  exact absurd confirms.2 (by decide)

/-- A body that is an object of objects of texts: the messages of each form by its fields, the last of
each key. -/
def FieldErrors.Spelled (body : String) (errors : FieldErrors) : Prop :=
  ∃ core, AmongSpaces body core ∧ SpellsTable (SpellsTable SpellsText) core errors.forms

theorem FieldErrors.decode_eq_ok {body : String} {errors : FieldErrors} :
    decode FieldErrors body = .ok errors ↔ Spelled body errors := by
  have reads : Reads (Payload.shape FieldErrors).read (SpellsTable (SpellsTable SpellsText)) := by
    change Reads (Shape.read (.table (.table .text))) _
    rw [Shape.read, Shape.read, Shape.read]
    exact reads_readTable (reads_readTable reads_readTextValue)
  refine (Json.decode_eq_ok reads).trans ?_
  constructor
  · rintro ⟨core, forms, among, spelled, rfl⟩
    exact ⟨core, among, spelled⟩
  · rintro ⟨core, among, spelled⟩
    exact ⟨core, errors.forms, among, spelled, rfl⟩

theorem FieldErrors.Spelled.unique {body : String} {errors others : FieldErrors}
    (spelled : Spelled body errors) (again : Spelled body others) : errors = others :=
  Except.ok.inj ((decode_eq_ok.mpr spelled).symm.trans (decode_eq_ok.mpr again))

namespace Reply

variable {reply : Reply}

theorem isSuccess_iff : reply.isSuccess = true ↔ Confirming reply.status := by
  simp only [Reply.isSuccess, Confirming, Bool.and_eq_true, decide_eq_true_eq,
    UInt16.le_iff_toNat_le, UInt16.lt_iff_toNat_lt]
  have bounds : (299 : UInt16).toNat + 1 = (300 : UInt16).toNat := rfl
  omega

theorem fieldErrors_eq_some {errors : FieldErrors} : reply.fieldErrors? = some errors ↔
    reply.status = 422 ∧ decode FieldErrors reply.body = .ok errors := by
  unfold Reply.fieldErrors?
  split
  · next refused => simp [FieldErrors.ofText?, toOption_eq_some, refused]
  · next other => simp [other]

end Reply

namespace Origin

/-- What comes of a request for an order that is answered by this status and body. -/
structure OrderAnswer (status : UInt16) (body : String) (result : Except Failure InitiateReply) :
    Prop where
  ordered (initiated : InitiateReply) :
    result = .ok initiated ↔ Confirming status ∧ decode InitiateReply body = .ok initiated
  malformed (error : Error) : result = .error (.malformedReply error) ↔
    Confirming status ∧ decode InitiateReply body = .error error
  invalid (errors : FieldErrors) :
    result = .error (.invalidFields errors) ↔ status = 422 ∧ FieldErrors.Spelled body errors
  rejected : result = .error (.rejected status body) ↔
    ¬Confirming status ∧ ¬∃ errors, status = 422 ∧ FieldErrors.Spelled body errors
  reported {failure : Failure} : result = .error failure → ¬Confirming status →
    (∀ errors, failure ≠ .invalidFields errors) → failure.report = body

structure ReportAnswer (status : UInt16) (body : String) (result : Except Failure String) :
    Prop where
  shown : result = .ok body ↔ Confirming status
  rejected : result = .error (.rejected status body) ↔ ¬Confirming status
  reported {failure : Failure} : result = .error failure → failure.report = body

section Answers

variable {status : UInt16} {body : String}

theorem OrderAnswer.of_confirming (confirms : Confirming status) :
    OrderAnswer status body ((decode InitiateReply body).mapError .malformedReply) where
  ordered initiated := by simp [confirms, mapError_eq_ok]
  malformed error := by
    cases decode InitiateReply body <;> simp [confirms, Except.mapError]
  invalid errors := by
    cases decode InitiateReply body <;> simp [confirms.ne_422, Except.mapError]
  rejected := by
    cases decode InitiateReply body <;> simp [confirms, Except.mapError]
  reported _ declines := absurd confirms declines

theorem OrderAnswer.of_refused {errors : FieldErrors} (spelled : FieldErrors.Spelled body errors) :
    OrderAnswer 422 body (.error (.invalidFields errors)) where
  ordered initiated := iff_of_false (by rintro ⟨⟩) fun answer => answer.1.ne_422 rfl
  malformed error := iff_of_false (by rintro ⟨⟩) fun answer => answer.1.ne_422 rfl
  invalid others := by
    constructor
    · rintro ⟨⟩
      exact ⟨rfl, spelled⟩
    · rintro ⟨-, again⟩
      rw [spelled.unique again]
  rejected := iff_of_false (by rintro ⟨⟩) fun plain => plain.2 ⟨errors, rfl, spelled⟩
  reported := by
    rintro _ ⟨⟩ - other
    exact absurd rfl (other errors)

theorem OrderAnswer.of_declined (declines : ¬Confirming status)
    (plain : ¬∃ errors, status = 422 ∧ FieldErrors.Spelled body errors) :
    OrderAnswer status body (.error (.rejected status body)) where
  ordered initiated := iff_of_false (by rintro ⟨⟩) fun answer => declines answer.1
  malformed error := iff_of_false (by rintro ⟨⟩) fun answer => declines answer.1
  invalid errors := iff_of_false (by rintro ⟨⟩) fun spelled => plain ⟨errors, spelled⟩
  rejected := iff_of_true rfl ⟨declines, plain⟩
  reported := by
    rintro _ ⟨⟩ - -
    rfl

theorem orderAnswer_acceptOrder (reply : Reply) :
    OrderAnswer reply.status reply.body (acceptOrder reply) := by
  unfold acceptOrder
  split
  · next success => exact .of_confirming (Reply.isSuccess_iff.mp success)
  next declined =>
  rw [Reply.isSuccess_iff] at declined
  obtain ⟨status, body⟩ := reply
  unfold refusal
  cases named : Reply.fieldErrors? ⟨status, body⟩ with
  | some errors =>
    obtain ⟨rfl, decoded⟩ := Reply.fieldErrors_eq_some.mp named
    exact .of_refused (FieldErrors.decode_eq_ok.mp decoded)
  | none =>
    refine .of_declined declined ?_
    rintro ⟨errors, refused, spelled⟩
    rw [Reply.fieldErrors_eq_some.mpr ⟨refused, FieldErrors.decode_eq_ok.mpr spelled⟩] at named
    cases named

theorem reportAnswer_acceptFragment (reply : Reply) :
    ReportAnswer reply.status reply.body (acceptFragment reply) := by
  unfold acceptFragment
  split
  · next success =>
    rw [Reply.isSuccess_iff] at success
    refine ⟨by simp [success], by simp [success], ?_⟩
    rintro _ ⟨⟩
  · next declined =>
    rw [Reply.isSuccess_iff] at declined
    refine ⟨by simp [declined], by simp [declined], ?_⟩
    rintro _ ⟨⟩
    rfl

end Answers

theorem result_of_brought {α : Type} {call : OriginCall α} {network : Network} {raw : RawReply}
    {reply : Reply} (received : raw.toReply? = some reply)
    (brought : network call.post = .ok raw) : call.result network = call.accept reply := by
  rw [OriginCall.result, brought, conclude_of_received call received]

/-- What a reply of any status and body means, to each of the four calls that it may answer. To a
request for an order it is an order only if it confirms one; of the others a body that names fields
of a form is told by these, if the status is 422, and any other one as it stands. To a completion it
is an answer whatever its status, and to a report it is the fragment to show if it confirms. -/
theorem replies_mean {raw : RawReply} {status : UInt16} {body : String}
    (received : raw.toReply? = some ⟨status, body⟩) (settings : Settings) (network : Network) :
    (∀ form, network (initiate settings form).post = .ok raw →
      OrderAnswer status body ((initiate settings form).result network)) ∧
    (∀ form, network (completeOnce settings form).post = .ok raw →
      (completeOnce settings form).result network = .ok ⟨status, body⟩) ∧
    (∀ form, network (completePlan settings form).post = .ok raw →
      (completePlan settings form).result network = .ok ⟨status, body⟩) ∧
    ∀ text, network (reportError settings text).post = .ok raw →
      ReportAnswer status body ((reportError settings text).result network) := by
  refine ⟨fun form brought => ?_, fun form brought => ?_, fun form brought => ?_,
    fun text brought => ?_⟩
  · rw [result_of_brought received brought]
    exact orderAnswer_acceptOrder ⟨status, body⟩
  · exact result_of_brought received brought
  · exact result_of_brought received brought
  · rw [result_of_brought received brought]
    exact reportAnswer_acceptFragment ⟨status, body⟩

def refusedAmount : Reply := ⟨422, "\x7b\"gift\":\x7b\"amount\":\"too \\u006cow\"\x7d\x7d"⟩

def refusingNetwork : Network := fun _ => .ok ⟨422, utf8Encode refusedAmount.body.toList⟩

theorem refusedAmount_means : ∃ errors,
    FieldErrors.Spelled refusedAmount.body errors ∧
    errors.forms.members.map (fun m => (m.1, m.2.members)) = [("gift", [("amount", "too low")])] ∧
    (initiate (.ofOrigin "http://origin.test") ⟨"F1", 0⟩).result refusingNetwork =
      .error (.invalidFields errors) ∧
    (completePlan (.ofOrigin "http://origin.test")
      ⟨"O1", "P1", "D1", "S1", "P1", "1.00", "a@b.com", "PAYER1", "Ada", "Lovelace", "F1",
        none⟩).result refusingNetwork = .ok refusedAmount ∧
    (reportError (.ofOrigin "http://origin.test") "too low").result refusingNetwork =
      .error (.rejected 422 refusedAmount.body) := by
  have received : RawReply.toReply? ⟨422, utf8Encode refusedAmount.body.toList⟩ =
      some refusedAmount := by decide
  have decoded : decode FieldErrors refusedAmount.body =
      .ok ⟨.ofList [("gift", .ofList [("amount", "too low")])]⟩ :=
    toOption_eq_some.mp (by decide +kernel)
  have spelled := FieldErrors.decode_eq_ok.mp decoded
  obtain ⟨orders, -, plans, reports⟩ :=
    replies_mean received (.ofOrigin "http://origin.test") refusingNetwork
  refine ⟨_, spelled, rfl, ((orders _ rfl).invalid _).mpr ⟨rfl, spelled⟩, plans _ rfl, ?_⟩
  exact (reports _ rfl).rejected.mpr fun confirms => confirms.ne_422 rfl

end Origin

end DonationPage
