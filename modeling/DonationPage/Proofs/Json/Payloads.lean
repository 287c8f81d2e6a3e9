import DonationPage.MonthlySeries
import DonationPage.Forms
import DonationPage.Intent
import DonationPage.Proofs.Json.RoundTrip
import DonationPage.Provider.Capture
import DonationPage.Provider.Subscription
import DonationPage.Settings
/-! The payloads that a donation page exchanges and keeps. The shape of each is unambiguous, so none is
changed by being written and read again. -/
namespace DonationPage

open Json

def RoundTrips (α : Type) [Payload α] : Prop := ∀ a : α, decode α (encode a) = .ok a

def objectText (members : List (String × String)) : String :=
  String.ofList (writeObject (members.map fun m => writeMember m.1 (writeText m.2)))

theorem CompleteOnceForm.encode_eq (form : CompleteOnceForm) :
    encode form = objectText form.fields := by
  obtain ⟨order, amount, payerEmail, payerId, firstName, lastName, fund, payment, bcoName?⟩ := form
  cases bcoName? <;> rfl

theorem CompletePlanForm.encode_eq (form : CompletePlanForm) :
    encode form = objectText form.fields := by
  obtain ⟨order, providerPlan, providerDonation, subscription, plan, amount, email, payerId,
    firstName, lastName, fund, bcoName?⟩ := form
  cases bcoName? <;> rfl

/-- Every payload is decoded from its own JSON text, whatever texts, numbers, lists and tables it is
made of. A completion has a member for the name of a circle only if there is a name. A refusal of the
origin brings the errors that were written into it. -/
theorem payloads_round_trip :
    (RoundTrips Money ∧ RoundTrips Intent ∧ RoundTrips Payer ∧ RoundTrips CaptureResult ∧
      RoundTrips SubscriptionResult ∧ RoundTrips FieldErrors ∧ RoundTrips Approval ∧
      RoundTrips SubscriptionRequest ∧ RoundTrips OrderCapture ∧
      RoundTrips SubscriptionSnapshot ∧ RoundTrips InitiateForm ∧ RoundTrips InitiateReply ∧
      RoundTrips CompleteOnceForm ∧ RoundTrips CompletePlanForm ∧ RoundTrips ErrorForm ∧
      RoundTrips ApprovalRedirect ∧ RoundTrips ChartPoint ∧ RoundTrips MonthlyTotal ∧
      RoundTrips Settings) ∧
    (∀ form : CompleteOnceForm, encode form = objectText form.fields ∧
      ("bco_name" ∈ form.fields.map Prod.fst ↔ form.bcoName?.isSome = true)) ∧
    (∀ form : CompletePlanForm, encode form = objectText form.fields ∧
      ("bco_name" ∈ form.fields.map Prod.fst ↔ form.bcoName?.isSome = true)) ∧
    ∀ e : FieldErrors, Reply.fieldErrors? ⟨422, encode e⟩ = some e := by
  refine ⟨⟨decode_encode rfl, decode_encode rfl, decode_encode rfl, decode_encode rfl,
    decode_encode rfl, decode_encode rfl, decode_encode rfl, decode_encode rfl, decode_encode rfl,
    decode_encode rfl, decode_encode rfl, decode_encode rfl, decode_encode rfl, decode_encode rfl,
    decode_encode rfl, decode_encode rfl, decode_encode rfl, decode_encode rfl, decode_encode rfl⟩,
    fun form => ⟨form.encode_eq, ?_⟩, fun form => ⟨form.encode_eq, ?_⟩, fun e => ?_⟩
  · simp [CompleteOnceForm.fields, mem_sparseField]
  · simp [CompletePlanForm.fields, mem_sparseField]
  · have read : decode FieldErrors (encode e) = .ok e := decode_encode rfl e
    rw [Reply.fieldErrors?, if_pos rfl, FieldErrors.ofText?, read]
    rfl

example : encode (ErrorForm.mk "\"é\x1f\n") = "\x7b\"error\":\"\\\"é\\u001f\\n\"\x7d" := by
  decide

end DonationPage
