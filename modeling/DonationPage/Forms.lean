import DonationPage.FieldErrors
import DonationPage.Money
/-! Forms that the page posts to the origin, and the origin's replies. -/
namespace DonationPage

open Json

structure InitiateForm where
  fund : String
  cents : Int64
deriving DecidableEq

instance : Payload InitiateForm where
  shape := .record "InitiateOnceForm" <|
    .cons "fund_id" .required .text <|
    .cons "amount_cents" .required .int64 .nil
  toVal f := (f.fund, f.cents, ())
  ofVal v := ⟨v.1, v.2.1⟩
  ofVal_toVal _ := rfl

structure InitiateReply where
  order : String
deriving DecidableEq

instance : Payload InitiateReply where
  shape := .record "InitiateResponse" (.cons "orderId" .required .text .nil)
  toVal r := (r.order, ())
  ofVal v := ⟨v.1⟩
  ofVal_toVal _ := rfl

structure CompleteOnceForm where
  order : String
  amount : String
  payerEmail : String
  payerId : String
  firstName : String
  lastName : String
  fund : String
  payment : String
  bcoName? : Option String
deriving DecidableEq

instance : Payload CompleteOnceForm where
  shape := .record "CompleteOnceForm" <|
    .cons "order_id" .required .text <|
    .cons "amount" .required .text <|
    .cons "payer_email" .required .text <|
    .cons "payer_id" .required .text <|
    .cons "first_name" .required .text <|
    .cons "last_name" .required .text <|
    .cons "fund_id" .required .text <|
    .cons "payment_id" .required .text <|
    .cons "bco_name" .sparse (.optional .text) .nil
  toVal f := (f.order, f.amount, f.payerEmail, f.payerId, f.firstName, f.lastName, f.fund, f.payment,
    f.bcoName?, ())
  ofVal v := ⟨v.1, v.2.1, v.2.2.1, v.2.2.2.1, v.2.2.2.2.1, v.2.2.2.2.2.1, v.2.2.2.2.2.2.1,
    v.2.2.2.2.2.2.2.1, v.2.2.2.2.2.2.2.2.1⟩
  ofVal_toVal _ := rfl

structure CompletePlanForm where
  order : String
  providerPlan : String
  providerDonation : String
  subscription : String
  plan : String
  amount : String
  email : String
  payerId : String
  firstName : String
  lastName : String
  fund : String
  bcoName? : Option String
deriving DecidableEq

instance : Payload CompletePlanForm where
  shape := .record "CompletePlanForm" <|
    .cons "order_id" .required .text <|
    .cons "provider_plan_id" .required .text <|
    .cons "provider_donation_id" .required .text <|
    .cons "subscription_id" .required .text <|
    .cons "plan_id" .required .text <|
    .cons "amount" .required .text <|
    .cons "email" .required .text <|
    .cons "payer_id" .required .text <|
    .cons "first_name" .required .text <|
    .cons "last_name" .required .text <|
    .cons "fund_id" .required .text <|
    .cons "bco_name" .sparse (.optional .text) .nil
  toVal f := (f.order, f.providerPlan, f.providerDonation, f.subscription, f.plan, f.amount, f.email,
    f.payerId, f.firstName, f.lastName, f.fund, f.bcoName?, ())
  ofVal v := ⟨v.1, v.2.1, v.2.2.1, v.2.2.2.1, v.2.2.2.2.1, v.2.2.2.2.2.1, v.2.2.2.2.2.2.1,
    v.2.2.2.2.2.2.2.1, v.2.2.2.2.2.2.2.2.1, v.2.2.2.2.2.2.2.2.2.1, v.2.2.2.2.2.2.2.2.2.2.1,
    v.2.2.2.2.2.2.2.2.2.2.2.1⟩
  ofVal_toVal _ := rfl

structure ErrorForm where
  error : String
deriving DecidableEq

instance : Payload ErrorForm where
  shape := .record "ErrorReportForm" (.cons "error" .required .text .nil)
  toVal f := (f.error, ())
  ofVal v := ⟨v.1⟩
  ofVal_toVal _ := rfl

structure ApprovalRedirect where
  url : String
deriving DecidableEq

instance : Payload ApprovalRedirect where
  shape := .record "ApprovalRedirect" (.cons "approvalUrl" .required .text .nil)
  toVal r := (r.url, ())
  ofVal v := ⟨v.1⟩
  ofVal_toVal _ := rfl

namespace InitiateForm

def fields (f : InitiateForm) : List (String × String) :=
  [("fund_id", f.fund), ("amount_cents", intText f.cents.toInt)]

end InitiateForm

/-- A field that is left out when there is no value for it. -/
def sparseField (name : String) (value? : Option String) : List (String × String) :=
  (value?.map fun value => (name, value)).toList

theorem mem_sparseField {name : String} {value? : Option String} :
    name ∈ (sparseField name value?).map Prod.fst ↔ value?.isSome = true := by
  cases value? <;> simp [sparseField]

theorem sparseField_inj {name : String} {value? value'? : Option String} :
    sparseField name value? = sparseField name value'? ↔ value? = value'? := by
  cases value? <;> cases value'? <;> simp [sparseField]

def CompleteOnceForm.fields (f : CompleteOnceForm) : List (String × String) :=
  [("order_id", f.order), ("amount", f.amount), ("payer_email", f.payerEmail),
    ("payer_id", f.payerId), ("first_name", f.firstName), ("last_name", f.lastName),
    ("fund_id", f.fund), ("payment_id", f.payment)] ++ sparseField "bco_name" f.bcoName?

def CompletePlanForm.fields (f : CompletePlanForm) : List (String × String) :=
  [("order_id", f.order), ("provider_plan_id", f.providerPlan),
    ("provider_donation_id", f.providerDonation), ("subscription_id", f.subscription),
    ("plan_id", f.plan), ("amount", f.amount), ("email", f.email), ("payer_id", f.payerId),
    ("first_name", f.firstName), ("last_name", f.lastName), ("fund_id", f.fund)] ++
    sparseField "bco_name" f.bcoName?

def ErrorForm.fields (f : ErrorForm) : List (String × String) := [("error", f.error)]

structure Reply where
  status : UInt16
  body : String
deriving DecidableEq

def Reply.isSuccess (r : Reply) : Bool := 200 ≤ r.status && r.status < 300

def Reply.fieldErrors? (r : Reply) : Option FieldErrors :=
  if r.status = 422 then FieldErrors.ofText? r.body else none

end DonationPage
