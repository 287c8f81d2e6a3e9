import DonationPage.Checkout.Call
import DonationPage.Text.Percent
/-! The operations of a checkout: to ask for an order, to go on once the donor has approved it, and
to abandon it. Once an approval is accepted, each step of the way is taken before the call that it
announces, so that a call whose answer never comes is never made again. A request for an order is
made at the start, and the checkout leaves it only when the answer comes. -/
namespace DonationPage

inductive Outcome where
  | success (redirect : String)
  | failure (detail : String) (fieldErrors? : Option FieldErrors)
deriving DecidableEq

def Outcome.isSuccess : Outcome → Bool
  | success _ => true
  | failure .. => false

namespace Checkout

def new (intent : Intent) (settings : Settings) : Checkout := ⟨intent, settings, .idle, none⟩

def ofPage (kind : DonationKind) (source : TagSource) (settings : Settings) :
    Except Failure Checkout := do
  let intent ← Intent.load kind source
  return new intent settings

def atStage (c : Checkout) (stage : Stage) : Checkout := { c with stage }

def wrongStage (c : Checkout) (expected : Stage) : Failure :=
  .wrongStage expected.name c.stage.name

def fail {α : Type} (c : Checkout) (failure : Failure) : Progress α :=
  .done (c.atStage .failed) (.error failure)

def keepOrder (c : Checkout) : Except Failure OrderId → Progress OrderId
  | .ok order => .done { c with stage := .orderCreated, order? := some order } (.ok order)
  | .error failure => c.fail failure

def initiate (c : Checkout) : Progress OrderId :=
  if c.stage ≠ .idle then .done c (.error (c.wrongStage .idle))
  else
    match c.intent.kind with
    | .oneTime =>
      match c.intent.amount? with
      | none => c.fail (.setup .noAmount)
      | some amount =>
        .wait c (.initiate ⟨c.intent.fund, amount.cents⟩) fun answer =>
          c.keepOrder (answer.bind fun reply => OrderId.ofText reply.order)
    | .recurring =>
      match c.intent.providerPlan? with
      | none => c.fail (.setup .noProviderPlan)
      | some plan => .wait c (.subscribe (.forPlan plan)) c.keepOrder

def successTarget (c : Checkout) (givenName : String) : String :=
  c.settings.successPath ++ "?name=" ++ encodeQueryValue givenName

def reportFailure (c : Checkout) (detail : String) (fieldErrors? : Option FieldErrors) :
    Progress Outcome :=
  .wait c (.reportError detail) fun answer =>
    let ended := .done (c.atStage .failed) (.ok (.failure detail fieldErrors?))
    match answer with
    | .ok fragment => .page (.render c.settings.errorTarget fragment) ended
    | .error _ => ended

def settle (c : Checkout) (givenName : String) : Except Failure Reply → Progress Outcome
  | .ok reply =>
    if reply.isSuccess then
      let target := c.successTarget givenName
      .page (.navigate target) (.done (c.atStage .succeeded) (.ok (.success target)))
    else c.reportFailure reply.body reply.fieldErrors?
  | .error failure => c.reportFailure failure.report none

def onceForm (c : Checkout) (r : CaptureResult) : CompleteOnceForm where
  order := r.order.text
  amount := r.amount
  payerEmail := r.payer.email
  payerId := r.payer.id
  firstName := r.payer.givenName
  lastName := r.payer.surname
  fund := c.intent.fund
  payment := r.captureId
  bcoName? := c.intent.bcoName?

def planForm (c : Checkout) (approval : Approval) (providerPlan plan : String)
    (r : SubscriptionResult) : CompletePlanForm where
  order := approval.order.text
  providerPlan := providerPlan
  providerDonation := r.id
  subscription := r.id
  plan := plan
  amount := r.amount
  email := r.subscriber.email
  payerId := r.subscriber.id
  firstName := r.subscriber.givenName
  lastName := r.subscriber.surname
  fund := c.intent.fund
  bcoName? := c.intent.bcoName?

def captureOnce (c : Checkout) (approval : Approval) : Progress Outcome :=
  .wait c (.capture approval.order) fun answer =>
    match answer.bind fun capture => capture.result approval.order with
    | .error failure => c.fail failure
    | .ok r =>
      let c := c.atStage .completing
      .wait c (.completeOnce (c.onceForm r)) (c.settle r.payer.givenName)

def snapshotPlan (c : Checkout) (approval : Approval) : Progress Outcome :=
  match c.intent.providerPlan?, c.intent.plan? with
  | none, _ => c.fail (.setup .noProviderPlan)
  | some _, none => c.fail (.setup .noPlan)
  | some providerPlan, some plan =>
    .wait c (.snapshot approval) fun answer =>
      match answer.bind SubscriptionSnapshot.result with
      | .error failure => c.fail failure
      | .ok r =>
        let c := c.atStage .completing
        .wait c (.completePlan (c.planForm approval providerPlan plan r))
          (c.settle r.subscriber.givenName)

/-- The id that an approval names, which is that of the subscription for a recurring donation. -/
def approvedId? (c : Checkout) (approval : Approval) : Option String :=
  match c.intent.kind with
  | .oneTime => some approval.order.text
  | .recurring => approval.subscription?

def approve (c : Checkout) (approval : Approval) : Progress Outcome :=
  if c.stage ≠ .orderCreated then .done c (.error (c.wrongStage .orderCreated))
  else if c.order?.map OrderId.text ≠ c.approvedId? approval then
    .done c <| .error <| .provider <|
      .unknownOrder ((c.approvedId? approval).getD approval.order.text)
  else
    let c := c.atStage .capturing
    match c.intent.kind with
    | .oneTime => c.captureOnce approval
    | .recurring => c.snapshotPlan approval

def abandon (c : Checkout) : Checkout :=
  if c.stage.isTerminal then c else c.atStage .abandoned

end Checkout

end DonationPage
