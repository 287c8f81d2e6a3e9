import DonationPage.Checkout.Stage
import DonationPage.Forms
import DonationPage.Intent
import DonationPage.Provider.Capture
import DonationPage.Provider.Subscription
import DonationPage.Settings
/-! What a checkout asks of the origin and of the provider, what it has the page do, and its progress
between such calls. -/
namespace DonationPage

inductive Request where
  | initiate (form : InitiateForm)
  | subscribe (request : SubscriptionRequest)
  | capture (order : OrderId)
  | snapshot (approval : Approval)
  | completeOnce (form : CompleteOnceForm)
  | completePlan (form : CompletePlanForm)
  | reportError (text : String)
deriving DecidableEq

@[reducible] def Request.Answer : Request → Type
  | initiate _ => InitiateReply
  | subscribe _ => OrderId
  | capture _ => OrderCapture
  | snapshot _ => SubscriptionSnapshot
  | completeOnce _ => Reply
  | completePlan _ => Reply
  | reportError _ => String

inductive PageCommand where
  | navigate (target : String)
  | render (target : String) (html : String)
deriving DecidableEq

inductive Call where
  | request (r : Request)
  | page (command : PageCommand)
deriving DecidableEq

structure Checkout where
  intent : Intent
  settings : Settings
  stage : Stage
  order? : Option OrderId
deriving DecidableEq

/-- How an operation of a checkout goes on: it ends, has the page do something, or waits for an
answer. While it waits, the checkout is as given; so it stays if the answer never comes. -/
inductive Progress (α : Type) where
  | done (checkout : Checkout) (result : Except Failure α)
  | page (command : PageCommand) (next : Progress α)
  | wait (checkout : Checkout) (request : Request)
      (resume : Except Failure request.Answer → Progress α)

end DonationPage
