import DonationPage.Order
import DonationPage.Provider.Payer
/-! Subscriptions: asking the provider for one, a donor's approval of one, and the provider's account
of it. -/
namespace DonationPage

open Json

inductive ShippingPreference where
  | noShipping
  | getFromFile
  | setProvidedAddress
deriving DecidableEq

instance : Payload ShippingPreference where
  shape := .choice ["NO_SHIPPING", "GET_FROM_FILE", "SET_PROVIDED_ADDRESS"]
  toVal
    | .noShipping => 0
    | .getFromFile => 1
    | .setProvidedAddress => 2
  ofVal v := if v = 0 then .noShipping else if v = 1 then .getFromFile else .setProvidedAddress
  ofVal_toVal p := by cases p <;> rfl

inductive UserAction where
  | subscribeNow
  | continue
deriving DecidableEq

instance : Payload UserAction where
  shape := .choice ["SUBSCRIBE_NOW", "CONTINUE"]
  toVal
    | .subscribeNow => 0
    | .continue => 1
  ofVal v := if v = 0 then .subscribeNow else .continue
  ofVal_toVal a := by cases a <;> rfl

inductive PayeePreference where
  | unrestricted
  | immediatePaymentRequired
deriving DecidableEq

instance : Payload PayeePreference where
  shape := .choice ["UNRESTRICTED", "IMMEDIATE_PAYMENT_REQUIRED"]
  toVal
    | .unrestricted => 0
    | .immediatePaymentRequired => 1
  ofVal v := if v = 0 then .unrestricted else .immediatePaymentRequired
  ofVal_toVal p := by cases p <;> rfl

structure PaymentMethod where
  selected : String
  preferred : PayeePreference
deriving DecidableEq

instance : Payload PaymentMethod where
  shape := .record "PaymentMethodPreference" <|
    .cons "payer_selected" .required .text <|
    .cons "payee_preferred" .required (Payload.shape PayeePreference) .nil
  toVal m := (m.selected, Payload.toVal m.preferred, ())
  ofVal v := ⟨v.1, Payload.ofVal v.2.1⟩
  ofVal_toVal m := by simp [Payload.ofVal_toVal]

structure ApplicationContext where
  locale : String
  shipping : ShippingPreference
  action : UserAction
  method : PaymentMethod
deriving DecidableEq

instance : Payload ApplicationContext where
  shape := .record "ApplicationContext" <|
    .cons "locale" .required .text <|
    .cons "shipping_preference" .required (Payload.shape ShippingPreference) <|
    .cons "user_action" .required (Payload.shape UserAction) <|
    .cons "payment_method" .required (Payload.shape PaymentMethod) .nil
  toVal c := (c.locale, Payload.toVal c.shipping, Payload.toVal c.action, Payload.toVal c.method, ())
  ofVal v := ⟨v.1, Payload.ofVal v.2.1, Payload.ofVal v.2.2.1, Payload.ofVal v.2.2.2.1⟩
  ofVal_toVal c := by simp [Payload.ofVal_toVal]

structure SubscriptionRequest where
  plan : String
  context : ApplicationContext
deriving DecidableEq

instance : Payload SubscriptionRequest where
  shape := .record "SubscriptionRequest" <|
    .cons "plan_id" .required .text <|
    .cons "application_context" .required (Payload.shape ApplicationContext) .nil
  toVal r := (r.plan, Payload.toVal r.context, ())
  ofVal v := ⟨v.1, Payload.ofVal v.2.1⟩
  ofVal_toVal r := by simp [Payload.ofVal_toVal]

/-- A request for a subscription to a plan of the provider, to be paid for at once. -/
def SubscriptionRequest.forPlan (plan : String) : SubscriptionRequest :=
  ⟨plan, "en-US", .noShipping, .subscribeNow, "PAYPAL", .immediatePaymentRequired⟩

structure Approval where
  order : OrderId
  subscription? : Option String
deriving DecidableEq

instance : Payload Approval where
  shape := .record "Approval" <|
    .cons "orderID" .required (Payload.shape OrderId) <|
    .cons "subscriptionID" .defaulted (.optional .text) .nil
  toVal a := (Payload.toVal a.order, a.subscription?, ())
  ofVal v := ⟨Payload.ofVal v.1, v.2.1⟩
  ofVal_toVal a := by simp [Payload.ofVal_toVal]

structure LastPayment where
  amount : ProviderAmount
deriving DecidableEq

instance : Payload LastPayment where
  shape := .record "LastPayment" (.cons "amount" .required (Payload.shape ProviderAmount) .nil)
  toVal p := (Payload.toVal p.amount, ())
  ofVal v := ⟨Payload.ofVal v.1⟩
  ofVal_toVal p := by simp [Payload.ofVal_toVal]

structure BillingInfo where
  lastPayment? : Option LastPayment
deriving DecidableEq

instance : Payload BillingInfo where
  shape := .record "BillingInfo" <|
    .cons "last_payment" .required (Payload.shape (Option LastPayment)) .nil
  toVal b := (Payload.toVal b.lastPayment?, ())
  ofVal v := ⟨Payload.ofVal v.1⟩
  ofVal_toVal b := by simp [Payload.ofVal_toVal]

structure SubscriptionSnapshot where
  id : String
  plan : String
  status : String
  subscriber : ProviderPayer
  billing : BillingInfo
deriving DecidableEq

instance : Payload SubscriptionSnapshot where
  shape := .record "SubscriptionSnapshot" <|
    .cons "id" .required .text <|
    .cons "plan_id" .defaulted .text <|
    .cons "status" .defaulted .text <|
    .cons "subscriber" .required (ProviderPayer.shape "Subscriber") <|
    .cons "billing_info" .required (Payload.shape BillingInfo) .nil
  toVal s := (s.id, s.plan, s.status, s.subscriber.toVal _, Payload.toVal s.billing, ())
  ofVal v := ⟨v.1, v.2.1, v.2.2.1, .ofVal _ v.2.2.2.1, Payload.ofVal v.2.2.2.2.1⟩
  ofVal_toVal s := by simp [Payload.ofVal_toVal, ProviderPayer.ofVal, ProviderPayer.toVal]

structure SubscriptionResult where
  id : String
  amount : String
  subscriber : Payer
deriving DecidableEq

instance : Payload SubscriptionResult where
  shape := .record "SubscriptionResult" <|
    .cons "subscription_id" .required .text <|
    .cons "amount" .required .text <|
    .cons "subscriber" .required (Payload.shape Payer) .nil
  toVal r := (r.id, r.amount, Payload.toVal r.subscriber, ())
  ofVal v := ⟨v.1, v.2.1, Payload.ofVal v.2.2.1⟩
  ofVal_toVal r := by simp [Payload.ofVal_toVal]

def SubscriptionSnapshot.result (s : SubscriptionSnapshot) : Except Failure SubscriptionResult :=
  match s.billing.lastPayment? with
  | none => .error (.provider (.nothingPaid s.id))
  | some payment => .ok ⟨s.id, payment.amount.value, s.subscriber.toPayer⟩

end DonationPage
