import DonationPage.Order
import DonationPage.Provider.Payer
/-! Captures of orders: the provider's account of a payment, and what the origin needs of it. -/
namespace DonationPage

open Json

structure Capture where
  id : String
  status : String
deriving DecidableEq

instance : Payload Capture where
  shape := .record "Capture" <|
    .cons "id" .required .text <|
    .cons "status" .defaulted .text .nil
  toVal c := (c.id, c.status, ())
  ofVal v := ⟨v.1, v.2.1⟩
  ofVal_toVal _ := rfl

structure Payments where
  captures : List Capture
deriving DecidableEq

instance : Payload Payments where
  shape := .record "CapturePayments" (.cons "captures" .defaulted (Payload.shape (List Capture)) .nil)
  toVal p := (Payload.toVal p.captures, ())
  ofVal v := ⟨Payload.ofVal v.1⟩
  ofVal_toVal p := by simp [Payload.ofVal_toVal]

structure PurchaseUnit where
  amount : ProviderAmount
  payments? : Option Payments
deriving DecidableEq

instance : Payload PurchaseUnit where
  shape := .record "CapturePurchaseUnit" <|
    .cons "amount" .required (Payload.shape ProviderAmount) <|
    .cons "payments" .defaulted (Payload.shape (Option Payments)) .nil
  toVal u := (Payload.toVal u.amount, Payload.toVal u.payments?, ())
  ofVal v := ⟨Payload.ofVal v.1, Payload.ofVal v.2.1⟩
  ofVal_toVal u := by simp [Payload.ofVal_toVal]

structure OrderCapture where
  id : String
  status : String
  payer : ProviderPayer
  units : List PurchaseUnit
deriving DecidableEq

instance : Payload OrderCapture where
  shape := .record "OrderCapture" <|
    .cons "id" .required .text <|
    .cons "status" .defaulted .text <|
    .cons "payer" .required (ProviderPayer.shape "OrderPayer") <|
    .cons "purchase_units" .defaulted (Payload.shape (List PurchaseUnit)) .nil
  toVal o := (o.id, o.status, o.payer.toVal _, Payload.toVal o.units, ())
  ofVal v := ⟨v.1, v.2.1, .ofVal _ v.2.2.1, Payload.ofVal v.2.2.2.1⟩
  ofVal_toVal o := by simp [Payload.ofVal_toVal, ProviderPayer.ofVal, ProviderPayer.toVal]

structure CaptureResult where
  order : OrderId
  captureId : String
  amount : String
  payer : Payer
deriving DecidableEq

instance : Payload CaptureResult where
  shape := .record "CaptureResult" <|
    .cons "order_id" .required (Payload.shape OrderId) <|
    .cons "capture_id" .required .text <|
    .cons "amount" .required .text <|
    .cons "payer" .required (Payload.shape Payer) .nil
  toVal r := (Payload.toVal r.order, r.captureId, r.amount, Payload.toVal r.payer, ())
  ofVal v := ⟨Payload.ofVal v.1, v.2.1, v.2.2.1, Payload.ofVal v.2.2.2.1⟩
  ofVal_toVal r := by simp [Payload.ofVal_toVal]

/-- The payment of the first purchase unit. Its first capture names it, else the order does. -/
def OrderCapture.result (o : OrderCapture) (order : OrderId) : Except Failure CaptureResult :=
  match o.units with
  | [] => .error (.provider (.nothingCaptured o.id))
  | unit :: _ =>
    let capture? := unit.payments?.bind fun p => p.captures.head?
    .ok ⟨order, (capture?.map Capture.id).getD o.id, unit.amount.value, o.payer.toPayer⟩

end DonationPage
