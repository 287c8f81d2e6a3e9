import DonationPage.Money
import DonationPage.PageTags
/-! Donation intents: what a donor is about to give, as the page's tags say it. -/
namespace DonationPage

open Json

inductive DonationKind where
  | oneTime
  | recurring
deriving DecidableEq

namespace DonationKind

def name : DonationKind → String
  | oneTime => "one_time"
  | recurring => "recurring"

instance : Payload DonationKind where
  shape := .choice ["one_time", "recurring"]
  toVal
    | oneTime => 0
    | recurring => 1
  ofVal v := if v = 0 then oneTime else recurring
  ofVal_toVal kind := by cases kind <;> rfl

end DonationKind

/-- A one-time donation has an amount and no plan; a recurring one has a plan, on both sides, that
says the amount. -/
structure Intent where
  kind : DonationKind
  fund : String
  plan? : Option String
  amount? : Option Money
  providerPlan? : Option String
  bcoName? : Option String
deriving DecidableEq

namespace Intent

instance : Payload Intent where
  shape := .record "DonationIntent" <|
    .cons "kind" .required (Payload.shape DonationKind) <|
    .cons "fund_id" .required .text <|
    .cons "plan_id" .required (.optional .text) <|
    .cons "amount" .required (.optional (Payload.shape Money)) <|
    .cons "provider_plan_id" .required (.optional .text) <|
    .cons "bco_name" .required (.optional .text) .nil
  toVal i := (Payload.toVal i.kind, i.fund, i.plan?, i.amount?.map Payload.toVal, i.providerPlan?,
    i.bcoName?, ())
  ofVal v := ⟨Payload.ofVal v.1, v.2.1, v.2.2.1, v.2.2.2.1.map Payload.ofVal, v.2.2.2.2.1,
    v.2.2.2.2.2.1⟩
  ofVal_toVal i := by
    simp [Payload.ofVal_toVal, Function.comp_def]

def oneTime (fund : String) (amount : Money) : Except Failure Intent :=
  if isBlankText fund then .error (.setup .blankFund)
  else if amount.cents ≤ 0 then .error (.setup (.amountNotPositive amount.cents))
  else .ok ⟨.oneTime, fund, none, some amount, none, none⟩

def recurring (fund plan providerPlan : String) : Except Failure Intent :=
  if isBlankText fund then .error (.setup .blankFund)
  else if isBlankText plan then .error (.setup .blankPlan)
  else if isBlankText providerPlan then .error (.setup .blankProviderPlan)
  else .ok ⟨.recurring, fund, some plan, none, some providerPlan, none⟩

def withBcoName (i : Intent) (name : String) : Intent := { i with bcoName? := some name }

/-- The intent of a kind that the tags of a page describe. Other tags are not looked at. -/
def load (kind : DonationKind) (source : TagSource) : Except Failure Intent := do
  let fund ← source.payload String "fund-id"
  let intent ←
    match kind with
    | .oneTime => do
      let cents ← source.payload Int64 "amount"
      oneTime fund ⟨cents⟩
    | .recurring => do
      let plan ← source.payload String "plan-id"
      let providerPlan ← source.payload String "provider-plan-id"
      recurring fund plan providerPlan
  if (source "bco-name").isSome then do
    let name ← source.payload String "bco-name"
    return intent.withBcoName name
  else return intent

end Intent

end DonationPage
