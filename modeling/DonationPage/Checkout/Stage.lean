import DonationPage.Json.Payload
/-! The stages of a checkout, from its start to one of three ends. -/
namespace DonationPage

open Json

inductive Stage where
  | idle
  | orderCreated
  | capturing
  | completing
  | succeeded
  | failed
  | abandoned
deriving DecidableEq

namespace Stage

def name : Stage → String
  | idle => "idle"
  | orderCreated => "order_created"
  | capturing => "capturing"
  | completing => "completing"
  | succeeded => "succeeded"
  | failed => "failed"
  | abandoned => "abandoned"

def all : List Stage :=
  [idle, orderCreated, capturing, completing, succeeded, failed, abandoned]

def isTerminal : Stage → Bool
  | succeeded | failed | abandoned => true
  | _ => false

def toVal : Stage → Fin 7
  | idle => 0
  | orderCreated => 1
  | capturing => 2
  | completing => 3
  | succeeded => 4
  | failed => 5
  | abandoned => 6

def ofVal (i : Fin 7) : Stage := all[i]

instance : Payload Stage where
  shape := .choice (all.map name)
  toVal := toVal
  ofVal := ofVal
  ofVal_toVal stage := by cases stage <;> rfl

def ofName (text : String) : Except Error Stage :=
  match all.find? fun stage => stage.name = text with
  | some stage => .ok stage
  | none => .error ⟨.unknownVariant text (all.map name), none⟩

end Stage

end DonationPage
