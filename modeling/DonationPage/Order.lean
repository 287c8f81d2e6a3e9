import DonationPage.Failure
/-! Orders of the payment provider. -/
namespace DonationPage

open Json

structure OrderId where
  text : String
deriving DecidableEq

instance : Payload OrderId where
  shape := .text
  toVal id := id.text
  ofVal s := ⟨s⟩
  ofVal_toVal _ := rfl

def OrderId.ofText (text : String) : Except Failure OrderId :=
  if isBlankText text then .error (.provider .blankOrder) else .ok ⟨text⟩

end DonationPage
