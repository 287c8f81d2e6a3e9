import DonationPage.Checkout.Operations
/-! Runs of a checkout: operations in any order, and whatever comes as answers to the calls. -/
namespace DonationPage

/-- What answers each request, after the calls made so far; none is an answer that never comes. -/
abbrev Respondent := List Call → (r : Request) → Option (Except Failure r.Answer)

/-- What an operation did: how it left the checkout, the calls it made in order, and its result,
none while an answer is missing. -/
structure Step (α : Type) where
  checkout : Checkout
  calls : List Call
  result? : Option (Except Failure α)

def Step.after {α : Type} (call : Call) (s : Step α) : Step α :=
  { s with calls := call :: s.calls }

def Step.map {α β : Type} (f : α → β) (s : Step α) : Step β :=
  ⟨s.checkout, s.calls, s.result?.map (·.map f)⟩

/-- Carries an operation on until it ends or an answer does not come. -/
def Progress.run {α : Type} (respond : Respondent) (before : List Call) : Progress α → Step α
  | done checkout result => ⟨checkout, [], some result⟩
  | page command next =>
    (next.run respond (before ++ [.page command])).after (.page command)
  | wait checkout request resume =>
    match respond before request with
    | none => ⟨checkout, [.request request], none⟩
    | some answer =>
      ((resume answer).run respond (before ++ [.request request])).after (.request request)

inductive Operation where
  | initiate
  | approve (approval : Approval)
  | abandon
deriving DecidableEq

inductive Product where
  | order (id : OrderId)
  | outcome (o : Outcome)
  | nothing
deriving DecidableEq

def Checkout.perform (respond : Respondent) (before : List Call) (c : Checkout) :
    Operation → Step Product
  | .initiate => (c.initiate.run respond before).map .order
  | .approve approval => ((c.approve approval).run respond before).map .outcome
  | .abandon => ⟨c.abandon, [], some (.ok .nothing)⟩

def Checkout.run (respond : Respondent) (before : List Call) (c : Checkout) :
    List Operation → List (Step Product)
  | [] => []
  | op :: ops =>
    let step := c.perform respond before op
    step :: step.checkout.run respond (before ++ step.calls) ops

end DonationPage
