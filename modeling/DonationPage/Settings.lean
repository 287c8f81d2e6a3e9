import DonationPage.Environment
import DonationPage.Failure
/-! Settings of the checkout: where the origin is, which of its paths to use, where the page shows
errors, and how often to look at the provider's window. -/
namespace DonationPage

open Json

structure Settings where
  origin : String
  successPath : String
  planPath : String
  errorTarget : String
  pollMillis : UInt64
deriving DecidableEq

namespace Settings

instance : Payload Settings where
  shape := .record "FlowConfig" <|
    .cons "origin_url" .required .text <|
    .cons "success_path" .required .text <|
    .cons "plan_complete_path" .required .text <|
    .cons "error_target" .required .text <|
    .cons "popup_poll_ms" .required .uint64 .nil
  toVal s := (s.origin, s.successPath, s.planPath, s.errorTarget, s.pollMillis, ())
  ofVal v := ⟨v.1, v.2.1, v.2.2.1, v.2.2.2.1, v.2.2.2.2.1⟩
  ofVal_toVal _ := rfl

def trimSlashes (text : String) : String :=
  String.ofList (text.toList.reverse.dropWhile (· = '/')).reverse

def defaultPlanPath : String := "/donation/plan/complete"

/-- The path that completed plans before the default one. -/
def formerPlanPath : String := "/subscription/capture"

def ofOrigin (url : String) : Settings where
  origin := trimSlashes url
  successPath := "/donation/success"
  planPath := defaultPlanPath
  errorTarget := "#donation"
  pollMillis := 500

def hasStart (start text : String) : Bool := start.toList.isPrefixOf text.toList

def isHttpUrl (url : String) : Bool := hasStart "http://" url || hasStart "https://" url

/-- A number of milliseconds above zero, in digits that a plus sign may precede. -/
def pollPeriod? (text : String) : Option UInt64 := do
  let ds := (takeFlag '+' text.toList).2
  guard (ds ≠ [] ∧ ds.all Char.isDigit)
  let n := digitsValue ds
  guard (0 < n ∧ n < UInt64.size)
  return UInt64.ofNat n

def rootedPath (lookup : Lookup) (key : String) (default : String) : Except Failure String :=
  match lookup key with
  | none => .ok default
  | some path =>
    if hasStart "/" path then .ok path else .error (.setup (.pathNotRooted key path))

/-- The path that completes plans must be one of the two that the origin serves. -/
def knownPlanPath (path : String) : Except Failure String :=
  if path = defaultPlanPath ∨ path = formerPlanPath then .ok path
  else .error (.setup (.unknownPlanPath path))

def ofLookup (lookup : Lookup) : Except Failure Settings := do
  let url ←
    match lookup "DONATION_ORIGIN_URL" with
    | none => .error (.setup .noOrigin)
    | some url => if isHttpUrl url then .ok url else .error (.setup (.originNotHttp url))
  let base := ofOrigin url
  let successPath ← rootedPath lookup "DONATION_SUCCESS_PATH" base.successPath
  let planPath ← rootedPath lookup "DONATION_PLAN_COMPLETE_PATH" base.planPath
  let planPath ← knownPlanPath planPath
  let pollMillis ←
    match lookup "DONATION_POPUP_POLL_MS" with
    | none => .ok base.pollMillis
    | some text =>
      match pollPeriod? text with
      | some n => .ok n
      | none => .error (.setup (.pollPeriod text))
  return {
    origin := base.origin
    successPath
    planPath
    errorTarget := (lookup "DONATION_ERROR_TARGET").getD base.errorTarget
    pollMillis }

def url (s : Settings) (path : String) : String := s.origin ++ path

end Settings

end DonationPage
