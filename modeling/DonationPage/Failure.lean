import DonationPage.FieldErrors
import DonationPage.Month
import DonationPage.Url.Fault
/-! What can go wrong on a donation page, and the messages that say so. -/
namespace DonationPage

open Json

inductive FileFault where
  | missing
  | denied
  | directory
  | belowFile
  | tooLong
  | notText
  | told (reason : String)
deriving DecidableEq

inductive SetupFault where
  | missingTag (id : String)
  | malformedTag (id : String) (error : Error)
  | pageNotJson (error : Error)
  | pageNotObject
  | pageUnreadable (path : String) (fault : FileFault)
  | blankFund
  | amountNotPositive (cents : Int64)
  | noAmount
  | blankPlan
  | blankProviderPlan
  | noPlan
  | noProviderPlan
  | noOrigin
  | originNotHttp (url : String)
  | pathNotRooted (key : String) (path : String)
  | unknownPlanPath (path : String)
  | pollPeriod (text : String)
  | month (text : String) (fault : DateFault)
  | told (text : String)

inductive ProviderFault where
  | blankOrder
  | unknownOrder (id : String)
  | nothingCaptured (id : String)
  | nothingPaid (id : String)
  | told (text : String)

inductive TransportFault where
  | badUrl (fault : UrlFault)
  | unsendable (url : String)
  | cutShort (url : String)
  | told (reason : String)
deriving DecidableEq

inductive Failure where
  | setup (fault : SetupFault)
  | provider (fault : ProviderFault)
  | rejected (status : UInt16) (body : String)
  | invalidFields (errors : FieldErrors)
  | wrongStage (expected actual : String)
  | invalidAmount (text : String)
  | transport (fault : TransportFault)
  | malformedReply (error : Error)

def FileFault.message : FileFault → String
  | missing => "No such file or directory (os error 2)"
  | denied => "Permission denied (os error 13)"
  | directory => "Is a directory (os error 21)"
  | belowFile => "Not a directory (os error 20)"
  | tooLong => "File name too long (os error 36)"
  | notText => "stream did not contain valid UTF-8"
  | told reason => reason

def SetupFault.message : SetupFault → String
  | missingTag id => "missing page config " ++ backquoted id
  | malformedTag id error => "malformed page config " ++ backquoted id ++ ": " ++ error.message
  | pageNotJson error => "page config is not JSON: " ++ error.message
  | pageNotObject => "page config must be a JSON object"
  | pageUnreadable path fault => "cannot read " ++ path ++ ": " ++ fault.message
  | blankFund => "fund id is empty"
  | amountNotPositive cents =>
    "amount must be positive, got " ++ intText cents.toInt ++ " cents"
  | noAmount => "one-time donation requires an amount"
  | blankPlan => "plan id is empty"
  | blankProviderPlan => "provider plan id is empty"
  | noPlan => "plan id missing"
  | noProviderPlan => "provider plan id missing"
  | noOrigin => "DONATION_ORIGIN_URL must be set"
  | originNotHttp url => "DONATION_ORIGIN_URL must be an http(s) URL, got " ++ url
  | pathNotRooted key path => key ++ " must start with '/', got " ++ path
  | unknownPlanPath path => "unsupported plan completion path " ++ path
  | pollPeriod text => "DONATION_POPUP_POLL_MS invalid: " ++ text
  | month text fault => "invalid month " ++ backquoted text ++ ": " ++ fault.message
  | told text => text

def ProviderFault.message : ProviderFault → String
  | blankOrder => "empty order id"
  | unknownOrder id => "approval for unknown order " ++ id
  | nothingCaptured id => "capture " ++ id ++ " has no purchase units"
  | nothingPaid id => "subscription " ++ id ++ " has no last payment"
  | told text => text

/-- What is wrong, and then what is behind it, each told with all that is behind it. -/
def TransportFault.chain : TransportFault → List String
  | badUrl fault => ["builder error: " ++ fault.message, fault.message]
  | unsendable url =>
    let reason := "Parsed Url is not a valid Uri"
    ["builder error for url (" ++ url ++ "): " ++ reason, reason]
  | cutShort url =>
    let reason := "connection closed before message completed"
    ["error sending request for url (" ++ url ++ "): " ++ reason, reason]
  | told reason => [reason]

def TransportFault.message (f : TransportFault) : String := f.chain.headD ""

def Failure.message : Failure → String
  | setup fault => "Configuration error: " ++ fault.message
  | provider fault => "Payment provider error: " ++ fault.message
  | rejected status body =>
    "Server rejected request with status " ++ intText status.toNat ++ ": " ++ body
  | invalidFields errors => "Validation failed for " ++ intText errors.size ++ " field(s)"
  | wrongStage expected actual =>
    "Invalid flow state: expected " ++ expected ++ ", got " ++ actual
  | invalidAmount text => "Invalid amount: " ++ text
  | transport fault => "HTTP request error: " ++ fault.message
  | malformedReply error => "Serialization error: " ++ error.message

/-- The text to report to the origin: its own words where it rejected a request. -/
def Failure.report : Failure → String
  | rejected _ body => body
  | failure => failure.message

end DonationPage
