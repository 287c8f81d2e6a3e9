import DonationPage.Checkout.Run
import DonationPage.Text.FormData
import DonationPage.Text.Utf16
import DonationPage.Url
/-! The origin over HTTP: what is posted for each call, and what its reply means. -/
namespace DonationPage

open Json

/-- A POST of form data, as it is handed to the client of HTTP. -/
structure FormPost where
  url : String
  fromPage : Bool
  body : String
deriving DecidableEq

/-- What the client sends. -/
structure Message where
  method : String
  url : HttpUrl
  contentType : String
  hxRequest? : Option String
  body : String
deriving DecidableEq

/-- The place that a request to a URL goes to. A text may be no URL, and not every URL can stand in a
request. -/
def HttpUrl.destination (url : String) : Except TransportFault HttpUrl := do
  let url ← (ofText url).mapError .badUrl
  if url.isSendable then .ok url else .error (.unsendable url.text)

namespace FormPost

/-- The value of the HX-Request header, which says that a part of the page asks. -/
def hxRequest? (p : FormPost) : Option String := if p.fromPage then some "true" else none

def message (p : FormPost) : Except TransportFault Message := do
  let url ← HttpUrl.destination p.url
  return ⟨"POST", url, "application/x-www-form-urlencoded", p.hxRequest?, p.body⟩

/-- What is sent of a post: one message, unless its URL is none to send one to. -/
def sent (p : FormPost) : List Message := p.message.toOption.toList

def sentUrl (p : FormPost) : String :=
  match HttpUrl.destination p.url with
  | .ok url => url.text
  | .error _ => p.url

end FormPost

structure RawReply where
  status : UInt16
  body : List UInt8

def isBodiless (status : UInt16) : Bool := status = 101 || status = 204 || status = 304

/-- Whether a status is that of a reply. Those below 200 but one only announce a reply, and no status has
more than three digits. -/
def isFinal (status : UInt16) : Bool := status = 101 || (200 ≤ status && status < 1000)

def RawReply.toReply? (r : RawReply) : Option Reply :=
  if isFinal r.status then
    some ⟨r.status, if isBodiless r.status then "" else String.ofList (decodeBody r.body)⟩
  else none

/-- A call of the origin: what is posted, and what the reply to it means. -/
structure OriginCall (α : Type) where
  post : FormPost
  accept : Reply → Except Failure α

/-- What the client of HTTP hands back for a post: a reply, or why there is none. Redirects that the
client follows are behind it, so a reply that redirects is one that was not followed. -/
abbrev Network := FormPost → Except TransportFault RawReply

/-- The network that carries messages: there is nothing to carry where none is sent. -/
def Network.ofCarrier (carry : Message → Except TransportFault RawReply) : Network :=
  fun post => do carry (← post.message)

def OriginCall.reply {α : Type} (call : OriginCall α) :
    Except TransportFault RawReply → Except TransportFault Reply
  | .error fault => .error fault
  | .ok raw =>
    match raw.toReply? with
    | some reply => .ok reply
    | none => .error (.cutShort call.post.sentUrl)

def OriginCall.conclude {α : Type} (call : OriginCall α)
    (brought : Except TransportFault RawReply) : Except Failure α :=
  match call.reply brought with
  | .ok reply => call.accept reply
  | .error fault => .error (.transport fault)

def OriginCall.result {α : Type} (call : OriginCall α) (network : Network) : Except Failure α :=
  call.conclude (network call.post)

namespace Origin

def post (settings : Settings) (path : String) (fields : List (String × String)) : FormPost :=
  ⟨settings.url path, false, encodeForm fields⟩

def refusal (reply : Reply) : Failure :=
  match reply.fieldErrors? with
  | some errors => .invalidFields errors
  | none => .rejected reply.status reply.body

def acceptOrder (reply : Reply) : Except Failure InitiateReply :=
  if reply.isSuccess then (decode InitiateReply reply.body).mapError .malformedReply
  else .error (refusal reply)

def acceptFragment (reply : Reply) : Except Failure String :=
  if reply.isSuccess then .ok reply.body else .error (.rejected reply.status reply.body)

def initiate (settings : Settings) (form : InitiateForm) : OriginCall InitiateReply :=
  ⟨post settings "/donation/once/initiate" form.fields, acceptOrder⟩

def completeOnce (settings : Settings) (form : CompleteOnceForm) : OriginCall Reply :=
  ⟨post settings "/donation/once/complete" form.fields, .ok⟩

def completePlan (settings : Settings) (form : CompletePlanForm) : OriginCall Reply :=
  ⟨post settings settings.planPath form.fields, .ok⟩

def reportError (settings : Settings) (text : String) : OriginCall String :=
  ⟨{ post settings "/error" (ErrorForm.fields ⟨text⟩) with fromPage := true }, acceptFragment⟩

def call? (settings : Settings) : (r : Request) → Option (OriginCall r.Answer)
  | .initiate form => some (initiate settings form)
  | .completeOnce form => some (completeOnce settings form)
  | .completePlan form => some (completePlan settings form)
  | .reportError text => some (reportError settings text)
  | .subscribe _ | .capture _ | .snapshot _ => none

/-- Answers the origin's requests over a network, which may bring nothing at all, and leaves the
others to the provider. -/
def respondent (settings : Settings)
    (network : List Call → FormPost → Option (Except TransportFault RawReply))
    (provider : Respondent) : Respondent := fun before r =>
  match call? settings r with
  | some call => (network before call.post).map call.conclude
  | none => provider before r

/-- The posts that calls hand to the client, whether or not they can be sent. -/
def posts (settings : Settings) (calls : List Call) : List FormPost :=
  calls.filterMap fun call =>
    match call with
    | .request r => (call? settings r).map (·.post)
    | .page _ => none

def sent (settings : Settings) (calls : List Call) : List Message :=
  (posts settings calls).flatMap FormPost.sent

end Origin

end DonationPage
