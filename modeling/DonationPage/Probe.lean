import DonationPage.EnvFile
import DonationPage.LogFilter
import DonationPage.Origin
/-! The probe: a check, without a browser, that a page's donation settings are sound and that the
origin issues an order for them. -/
namespace DonationPage

open Json

namespace Probe

inductive LogEntry where
  | origin (url : String)
  | loaded (kind : DonationKind) (fund : String)
  | order (id : String)
  | subscription (request : SubscriptionRequest)
  | rejected (reply : Reply)
deriving DecidableEq

def LogEntry.level : LogEntry → LogLevel
  | rejected _ => .error
  | _ => .info

def LogEntry.message : LogEntry → String
  | origin url => "Origin: " ++ url
  | loaded kind fund => "Loaded " ++ kind.name ++ " intent for fund " ++ fund
  | order id => "Origin issued order " ++ id
  | subscription request => "Subscription request for provider: " ++ encode request
  | rejected reply =>
    "Initiate rejected: " ++ intText reply.status.toNat ++ " - " ++ reply.body

/-- A character of a log line. Controls that a terminal could obey are written by their numbers. -/
def logChar (c : Char) : List Char :=
  if ['\x1b', '\x07', '\x08', '\x0c', '\x7f'].contains c then
    ['\\', 'x'] ++ (if c.toNat < 16 then ['0'] else []) ++ Nat.toDigits 16 c.toNat
  else if 0x80 ≤ c.toNat ∧ c.toNat ≤ 0x9F then numberEscape c
  else [c]

def LogEntry.line (e : LogEntry) : String :=
  e.level.name ++ " " ++ String.ofList (e.message.toList.flatMap logChar)

def logTarget : String := "donation_flow"

def shownLines (filter : LogFilter) (log : List LogEntry) : List String :=
  (log.filter fun e => filter.shows logTarget e.level).map LogEntry.line

inductive ProbeFailure where
  | failure (f : Failure)
  | noPage
  | unknownKind (text : String)

def ProbeFailure.message : ProbeFailure → String
  | failure f => f.message
  | noPage => "DONATION_PAGE_CONFIG must be set"
  | unknownKind text => "DONATION_KIND must be `once` or `plan`, got " ++ backquoted text

def ProbeFailure.causes : ProbeFailure → List String
  | failure (.malformedReply error) => [error.message]
  | failure (.transport fault) => fault.chain
  | _ => []

/-- What is told of the causes of a failure: of several, each by its number. -/
def tellCauses : List String → String
  | [] => ""
  | [cause] => "\nCaused by:\n    " ++ cause ++ "\n"
  | causes =>
    "\nCaused by:\n" ++
      String.join (causes.mapIdx fun i cause => "    " ++ intText i ++ ": " ++ cause ++ "\n")

def ProbeFailure.report (f : ProbeFailure) : String :=
  "Error: " ++ f.message ++ "\n" ++ tellCauses f.causes

structure World where
  lookup : Lookup
  fileText : String → Except FileFault String

structure Run where
  log : List LogEntry
  sent : List Message
  result : Except ProbeFailure Unit

def Run.exitCode (r : Run) : Nat :=
  match r.result with
  | .ok _ => 0
  | .error _ => 1

def Run.stderr (r : Run) : String :=
  match r.result with
  | .ok _ => ""
  | .error f => f.report

/-- The filter that a variable gives; without a filter that can be read, all is shown that informs. -/
def logFilter (lookup : Lookup) : LogFilter :=
  ((lookup "RUST_LOG").bind LogFilter.ofText?).getD (.downTo .info)

def loadPage (world : World) (path : String) : Except Failure PageTags :=
  match world.fileText path with
  | .error fault => .error (.setup (.pageUnreadable path fault))
  | .ok text => PageTags.ofJson text

def kind (lookup : Lookup) : Except ProbeFailure DonationKind :=
  match lookup "DONATION_KIND" with
  | none => .ok .oneTime
  | some text =>
    if text = "plan" then .ok .recurring
    else if text = "once" then .ok .oneTime
    else .error (.unknownKind text)

def loadIntent (world : World) : Except ProbeFailure Intent := do
  let path ←
    match world.lookup "DONATION_PAGE_CONFIG" with
    | none => .error .noPage
    | some path => .ok path
  let page ← (loadPage world path).mapError .failure
  let kind ← kind world.lookup
  (Intent.load kind page.source).mapError .failure

def initiateForm (intent : Intent) : InitiateForm :=
  ⟨intent.fund, (intent.amount?.map Money.cents).getD 0⟩

def subscriptionRequest (intent : Intent) : SubscriptionRequest :=
  .forPlan (intent.providerPlan?.getD "")

/-- How a probe goes on once the settings are read: it has come to an end, or it makes a call of the
origin. -/
inductive Plan where
  | ended (log : List LogEntry) (result : Except ProbeFailure Unit)
  | ask (log : List LogEntry) (call : OriginCall InitiateReply)

def planIntent (settings : Settings) (intent : Intent) (log : List LogEntry) : Plan :=
  let log := log ++ [.loaded intent.kind intent.fund]
  match intent.kind with
  | .oneTime => .ask log (Origin.initiate settings (initiateForm intent))
  | .recurring => .ended (log ++ [.subscription (subscriptionRequest intent)]) (.ok ())

def plan (world : World) : Plan :=
  match Settings.ofLookup world.lookup with
  | .error failure => .ended [] (.error (.failure failure))
  | .ok settings =>
    let log := [.origin settings.origin]
    match loadIntent world with
    | .error failure => .ended log (.error failure)
    | .ok intent => planIntent settings intent log

def conclude (log : List LogEntry) (call : OriginCall InitiateReply)
    (brought : Except TransportFault RawReply) : Run :=
  match call.reply brought with
  | .error fault => ⟨log, call.post.sent, .error (.failure (.transport fault))⟩
  | .ok reply =>
    let log := if reply.isSuccess then log else log ++ [.rejected reply]
    match call.accept reply with
    | .error failure => ⟨log, call.post.sent, .error (.failure failure)⟩
    | .ok initiated => ⟨log ++ [.order initiated.order], call.post.sent, .ok ()⟩

def Plan.run (network : Network) : Plan → Run
  | ended log result => ⟨log, [], result⟩
  | ask log call => conclude log call (network call.post)

def run (network : Network) (world : World) : Run := (plan world).run network

/-- The world as a probe sees it when a file of variables lies beside it: a variable that is set
outside of the file keeps its value. -/
def World.withEnvFile (world : World) (path : String) : Except VariableFault World :=
  match world.fileText path with
  | .error _ => .ok world
  | .ok text => do return { world with lookup := ← EnvFile.read world.lookup text }

end Probe

end DonationPage
