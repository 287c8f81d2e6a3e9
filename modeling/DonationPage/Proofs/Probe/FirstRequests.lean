import DonationPage.Probe
import DonationPage.Proofs.Checkout.CompleteIntents
import DonationPage.Proofs.Json.RoundTrip
import DonationPage.Proofs.Origin.Posts
/-! The first request of a probe. It is the one that a checkout of the same page makes first, since
nothing that either of them needs is ever missing from an intent that loads; from a page that does not
describe an intent, neither comes to make a request. -/
namespace DonationPage

open Json

open Checkout (orderRequest_oneTime orderRequest_recurring)

namespace Checkout

theorem calls_initiate {intent : Intent} {settings : Settings} {r : Request}
    (asks : (Checkout.new intent settings).orderRequest = .ok r) (respond : Respondent)
    (before : List Call) :
    ((Checkout.new intent settings).perform respond before .initiate).calls = [.request r] :=
  (perform_move respond before _ .initiate).initiates rfl asks

theorem ofPage_eq (kind : DonationKind) (source : TagSource) (settings : Settings) :
    ofPage kind source settings = (Intent.load kind source).map (Checkout.new · settings) := by
  unfold ofPage
  cases Intent.load kind source <;> rfl

end Checkout

namespace Probe

def planOf (settings : Settings) (kind : DonationKind) (source : TagSource) : Plan :=
  match Intent.load kind source with
  | .error failure => .ended [.origin settings.origin] (.error (.failure failure))
  | .ok intent => planIntent settings intent [.origin settings.origin]

structure Gives (world : World) (settings : Settings) (kind : DonationKind) (page : PageTags) :
    Prop where
  settings : Settings.ofLookup world.lookup = .ok settings
  kind : Probe.kind world.lookup = .ok kind
  page : ∃ path, world.lookup "DONATION_PAGE_CONFIG" = some path ∧ loadPage world path = .ok page

theorem plan_of_gives {world : World} {settings : Settings} {kind : DonationKind} {page : PageTags}
    (gives : Gives world settings kind page) : plan world = planOf settings kind page.source := by
  obtain ⟨path, named, loaded⟩ := gives.page
  have intent : loadIntent world = (Intent.load kind page.source).mapError .failure := by
    have page : (loadPage world path).mapError ProbeFailure.failure = .ok page := by
      rw [loaded]
      rfl
    simp only [loadIntent, named, bind, Except.bind, page, gives.kind]
  rw [plan, gives.settings]
  dsimp only
  rw [intent, planOf]
  cases Intent.load kind page.source <;> rfl

theorem sent_conclude (log : List LogEntry) (call : OriginCall InitiateReply)
    (brought : Except TransportFault RawReply) :
    (conclude log call brought).sent = call.post.sent := by
  unfold conclude
  cases call.reply brought with
  | error fault => dsimp only
  | ok reply =>
    dsimp only
    cases call.accept reply <;> dsimp only

/-- A filter that shows what informs shows the request at the end of the log, by its JSON text, from
which the request can be read again. -/
structure ShowsRequest (log : List LogEntry) (request : SubscriptionRequest) : Prop where
  message : log.getLast?.map LogEntry.message =
    some ("Subscription request for provider: " ++ encode request)
  shown : ∀ filter : LogFilter, filter.shows logTarget .info = true →
    (shownLines filter log).getLast? = some ("INFO " ++ String.ofList
      (("Subscription request for provider: " ++ encode request).toList.flatMap logChar))
  read : decode SubscriptionRequest (encode request) = .ok request

theorem showsRequest (log : List LogEntry) (request : SubscriptionRequest) :
    ShowsRequest (log ++ [.subscription request]) request where
  message := by
    rw [List.getLast?_concat]
    rfl
  shown filter shows := by
    have informs : (LogEntry.subscription request).level = .info := rfl
    rw [shownLines, List.filter_append, List.filter_singleton, informs, shows, cond_true,
      List.map_append, List.map_singleton, List.getLast?_concat]
    rfl
  read := decode_encode rfl request

section Loaded

variable {kind : DonationKind} {source : TagSource} {intent : Intent}

theorem planOf_of_load (loaded : Intent.load kind source = .ok intent) (settings : Settings) :
    planOf settings kind source = planIntent settings intent [.origin settings.origin] := by
  rw [planOf, loaded]

theorem planIntent_oneTime {amount : Money} (once : intent.kind = .oneTime)
    (has : intent.amount? = some amount) (settings : Settings) (log : List LogEntry) :
    planIntent settings intent log = .ask (log ++ [.loaded .oneTime intent.fund])
      (Origin.initiate settings ⟨intent.fund, amount.cents⟩) := by
  simp [planIntent, initiateForm, once, has]

theorem planIntent_recurring {plan : String} (recurring : intent.kind = .recurring)
    (has : intent.providerPlan? = some plan) (settings : Settings) (log : List LogEntry) :
    planIntent settings intent log =
      .ended (log ++ [.loaded .recurring intent.fund] ++ [.subscription (.forPlan plan)])
        (.ok ()) := by
  simp [planIntent, subscriptionRequest, recurring, has]

end Loaded

/-- A probe and a checkout of one page begin alike, whichever source its tags come from and whatever
answers the checkout. For a one-time donation both ask the origin for an order by the same form, for
a recurring one the request that is shown is the request that the provider gets; an amount or a plan
by default is in neither. Where the page describes no intent, both fail for the same reason, and
neither asks for anything. -/
theorem first_request (kind : DonationKind) (source : TagSource) (settings : Settings) :
    (∀ world page, Gives world settings kind page →
      plan world = planOf settings kind page.source) ∧
    match Intent.load kind source with
    | .error failure =>
      Checkout.ofPage kind source settings = .error failure ∧
      ∀ network, (planOf settings kind source).run network =
        ⟨[.origin settings.origin], [], .error (.failure failure)⟩
    | .ok intent => ∃ checkout, Checkout.ofPage kind source settings = .ok checkout ∧
      match kind with
      | .oneTime => ∃ form, intent.amount? = some ⟨form.cents⟩ ∧
        (∀ respond before, (checkout.perform respond before .initiate).calls =
          [.request (.initiate form)]) ∧
        planOf settings kind source =
          .ask [.origin settings.origin, .loaded kind intent.fund]
            (Origin.initiate settings form) ∧
        ∀ network, ((planOf settings kind source).run network).sent =
          Origin.sent settings [.request (.initiate form)]
      | .recurring => ∃ request, intent.providerPlan? = some request.plan ∧
        (∀ respond before, (checkout.perform respond before .initiate).calls =
          [.request (.subscribe request)]) ∧
        ∃ log, (∀ network, (planOf settings kind source).run network = ⟨log, [], .ok ()⟩) ∧
          log = [.origin settings.origin, .loaded kind intent.fund, .subscription request] ∧
          ShowsRequest log request := by
  refine ⟨fun world page gives => plan_of_gives gives, ?_⟩
  cases loaded : Intent.load kind source with
  | error failure =>
    refine ⟨?_, ?_⟩
    · rw [Checkout.ofPage_eq, loaded]
      rfl
    · intro network
      rw [planOf, loaded]
      rfl
  | ok intent =>
    have complete := Intent.complete_of_load loaded
    have same : intent.kind = kind := (Intent.load_eq_ok.mp loaded).1
    refine ⟨Checkout.new intent settings, ?_, ?_⟩
    · rw [Checkout.ofPage_eq, loaded]
      rfl
    · cases kind with
      | oneTime =>
        obtain ⟨amount, has, -⟩ := complete.amount same
        have asks : (Checkout.new intent settings).orderRequest =
            .ok (.initiate ⟨intent.fund, amount.cents⟩) :=
          (orderRequest_oneTime same).mpr ⟨amount, has, rfl⟩
        have plan := planIntent_oneTime same has settings [.origin settings.origin]
        rw [← planOf_of_load loaded] at plan
        refine ⟨⟨intent.fund, amount.cents⟩, has, Checkout.calls_initiate asks, plan, ?_⟩
        intro network
        rw [plan, Plan.run, sent_conclude, Origin.sent_request rfl]
      | recurring =>
        obtain ⟨providerPlan, has, -⟩ := complete.providerPlan same
        have asks : (Checkout.new intent settings).orderRequest =
            .ok (.subscribe (.forPlan providerPlan)) :=
          (orderRequest_recurring same).mpr ⟨providerPlan, has, rfl⟩
        have plan := planIntent_recurring same has settings [.origin settings.origin]
        rw [← planOf_of_load loaded] at plan
        refine ⟨.forPlan providerPlan, has, Checkout.calls_initiate asks, _, fun network => ?_, rfl,
          showsRequest [_, _] _⟩
        rw [plan]
        rfl

def soundWorld : World where
  lookup key :=
    if key = "DONATION_ORIGIN_URL" then some "http://origin.test"
    else if key = "DONATION_PAGE_CONFIG" then some "page.json"
    else none
  fileText _ := .ok "\x7b\"fund-id\":\"\\\"F1\\\"\",\"amount\":2500\x7d"

def soundPage : PageTags := .ofPairs [("fund-id", "\"F1\""), ("amount", "2500")]

theorem loadPage_soundWorld : loadPage soundWorld "page.json" = .ok soundPage := by
  have tags : ((loadPage soundWorld "page.json").toOption.map fun page => page.texts.members) =
      some soundPage.texts.members := by decide +kernel
  cases read : loadPage soundWorld "page.json" with
  | error failure =>
    rw [read] at tags
    cases tags
  | ok page =>
    rw [read] at tags
    obtain ⟨⟨members, ascending⟩⟩ := page
    cases Option.some.inj tags
    rfl

theorem soundWorld_asks : ∃ checkout form,
    Checkout.ofPage .oneTime soundPage.source (.ofOrigin "http://origin.test") = .ok checkout ∧
    (checkout.perform (Session.usual .oneTime).respond [] .initiate).calls =
      [.request (.initiate form)] ∧
    plan soundWorld = .ask [.origin "http://origin.test", .loaded .oneTime "F1"]
      (Origin.initiate (.ofOrigin "http://origin.test") form) ∧
    ∀ network, (run network soundWorld).sent =
      Origin.sent (.ofOrigin "http://origin.test") [.request (.initiate form)] := by
  have gives : Gives soundWorld (.ofOrigin "http://origin.test") .oneTime soundPage :=
    ⟨rfl, rfl, "page.json", rfl, loadPage_soundWorld⟩
  have loaded : Intent.load .oneTime soundPage.source =
      .ok ⟨.oneTime, "F1", none, some ⟨2500⟩, none, none⟩ := rfl
  obtain ⟨plans, begins⟩ :=
    first_request .oneTime soundPage.source (.ofOrigin "http://origin.test")
  rw [loaded] at begins
  obtain ⟨checkout, made, form, -, calls, asks, sends⟩ := begins
  have same := plans _ _ gives
  refine ⟨checkout, form, made, calls _ _, same.trans asks, fun network => ?_⟩
  rw [run, same, sends]

end Probe

end DonationPage
