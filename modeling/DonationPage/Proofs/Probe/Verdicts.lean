import DonationPage.Proofs.Probe.FirstRequests
/-! What a probe of a one-time donation says of the origin, beside what a checkout makes of the same
reply. Both take an order from a reply that confirms one. The checkout then refuses an order without
an id; the probe does not look at the id, and it is there that the two part. -/
namespace DonationPage

open Json

namespace Checkout

theorem result_initiate {respond : Respondent} {before : List Call} {c : Checkout} {r : Request}
    {answer : Except Failure OrderId} (idle : c.stage = .idle) (asks : c.orderRequest = .ok r)
    (answered : respond.order? before r = some answer) :
    (c.perform respond before .initiate).result? = some (answer.map .order) := by
  have move := perform_move respond before c .initiate
  generalize c.perform respond before .initiate = step at move ⊢
  cases move with
  | initiateLate late => exact absurd idle late
  | amountless idle lacks => cases asks.symm.trans lacks
  | unanswered idle other never =>
    cases asks.symm.trans other
    cases answered.symm.trans never
  | refused idle other told =>
    cases asks.symm.trans other
    cases answered.symm.trans told
    rfl
  | ordered idle other told =>
    cases asks.symm.trans other
    cases answered.symm.trans told
    rfl

end Checkout

namespace Origin

theorem acceptOrder_eq_ok {reply : Reply} {initiated : InitiateReply} :
    acceptOrder reply = .ok initiated ↔
      reply.isSuccess = true ∧ decode InitiateReply reply.body = .ok initiated := by
  unfold acceptOrder
  split
  · next success => simp [success, mapError_eq_ok]
  · next declined => simp [declined]

def received {α : Type} (call : OriginCall α) (network : Network) : Except TransportFault Reply :=
  call.reply (network call.post)

theorem result_initiate_eq_ok {settings : Settings} {form : InitiateForm} {network : Network}
    {initiated : InitiateReply} :
    (initiate settings form).result network = .ok initiated ↔
      ∃ reply, received (initiate settings form) network = .ok reply ∧ reply.isSuccess = true ∧
        decode InitiateReply reply.body = .ok initiated := by
  simp only [← acceptOrder_eq_ok]
  unfold OriginCall.result OriginCall.conclude received
  cases (initiate settings form).reply (network (initiate settings form).post) with
  | error fault => simp
  | ok reply =>
    simp only [Except.ok.injEq, exists_eq_left']
    rfl

end Origin

namespace Probe

def orders (log : List LogEntry) : List String :=
  log.filterMap fun entry =>
    match entry with
    | .order id => some id
    | _ => none

/-- A probe ends well exactly when a checkout makes an order, and tells of that order then. -/
def SameVerdict (run : Run) (step : Step Product) : Prop :=
  (run.exitCode = 0 ↔ ∃ id, step.result? = some (.ok (.order id))) ∧
  ∀ id, step.result? = some (.ok (.order id)) → orders run.log = [id.text]

section Concluded

variable {log : List LogEntry} {call : OriginCall InitiateReply}
  {brought : Except TransportFault RawReply}

theorem exitCode_conclude :
    (conclude log call brought).exitCode = 0 ↔
      ∃ initiated, call.conclude brought = .ok initiated := by
  unfold conclude OriginCall.conclude
  cases call.reply brought with
  | error fault => simp [Run.exitCode]
  | ok reply =>
    dsimp only
    cases call.accept reply <;> simp [Run.exitCode]

theorem orders_conclude {initiated : InitiateReply}
    (accepted : call.conclude brought = .ok initiated) (untold : orders log = []) :
    orders (conclude log call brought).log = [initiated.order] := by
  unfold OriginCall.conclude at accepted
  unfold conclude
  cases received : call.reply brought with
  | error fault =>
    rw [received] at accepted
    cases accepted
  | ok reply =>
    rw [received] at accepted
    dsimp only at accepted ⊢
    rw [accepted]
    simp only [orders, List.filterMap_append] at untold ⊢
    split <;> simp [untold]

end Concluded

theorem result_online {settings : Settings} {form : InitiateForm} {c : Checkout}
    {network : Network} {provider : Respondent} {before : List Call} (idle : c.stage = .idle)
    (asks : c.orderRequest = .ok (.initiate form)) :
    (c.perform (Origin.respondent settings (fun _ post => some (network post)) provider) before
      .initiate).result? = some (((Origin.initiate settings form).result network).bind
        (fun reply => OrderId.ofText reply.order) |>.map .order) :=
  Checkout.result_initiate idle asks rfl

theorem sameVerdict_of_result {run : Run} {step : Step Product}
    {answer : Except Failure InitiateReply}
    (ends : run.exitCode = 0 ↔ ∃ initiated, answer = .ok initiated)
    (tells : ∀ initiated, answer = .ok initiated → orders run.log = [initiated.order])
    (result : step.result? =
      some ((answer.bind fun reply => OrderId.ofText reply.order).map .order)) :
    SameVerdict run step ↔
      ∀ initiated, answer = .ok initiated → isBlankText initiated.order = false := by
  have made (id : OrderId) : step.result? = some (.ok (.order id)) ↔
      ∃ initiated, answer = .ok initiated ∧ isBlankText initiated.order = false ∧
        id = ⟨initiated.order⟩ := by
    simp [result, map_eq_ok, bind_eq_ok, OrderId.ofText_eq_ok]
  unfold SameVerdict
  simp only [ends, made]
  constructor
  · rintro ⟨⟨makes, -⟩, -⟩ initiated accepted
    obtain ⟨id, other, again, visible, -⟩ := makes ⟨initiated, accepted⟩
    cases accepted.symm.trans again
    exact visible
  · intro visible
    refine ⟨⟨?_, ?_⟩, ?_⟩
    · rintro ⟨initiated, accepted⟩
      exact ⟨⟨initiated.order⟩, initiated, accepted, visible initiated accepted, rfl⟩
    · rintro ⟨id, initiated, accepted, -⟩
      exact ⟨initiated, accepted⟩
    · rintro id ⟨initiated, accepted, -, rfl⟩
      exact tells initiated accepted

/-- A probe and a checkout of one page for one-time donations come to the same verdict on a reply, or
on the fault that none came, and to the same order, unless the reply confirms an order whose id is
blank. -/
theorem sameVerdict_iff (source : TagSource) (settings : Settings) (network : Network)
    (provider : Respondent) (before : List Call) :
    (∀ world page, Gives world settings .oneTime page →
      run network world = (planOf settings .oneTime page.source).run network) ∧
    ∀ intent, Intent.load .oneTime source = .ok intent →
      ∃ checkout, Checkout.ofPage .oneTime source settings = .ok checkout ∧
        (SameVerdict ((planOf settings .oneTime source).run network)
            (checkout.perform
              (Origin.respondent settings (fun _ post => some (network post)) provider)
              before .initiate) ↔
          ∀ reply initiated,
            Origin.received (Origin.initiate settings (initiateForm intent)) network = .ok reply →
              reply.isSuccess = true → decode InitiateReply reply.body = .ok initiated →
                isBlankText initiated.order = false) := by
  refine ⟨fun world page gives => by rw [run, plan_of_gives gives], fun intent loaded => ?_⟩
  have complete := Intent.complete_of_load loaded
  have once : intent.kind = .oneTime := (Intent.load_eq_ok.mp loaded).1
  obtain ⟨amount, has, -⟩ := complete.amount once
  have form : initiateForm intent = ⟨intent.fund, amount.cents⟩ := by simp [initiateForm, has]
  have asks : (Checkout.new intent settings).orderRequest =
      .ok (.initiate (initiateForm intent)) :=
    (Checkout.orderRequest_oneTime once).mpr ⟨amount, has, congrArg Request.initiate form⟩
  have plan := planIntent_oneTime once has settings [.origin settings.origin]
  rw [← planOf_of_load loaded, ← form] at plan
  refine ⟨Checkout.new intent settings, ?_, ?_⟩
  · rw [Checkout.ofPage_eq, loaded]
    rfl
  · rw [plan, Plan.run, sameVerdict_of_result exitCode_conclude
      (fun initiated accepted => orders_conclude accepted rfl) (result_online rfl asks)]
    change (∀ initiated, (Origin.initiate settings (initiateForm intent)).result network =
      .ok initiated → _) ↔ _
    simp only [Origin.result_initiate_eq_ok]
    constructor
    · intro visible reply initiated replied success decoded
      exact visible initiated ⟨reply, replied, success, decoded⟩
    · rintro visible initiated ⟨reply, replied, success, decoded⟩
      exact visible reply initiated replied success decoded

def namelessReply : Reply := ⟨200, "\x7b\"orderId\":\"\"\x7d"⟩

def namelessNetwork : Network := fun _ => .ok ⟨200, utf8Encode namelessReply.body.toList⟩

theorem decode_namelessReply : decode InitiateReply namelessReply.body = .ok ⟨""⟩ :=
  toOption_eq_some.mp (by decide +kernel)

theorem nameless_verdicts : ∃ checkout,
    Checkout.ofPage .oneTime soundPage.source (.ofOrigin "http://origin.test") = .ok checkout ∧
    ¬ SameVerdict (run namelessNetwork soundWorld)
      (checkout.perform (Origin.respondent (.ofOrigin "http://origin.test")
        (fun _ post => some (namelessNetwork post)) (Session.usual .oneTime).respond) []
        .initiate) := by
  have gives : Gives soundWorld (.ofOrigin "http://origin.test") .oneTime soundPage :=
    ⟨rfl, rfl, "page.json", rfl, loadPage_soundWorld⟩
  have loaded : Intent.load .oneTime soundPage.source =
      .ok ⟨.oneTime, "F1", none, some ⟨2500⟩, none, none⟩ := rfl
  have replied : Origin.received (Origin.initiate (.ofOrigin "http://origin.test") ⟨"F1", 2500⟩)
      namelessNetwork = .ok namelessReply := by
    have read : RawReply.toReply? ⟨200, utf8Encode namelessReply.body.toList⟩ =
        some namelessReply := by decide
    rw [Origin.received, namelessNetwork, OriginCall.reply, read]
  have accepted := Origin.result_initiate_eq_ok.mpr
    ⟨namelessReply, replied, rfl, decode_namelessReply⟩
  have ends : (run namelessNetwork soundWorld).exitCode = 0 := by
    rw [run, plan_of_gives gives, planOf_of_load loaded, planIntent_oneTime rfl rfl, Plan.run,
      exitCode_conclude]
    exact ⟨⟨""⟩, accepted⟩
  have asks : (Checkout.new ⟨.oneTime, "F1", none, some ⟨2500⟩, none, none⟩
      (.ofOrigin "http://origin.test")).orderRequest = .ok (.initiate ⟨"F1", 2500⟩) := rfl
  refine ⟨_, (Checkout.ofPage_eq ..).trans (congrArg _ loaded), ?_⟩
  rintro ⟨⟨makes, -⟩, -⟩
  obtain ⟨id, made⟩ := makes ends
  rw [result_online rfl asks, accepted] at made
  cases made

end Probe

end DonationPage
