import DonationPage.Checkout.Run
import DonationPage.Proofs.Except
/-! What one operation can do to a checkout, said once for both kinds of donation: which requests it
makes, which answers it goes on with, and where each answer or missing answer leaves the checkout.
What holds of every run is derived from these moves alone. -/
namespace DonationPage

def Respondent.order? (respond : Respondent) (before : List Call) :
    Request → Option (Except Failure OrderId)
  | .initiate form => (respond before (.initiate form)).map fun answer =>
      answer.bind fun reply => OrderId.ofText reply.order
  | .subscribe request => respond before (.subscribe request)
  | _ => none

def Respondent.reply? (respond : Respondent) (before : List Call) :
    Request → Option (Except Failure Reply)
  | .completeOnce form => respond before (.completeOnce form)
  | .completePlan form => respond before (.completePlan form)
  | _ => none

/-- What is reported of an answer to a completion, unless it confirms the donation. -/
def unconfirmed? : Except Failure Reply → Option (String × Option FieldErrors)
  | .ok reply => if reply.isSuccess then none else some (reply.body, reply.fieldErrors?)
  | .error failure => some (failure.report, none)

namespace Step

variable {α β : Type} (call : Call) (f : α → β) (s : Step α)

@[simp] theorem after_checkout : (s.after call).checkout = s.checkout := rfl

@[simp] theorem after_calls : (s.after call).calls = call :: s.calls := rfl

@[simp] theorem map_checkout : (s.map f).checkout = s.checkout := rfl

@[simp] theorem map_calls : (s.map f).calls = s.calls := rfl

@[simp] theorem map_result_eq_none : (s.map f).result? = none ↔ s.result? = none := by
  simp [map]

end Step

namespace Checkout

def orderRequest (c : Checkout) : Except SetupFault Request :=
  match c.intent.kind with
  | .oneTime =>
    match c.intent.amount? with
    | none => .error .noAmount
    | some amount => .ok (.initiate ⟨c.intent.fund, amount.cents⟩)
  | .recurring =>
    match c.intent.providerPlan? with
    | none => .error .noProviderPlan
    | some plan => .ok (.subscribe (.forPlan plan))

def fetchRequest (c : Checkout) (approval : Approval) : Except SetupFault Request :=
  match c.intent.kind with
  | .oneTime => .ok (.capture approval.order)
  | .recurring =>
    match c.intent.providerPlan?, c.intent.plan? with
    | none, _ => .error .noProviderPlan
    | some _, none => .error .noPlan
    | some _, some _ => .ok (.snapshot approval)

/-- The request that completes the donation, and the donor's given name, as they come of the answer
to the request that an approval leads to. -/
def completion? (c : Checkout) (respond : Respondent) (before : List Call) (approval : Approval) :
    Option (Except Failure (Request × String)) :=
  match c.intent.kind with
  | .oneTime => (respond before (.capture approval.order)).map fun answer =>
      (answer.bind fun capture => capture.result approval.order).map fun r =>
        (.completeOnce (c.onceForm r), r.payer.givenName)
  | .recurring =>
    match c.intent.providerPlan?, c.intent.plan? with
    | some providerPlan, some plan => (respond before (.snapshot approval)).map fun answer =>
        (answer.bind SubscriptionSnapshot.result).map fun r =>
          (.completePlan (c.planForm approval providerPlan plan r), r.subscriber.givenName)
    | _, _ => none

/-- An approval is taken once an order exists, and only if it names that order. -/
def Accepts (c : Checkout) (approval : Approval) : Prop :=
  c.stage = .orderCreated ∧ c.order?.map OrderId.text = c.approvedId? approval

@[simp] theorem atStage_stage (c : Checkout) (stage : Stage) : (c.atStage stage).stage = stage := rfl

@[simp] theorem atStage_order (c : Checkout) (stage : Stage) :
    (c.atStage stage).order? = c.order? := rfl

@[simp] theorem atStage_intent (c : Checkout) (stage : Stage) :
    (c.atStage stage).intent = c.intent := rfl

/-- How a donation ends, from the request `q` that completes it on: the origin confirms it, or is
told that it did not; each of the two requests may go unanswered. -/
inductive Conclusion (respond : Respondent) (before : List Call) (c : Checkout) (q : Request)
    (name : String) : Step Outcome → Prop
  | unanswered (never : respond.reply? before q = none) :
      Conclusion respond before c q name ⟨c.atStage .completing, [.request q], none⟩
  | confirmed {reply : Reply} (replied : respond.reply? before q = some (.ok reply))
      (success : reply.isSuccess = true) :
      Conclusion respond before c q name
        ⟨c.atStage .succeeded, [.request q, .page (.navigate (c.successTarget name))],
          some (.ok (.success (c.successTarget name)))⟩
  | unreported {answer : Except Failure Reply} {detail : String}
      {fieldErrors? : Option FieldErrors} (replied : respond.reply? before q = some answer)
      (unconfirmed : unconfirmed? answer = some (detail, fieldErrors?))
      (never : respond (before ++ [.request q]) (.reportError detail) = none) :
      Conclusion respond before c q name
        ⟨c.atStage .completing, [.request q, .request (.reportError detail)], none⟩
  | reportFailed {answer : Except Failure Reply} {detail : String}
      {fieldErrors? : Option FieldErrors} {failure : Failure}
      (replied : respond.reply? before q = some answer)
      (unconfirmed : unconfirmed? answer = some (detail, fieldErrors?))
      (told : respond (before ++ [.request q]) (.reportError detail) = some (.error failure)) :
      Conclusion respond before c q name
        ⟨c.atStage .failed, [.request q, .request (.reportError detail)],
          some (.ok (.failure detail fieldErrors?))⟩
  | reported {answer : Except Failure Reply} {detail fragment : String}
      {fieldErrors? : Option FieldErrors} (replied : respond.reply? before q = some answer)
      (unconfirmed : unconfirmed? answer = some (detail, fieldErrors?))
      (told : respond (before ++ [.request q]) (.reportError detail) = some (.ok fragment)) :
      Conclusion respond before c q name
        ⟨c.atStage .failed, [.request q, .request (.reportError detail),
          .page (.render c.settings.errorTarget fragment)],
          some (.ok (.failure detail fieldErrors?))⟩

inductive Settlement (respond : Respondent) (before : List Call) (c : Checkout)
    (approval : Approval) : Step Outcome → Prop
  | planless {fault : SetupFault} (lacks : c.fetchRequest approval = .error fault) :
      Settlement respond before c approval
        ⟨c.atStage .failed, [], some (.error (.setup fault))⟩
  | unanswered {r : Request} (asks : c.fetchRequest approval = .ok r)
      (never : c.completion? respond before approval = none) :
      Settlement respond before c approval ⟨c.atStage .capturing, [.request r], none⟩
  | refused {r : Request} {failure : Failure} (asks : c.fetchRequest approval = .ok r)
      (answered : c.completion? respond before approval = some (.error failure)) :
      Settlement respond before c approval
        ⟨c.atStage .failed, [.request r], some (.error failure)⟩
  | fetched {r q : Request} {name : String} {s : Step Outcome}
      (asks : c.fetchRequest approval = .ok r)
      (answered : c.completion? respond before approval = some (.ok (q, name)))
      (concluded : Conclusion respond (before ++ [.request r]) c q name s) :
      Settlement respond before c approval (s.after (.request r))

inductive Move (respond : Respondent) (before : List Call) (c : Checkout) :
    Operation → Step Product → Prop
  | initiateLate (late : c.stage ≠ .idle) :
      Move respond before c .initiate ⟨c, [], some (.error (c.wrongStage .idle))⟩
  | amountless {fault : SetupFault} (idle : c.stage = .idle)
      (lacks : c.orderRequest = .error fault) :
      Move respond before c .initiate
        ⟨c.atStage .failed, [], some (.error (.setup fault))⟩
  | unanswered {r : Request} (idle : c.stage = .idle) (asks : c.orderRequest = .ok r)
      (never : respond.order? before r = none) :
      Move respond before c .initiate ⟨c, [.request r], none⟩
  | refused {r : Request} {failure : Failure} (idle : c.stage = .idle)
      (asks : c.orderRequest = .ok r)
      (answered : respond.order? before r = some (.error failure)) :
      Move respond before c .initiate
        ⟨c.atStage .failed, [.request r], some (.error failure)⟩
  | ordered {r : Request} {id : OrderId} (idle : c.stage = .idle) (asks : c.orderRequest = .ok r)
      (answered : respond.order? before r = some (.ok id)) :
      Move respond before c .initiate
        ⟨{ c with stage := .orderCreated, order? := some id }, [.request r],
          some (.ok (.order id))⟩
  | approveEarly {approval : Approval} (early : c.stage ≠ .orderCreated) :
      Move respond before c (.approve approval)
        ⟨c, [], some (.error (c.wrongStage .orderCreated))⟩
  | approveForeign {approval : Approval} (created : c.stage = .orderCreated)
      (foreign : c.order?.map OrderId.text ≠ c.approvedId? approval) :
      Move respond before c (.approve approval) ⟨c, [], some <| .error <| .provider <|
        .unknownOrder ((c.approvedId? approval).getD approval.order.text)⟩
  | approved {approval : Approval} {s : Step Outcome} (accepted : c.Accepts approval)
      (settled : Settlement respond before c approval s) :
      Move respond before c (.approve approval) (s.map .outcome)
  | abandonLate (ended : c.stage.isTerminal = true) :
      Move respond before c .abandon ⟨c, [], some (.ok .nothing)⟩
  | abandoned (going : c.stage.isTerminal = false) :
      Move respond before c .abandon ⟨c.atStage .abandoned, [], some (.ok .nothing)⟩

variable {respond : Respondent} {before : List Call} {c : Checkout}

private theorem conclusion_of_reply {q : Request} {answer : Except Failure Reply}
    (name : String) (replied : respond.reply? before q = some answer) :
    Conclusion respond before c q name
      ((((c.atStage .completing).settle name answer).run respond (before ++ [.request q])).after
        (.request q)) := by
  have report (detail : String) (fieldErrors? : Option FieldErrors)
      (unconfirmed : unconfirmed? answer = some (detail, fieldErrors?)) :
      Conclusion respond before c q name
        ((((c.atStage .completing).reportFailure detail fieldErrors?).run respond
          (before ++ [.request q])).after (.request q)) := by
    simp only [reportFailure, Progress.run]
    cases told : respond (before ++ [.request q]) (.reportError detail) with
    | none => exact .unreported replied unconfirmed told
    | some outcome =>
      cases outcome with
      | error failure => exact .reportFailed replied unconfirmed told
      | ok fragment => exact .reported replied unconfirmed told
  cases answer with
  | error failure => exact report failure.report none rfl
  | ok reply =>
    by_cases success : reply.isSuccess = true
    · simp only [settle, success, ↓reduceIte, Progress.run]
      exact .confirmed replied success
    · simp only [settle, success, ↓reduceIte, Bool.false_eq_true]
      exact report reply.body reply.fieldErrors? (by simp [unconfirmed?, success])

private theorem conclusion_completeOnce (form : CompleteOnceForm) (name : String) :
    Conclusion respond before c (.completeOnce form) name
      ((Progress.wait (c.atStage .completing) (.completeOnce form)
        ((c.atStage .completing).settle name)).run respond before) := by
  rw [Progress.run]
  cases replied : respond before (.completeOnce form) with
  | none => exact .unanswered replied
  | some answer => exact conclusion_of_reply name replied

private theorem conclusion_completePlan (form : CompletePlanForm) (name : String) :
    Conclusion respond before c (.completePlan form) name
      ((Progress.wait (c.atStage .completing) (.completePlan form)
        ((c.atStage .completing).settle name)).run respond before) := by
  rw [Progress.run]
  cases replied : respond before (.completePlan form) with
  | none => exact .unanswered replied
  | some answer => exact conclusion_of_reply name replied

private theorem settlement_captureOnce {approval : Approval} (once : c.intent.kind = .oneTime) :
    Settlement respond before c approval
      (((c.atStage .capturing).captureOnce approval).run respond before) := by
  have asks : c.fetchRequest approval = .ok (.capture approval.order) := by
    simp [fetchRequest, once]
  rw [captureOnce, Progress.run]
  cases answered : respond before (.capture approval.order) with
  | none => exact .unanswered asks (by simp [completion?, once, answered])
  | some answer =>
    dsimp only
    cases result : answer.bind fun capture => capture.result approval.order with
    | error failure =>
      exact .refused asks (by simp [completion?, once, answered, result, Except.map])
    | ok r =>
      refine .fetched asks ?_ (conclusion_completeOnce (c.onceForm r) r.payer.givenName)
      simp [completion?, once, answered, result, Except.map]

private theorem settlement_snapshotPlan {approval : Approval}
    (recurring : c.intent.kind = .recurring) :
    Settlement respond before c approval
      (((c.atStage .capturing).snapshotPlan approval).run respond before) := by
  simp only [snapshotPlan, atStage_intent]
  cases providerPlan : c.intent.providerPlan? with
  | none => exact .planless (by simp [fetchRequest, recurring, providerPlan])
  | some p =>
    cases plan : c.intent.plan? with
    | none => exact .planless (by simp [fetchRequest, recurring, providerPlan, plan])
    | some n =>
      have asks : c.fetchRequest approval = .ok (.snapshot approval) := by
        simp [fetchRequest, recurring, providerPlan, plan]
      rw [Progress.run]
      cases answered : respond before (.snapshot approval) with
      | none =>
        exact .unanswered asks (by simp [completion?, recurring, providerPlan, plan, answered])
      | some answer =>
        dsimp only
        cases result : answer.bind SubscriptionSnapshot.result with
        | error failure =>
          exact .refused asks (by
            simp [completion?, recurring, providerPlan, plan, answered, result, Except.map])
        | ok r =>
          refine .fetched asks ?_
            (conclusion_completePlan (c.planForm approval p n r) r.subscriber.givenName)
          simp [completion?, recurring, providerPlan, plan, answered, result, Except.map]

private theorem move_keepOrder {r : Request} {answer : Except Failure OrderId}
    (idle : c.stage = .idle) (asks : c.orderRequest = .ok r)
    (answered : respond.order? before r = some answer) :
    Move respond before c .initiate
      ((((c.keepOrder answer).run respond (before ++ [.request r])).after (.request r)).map
        .order) := by
  cases answer with
  | error failure => exact .refused idle asks answered
  | ok id => exact .ordered idle asks answered

private theorem move_initiate :
    Move respond before c .initiate ((c.initiate.run respond before).map .order) := by
  by_cases idle : c.stage = .idle
  · simp only [initiate, idle, ne_eq, not_true_eq_false, ↓reduceIte]
    cases kind : c.intent.kind with
    | oneTime =>
      cases amount : c.intent.amount? with
      | none => exact .amountless idle (by simp [orderRequest, kind, amount])
      | some m =>
        have asks : c.orderRequest = .ok (.initiate ⟨c.intent.fund, m.cents⟩) := by
          simp [orderRequest, kind, amount]
        simp only [Progress.run]
        cases answered : respond before (.initiate ⟨c.intent.fund, m.cents⟩) with
        | none => exact .unanswered idle asks (by simp [Respondent.order?, answered])
        | some answer => exact move_keepOrder idle asks (by simp [Respondent.order?, answered])
    | recurring =>
      cases plan : c.intent.providerPlan? with
      | none => exact .amountless idle (by simp [orderRequest, kind, plan])
      | some p =>
        have asks : c.orderRequest = .ok (.subscribe (.forPlan p)) := by
          simp [orderRequest, kind, plan]
        simp only [Progress.run]
        cases answered : respond before (.subscribe (.forPlan p)) with
        | none => exact .unanswered idle asks answered
        | some answer => exact move_keepOrder idle asks answered
  · simp only [initiate, idle, ne_eq, not_false_eq_true, ↓reduceIte]
    exact .initiateLate idle

private theorem move_approve (approval : Approval) :
    Move respond before c (.approve approval)
      (((c.approve approval).run respond before).map .outcome) := by
  unfold approve
  split
  · rename_i early
    exact .approveEarly early
  · rename_i created
    have created : c.stage = .orderCreated := Decidable.not_not.mp created
    split
    · rename_i foreign
      exact .approveForeign created foreign
    · rename_i named
      refine .approved ⟨created, Decidable.not_not.mp named⟩ ?_
      simp only [atStage_intent]
      cases kind : c.intent.kind with
      | oneTime => exact settlement_captureOnce kind
      | recurring => exact settlement_snapshotPlan kind

private theorem move_abandon :
    Move respond before c .abandon ⟨c.abandon, [], some (.ok .nothing)⟩ := by
  unfold abandon
  split
  · rename_i ended
    exact .abandonLate ended
  · rename_i going
    exact .abandoned (by simpa using going)

/-- Every operation, whatever the answers, does one of the moves. -/
theorem perform_move (respond : Respondent) (before : List Call) (c : Checkout) (op : Operation) :
    Move respond before c op (c.perform respond before op) := by
  cases op with
  | initiate => exact move_initiate
  | approve approval => exact move_approve approval
  | abandon => exact move_abandon

end Checkout

theorem OrderId.ofText_eq_ok {text : String} {id : OrderId} :
    OrderId.ofText text = .ok id ↔ isBlankText text = false ∧ id = ⟨text⟩ := by
  unfold OrderId.ofText
  cases blank : isBlankText text with
  | true => simp
  | false => simp [eq_comm]

theorem Respondent.order_initiate {respond : Respondent} {before : List Call} {form : InitiateForm}
    {id : OrderId} : respond.order? before (.initiate form) = some (.ok id) ↔
      ∃ reply, respond before (.initiate form) = some (.ok reply) ∧
        isBlankText reply.order = false ∧ id = ⟨reply.order⟩ := by
  simp only [order?, Option.map_eq_some_iff, bind_eq_ok, OrderId.ofText_eq_ok]
  constructor
  · rintro ⟨answer, told, reply, rfl, issued⟩
    exact ⟨reply, told, issued⟩
  · rintro ⟨reply, told, issued⟩
    exact ⟨.ok reply, told, reply, rfl, issued⟩

namespace Checkout

section OneTime

variable {c : Checkout} (once : c.intent.kind = .oneTime)
include once

theorem orderRequest_oneTime {r : Request} : c.orderRequest = .ok r ↔
    ∃ amount, c.intent.amount? = some amount ∧ r = .initiate ⟨c.intent.fund, amount.cents⟩ := by
  cases amount : c.intent.amount? <;> simp [orderRequest, once, amount, eq_comm]

theorem fetchRequest_oneTime {approval : Approval} {r : Request} :
    c.fetchRequest approval = .ok r ↔ r = .capture approval.order := by
  simp [fetchRequest, once, eq_comm]

theorem completion_oneTime {respond : Respondent} {before : List Call} {approval : Approval}
    {q : Request} {name : String} :
    c.completion? respond before approval = some (.ok (q, name)) ↔
      ∃ capture r, respond before (.capture approval.order) = some (.ok capture) ∧
        capture.result approval.order = .ok r ∧
        q = .completeOnce (c.onceForm r) ∧ name = r.payer.givenName := by
  simp only [completion?, once, Option.map_eq_some_iff, map_eq_ok, bind_eq_ok, Prod.mk.injEq]
  constructor
  · rintro ⟨answer, told, r, ⟨capture, rfl, result⟩, rfl, rfl⟩
    exact ⟨capture, r, told, result, rfl, rfl⟩
  · rintro ⟨capture, r, told, result, rfl, rfl⟩
    exact ⟨_, told, r, ⟨capture, rfl, result⟩, rfl, rfl⟩

end OneTime

section Recurring

variable {c : Checkout} (recurring : c.intent.kind = .recurring)
include recurring

theorem orderRequest_recurring {r : Request} : c.orderRequest = .ok r ↔
    ∃ plan, c.intent.providerPlan? = some plan ∧ r = .subscribe (.forPlan plan) := by
  cases plan : c.intent.providerPlan? <;> simp [orderRequest, recurring, plan, eq_comm]

theorem fetchRequest_recurring {approval : Approval} {r : Request} :
    c.fetchRequest approval = .ok r ↔
      ∃ providerPlan plan, c.intent.providerPlan? = some providerPlan ∧
        c.intent.plan? = some plan ∧ r = .snapshot approval := by
  cases providerPlan : c.intent.providerPlan? <;> cases plan : c.intent.plan? <;>
    simp [fetchRequest, recurring, providerPlan, plan, eq_comm]

theorem completion_recurring {respond : Respondent} {before : List Call} {approval : Approval}
    {q : Request} {name : String} :
    c.completion? respond before approval = some (.ok (q, name)) ↔
      ∃ providerPlan plan snapshot r, c.intent.providerPlan? = some providerPlan ∧
        c.intent.plan? = some plan ∧ respond before (.snapshot approval) = some (.ok snapshot) ∧
        snapshot.result = .ok r ∧
        q = .completePlan (c.planForm approval providerPlan plan r) ∧
        name = r.subscriber.givenName := by
  cases providerPlan : c.intent.providerPlan? with
  | none => simp [completion?, recurring, providerPlan]
  | some p =>
    cases plan : c.intent.plan? with
    | none => simp [completion?, recurring, providerPlan, plan]
    | some n =>
      simp only [completion?, recurring, providerPlan, plan, Option.map_eq_some_iff, map_eq_ok,
        bind_eq_ok, Prod.mk.injEq]
      constructor
      · rintro ⟨answer, told, r, ⟨snapshot, rfl, result⟩, rfl, rfl⟩
        exact ⟨p, n, snapshot, r, rfl, rfl, told, result, rfl, rfl⟩
      · rintro ⟨_, _, snapshot, r, hp, hn, told, result, rfl, rfl⟩
        cases hp
        cases hn
        exact ⟨_, told, r, ⟨snapshot, rfl, result⟩, rfl, rfl⟩

end Recurring

end Checkout

end DonationPage
