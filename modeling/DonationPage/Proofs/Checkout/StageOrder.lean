import DonationPage.Proofs.Checkout.CallOrder
import Mathlib.Logic.Relation
/-! The stages that a checkout goes through, and the order that it keeps on its way. The order is set
once, when the checkout leaves its first stage, so that no approval is ever compared with an order
that is missing. -/
namespace DonationPage

inductive Stage.Next : Operation → Stage → Stage → Prop
  | ordered : Next .initiate .idle .orderCreated
  | notOrdered : Next .initiate .idle .failed
  | approved {approval : Approval} : Next (.approve approval) .orderCreated .capturing
  | fetched {approval : Approval} : Next (.approve approval) .capturing .completing
  | notFetched {approval : Approval} : Next (.approve approval) .capturing .failed
  | confirmed {approval : Approval} : Next (.approve approval) .completing .succeeded
  | notConfirmed {approval : Approval} : Next (.approve approval) .completing .failed
  | abandoned {stage : Stage} (going : stage.isTerminal = false) : Next .abandon stage .abandoned

abbrev Stage.Path (op : Operation) : Stage → Stage → Prop := Relation.ReflTransGen (Next op)

def Step.order? (step : Step Product) : Option OrderId :=
  match step.result? with
  | some (.ok (.order id)) => some id
  | _ => none

namespace Checkout

variable {respond : Respondent} {before : List Call} {c : Checkout}

/-- The order is missing at the start, and kept from its creation to the end of the donation. -/
def OrderFits (c : Checkout) : Prop :=
  (c.stage = .idle → c.order? = none) ∧
    (c.stage ∈ [.orderCreated, .capturing, .completing, .succeeded] → c.order?.isSome = true)

theorem Conclusion.path {q : Request} {name : String} {step : Step Outcome}
    (concluded : Conclusion respond before c q name step) (approval : Approval) :
    Stage.Path (.approve approval) .completing step.checkout.stage ∧
      step.checkout.order? = c.order? := by
  cases concluded with
  | unanswered never => exact ⟨.refl, rfl⟩
  | confirmed replied success => exact ⟨.single .confirmed, rfl⟩
  | unreported replied unconfirmed never => exact ⟨.refl, rfl⟩
  | reportFailed replied unconfirmed told => exact ⟨.single .notConfirmed, rfl⟩
  | reported replied unconfirmed told => exact ⟨.single .notConfirmed, rfl⟩

theorem Settlement.path {approval : Approval} {step : Step Outcome}
    (settled : Settlement respond before c approval step) :
    Stage.Path (.approve approval) .orderCreated step.checkout.stage ∧
      step.checkout.order? = c.order? := by
  cases settled with
  | planless lacks => exact ⟨.tail (.single .approved) .notFetched, rfl⟩
  | unanswered asks never => exact ⟨.single .approved, rfl⟩
  | refused asks answered => exact ⟨.tail (.single .approved) .notFetched, rfl⟩
  | fetched asks answered concluded =>
    obtain ⟨path, same⟩ := concluded.path approval
    exact ⟨.trans (.tail (.single .approved) .fetched) path, same⟩

theorem Move.path {op : Operation} {step : Step Product} (move : Move respond before c op step) :
    Stage.Path op c.stage step.checkout.stage := by
  cases move with
  | amountless idle lacks => exact idle ▸ .single .notOrdered
  | refused idle asks answered => exact idle ▸ .single .notOrdered
  | ordered idle asks answered => exact idle ▸ .single .ordered
  | approved accepted settled => exact accepted.1 ▸ settled.path.1
  | abandoned going => exact .single (.abandoned going)
  | _ => exact .refl

theorem Move.order {op : Operation} {step : Step Product} (move : Move respond before c op step) :
    step.order? = none ∧ step.checkout.order? = c.order? ∨
      ∃ r id, op = .initiate ∧ c.stage = .idle ∧ c.orderRequest = .ok r ∧
        respond.order? before r = some (.ok id) ∧ step.calls = [.request r] ∧
        step.order? = some id ∧ step.checkout.order? = some id := by
  cases move with
  | @ordered r id idle asks answered =>
    exact .inr ⟨r, id, rfl, idle, asks, answered, rfl, rfl, rfl⟩
  | @approved approval s accepted settled =>
    refine .inl ⟨?_, settled.path.2⟩
    rcases s with ⟨_, _, _ | _ | _⟩ <;> rfl
  | _ => exact .inl ⟨rfl, rfl⟩

theorem Move.orderFits {op : Operation} {step : Step Product} (fits : OrderFits c)
    (move : Move respond before c op step) : OrderFits step.checkout := by
  cases move with
  | initiateLate late => exact fits
  | unanswered idle asks never => exact fits
  | ordered idle asks answered => simp [OrderFits]
  | approveEarly early => exact fits
  | approveForeign created foreign => exact fits
  | approved accepted settled =>
    have kept : c.order?.isSome = true := fits.2 (by simp [accepted.1])
    refine ⟨fun idle => absurd idle (settled.stage_ne rfl), fun _ => ?_⟩
    rwa [Step.map_checkout, settled.path.2]
  | abandonLate ended => exact fits
  | _ => simp [OrderFits]

theorem Move.underway {op : Operation} {step : Step Product}
    (move : Move respond before c op step)
    (underway : step.checkout.stage ∈ [.capturing, .completing]) :
    c.stage ∈ [.capturing, .completing] ∨
      ∃ approval, op = .approve approval ∧ step.result? = none := by
  cases move with
  | initiateLate late => exact .inl underway
  | unanswered idle asks never => exact .inl underway
  | approveEarly early => exact .inl underway
  | approveForeign created foreign => exact .inl underway
  | @approved approval s accepted settled =>
    refine .inr ⟨approval, rfl, Step.map_result_eq_none .. |>.mpr ?_⟩
    cases settled with
    | unanswered asks never => rfl
    | fetched asks answered concluded =>
      cases concluded with
      | unanswered never => rfl
      | unreported replied unconfirmed never => rfl
      | _ => simp at underway
    | _ => simp at underway
  | abandonLate ended => exact .inl underway
  | _ => simp at underway

theorem Move.ended {op : Operation} {step : Step Product} (move : Move respond before c op step)
    (ended : c.stage.isTerminal = true) : step.checkout = c ∧ step.calls = [] := by
  cases move with
  | initiateLate late => exact ⟨rfl, rfl⟩
  | approveEarly early => exact ⟨rfl, rfl⟩
  | approveForeign created foreign => exact ⟨rfl, rfl⟩
  | approved accepted settled => simp [accepted.1, Stage.isTerminal] at ended
  | abandonLate ended => exact ⟨rfl, rfl⟩
  | _ => simp_all [Stage.isTerminal]

end Checkout

namespace Session

open Checkout

variable (s : Session)

theorem orderFits (ops : List Operation) : OrderFits (s.checkout ops) := by
  refine s.invariant (motive := fun c _ => OrderFits c) ⟨fun _ => rfl, ?_⟩ ?_ ops
  · simp [Checkout.new]
  · intro c before op step fits move
    exact move.orderFits fits

theorem order_concat {ops : List Operation} {id : OrderId}
    (kept : (s.checkout ops).order? = some id) (op : Operation) :
    (s.checkout (ops ++ [op])).order? = some id := by
  rw [checkout_concat]
  rcases (s.move_next ops op).order with ⟨_, same⟩ | ⟨r, fresh, _, idle, _⟩
  · exact same.trans kept
  · cases kept.symm.trans ((s.orderFits ops).1 idle)

theorem order_append {ops : List Operation} {id : OrderId}
    (kept : (s.checkout ops).order? = some id) (more : List Operation) :
    (s.checkout (ops ++ more)).order? = some id := by
  induction more using List.reverseRecOn with
  | nil => simpa using kept
  | append_singleton more op ih =>
    rw [← List.append_assoc]
    exact s.order_concat ih op

theorem returned_orders (ops : List Operation) :
    (s.steps ops).filterMap Step.order? = (s.checkout ops).order?.toList := by
  induction ops using List.reverseRecOn with
  | nil => rfl
  | append_singleton ops op ih =>
    rw [steps_concat, checkout_concat, List.filterMap_append, ih]
    rcases (s.move_next ops op).order with ⟨none, same⟩ | ⟨r, id, _, idle, _, _, _, some, kept⟩
    · simp [none, same]
    · simp [some, kept, (s.orderFits ops).1 idle]

/-- The next start makes one request, and an answer to it gives the order. The origin's answer to a
one-time donation holds its id, which is not blank. -/
def Issues (ops : List Operation) (id : OrderId) : Prop :=
  (s.intent.kind = .oneTime ∧ ∃ form reply,
    (s.next ops .initiate).calls = [.request (.initiate form)] ∧
      s.respond (s.calls ops) (.initiate form) = some (.ok reply) ∧
      id.text = reply.order ∧ isBlankText id.text = false) ∨
  (s.intent.kind = .recurring ∧ ∃ request,
    (s.next ops .initiate).calls = [.request (.subscribe request)] ∧
      s.respond (s.calls ops) (.subscribe request) = some (.ok id))

theorem issues_of_returned {ops : List Operation} {op : Operation} {id : OrderId}
    (returned : (s.next ops op).order? = some id) : op = .initiate ∧ s.Issues ops id := by
  rcases (s.move_next ops op).order with ⟨none, _⟩ | ⟨r, _, rfl, _, asks, issued, calls, some, _⟩
  · cases none.symm.trans returned
  cases some.symm.trans returned
  refine ⟨rfl, ?_⟩
  have intent := (s.same ops).1
  cases kind : s.intent.kind with
  | oneTime =>
    obtain ⟨_, _, rfl⟩ := (orderRequest_oneTime (by rw [intent, kind])).mp asks
    obtain ⟨reply, told, visible, rfl⟩ := Respondent.order_initiate.mp issued
    exact .inl ⟨kind, _, reply, calls, told, rfl, visible⟩
  | recurring =>
    obtain ⟨_, _, rfl⟩ := (orderRequest_recurring (by rw [intent, kind])).mp asks
    exact .inr ⟨kind, _, calls, issued⟩

theorem exists_dropped {ops : List Operation}
    (underway : (s.checkout ops).stage ∈ [.capturing, .completing]) :
    ∃ first approval rest, ops = first ++ .approve approval :: rest ∧
      (s.next first (.approve approval)).result? = none := by
  induction ops using List.reverseRecOn with
  | nil => simp [Checkout.new] at underway
  | append_singleton ops op ih =>
    rw [checkout_concat] at underway
    rcases (s.move_next ops op).underway underway with earlier | ⟨approval, rfl, dropped⟩
    · obtain ⟨first, approval, rest, rfl, dropped⟩ := ih earlier
      exact ⟨first, approval, rest ++ [op], by simp, dropped⟩
    · exact ⟨ops, approval, [], rfl, dropped⟩

/-- What holds of the stage and the order of a checkout after any operations. There is no order at
the start, and there is one from its creation to the end of a donation; it never changes, and is the
only one that a start returned, as the answer to its request gave it. Operations lead from stage to
stage as they should; only an approval without answer leaves a checkout under way; and nothing
happens to one that has come to an end. -/
theorem stages_and_order (ops : List Operation) :
    ((s.checkout ops).stage = .idle → (s.checkout ops).order? = none) ∧
    ((s.checkout ops).stage ∈ [.orderCreated, .capturing, .completing, .succeeded] →
      (s.checkout ops).order?.isSome = true) ∧
    (∀ id more, (s.checkout ops).order? = some id →
      (s.checkout (ops ++ more)).order? = some id) ∧
    (s.steps ops).filterMap Step.order? = (s.checkout ops).order?.toList ∧
    (∀ op id, (s.next ops op).order? = some id → op = .initiate ∧ s.Issues ops id) ∧
    (∀ op, Stage.Path op (s.checkout ops).stage (s.next ops op).checkout.stage) ∧
    ((s.checkout ops).stage ∈ [.capturing, .completing] →
      ∃ first approval rest, ops = first ++ .approve approval :: rest ∧
        (s.next first (.approve approval)).result? = none) ∧
    ((s.checkout ops).stage.isTerminal = true → ∀ op,
      (s.next ops op).checkout = s.checkout ops ∧ (s.next ops op).calls = []) :=
  ⟨(s.orderFits ops).1, (s.orderFits ops).2, fun _ more kept => s.order_append kept more,
    s.returned_orders ops, fun _ _ returned => s.issues_of_returned returned,
    fun op => (s.move_next ops op).path, fun underway => s.exists_dropped underway,
    fun ended op => (s.move_next ops op).ended ended⟩

end Session

end DonationPage
