import DonationPage.Proofs.Checkout.Runs
import Mathlib.Data.List.Nodup
/-! The order of the calls that a checkout makes. A stage tells which calls were made since the order
was created; the calls that money depends on are therefore made once at most, whatever the order of
operations and whichever answers never come. -/
namespace DonationPage

inductive Role where
  | order
  | fetch
  | completion
  | report
  | navigation
  | rendering
deriving DecidableEq

namespace Call

def role : Call → Role
  | .request (.initiate _) | .request (.subscribe _) => .order
  | .request (.capture _) | .request (.snapshot _) => .fetch
  | .request (.completeOnce _) | .request (.completePlan _) => .completion
  | .request (.reportError _) => .report
  | .page (.navigate _) => .navigation
  | .page (.render ..) => .rendering

@[simp] theorem role_reportError (text : String) :
    (Call.request (.reportError text)).role = .report := rfl

@[simp] theorem role_navigate (target : String) :
    (Call.page (.navigate target)).role = .navigation := rfl

@[simp] theorem role_render (target html : String) :
    (Call.page (.render target html)).role = .rendering := rfl

def kind? : Call → Option DonationKind
  | .request (.initiate _) | .request (.capture _) | .request (.completeOnce _) => some .oneTime
  | .request (.subscribe _) | .request (.snapshot _) | .request (.completePlan _) =>
    some .recurring
  | .request (.reportError _) | .page _ => none

@[simp] theorem kind_reportError (text : String) :
    (Call.request (.reportError text)).kind? = none := rfl

@[simp] theorem kind_page (command : PageCommand) : (Call.page command).kind? = none := rfl

end Call

/-- The parts of the calls that a checkout at a stage has made since it asked for its order. -/
def Stage.trails : Stage → List (List Role)
  | idle | orderCreated => [[]]
  | capturing => [[.fetch]]
  | completing => [[.fetch, .completion], [.fetch, .completion, .report]]
  | succeeded => [[.fetch, .completion, .navigation]]
  | failed => [[], [.fetch], [.fetch, .completion, .report],
      [.fetch, .completion, .report, .rendering]]
  | abandoned => [[], [.fetch], [.fetch, .completion], [.fetch, .completion, .report]]

/-- No operation makes a call at these stages, nor leaves them. -/
def Stage.isQuiet : Stage → Bool
  | idle | orderCreated => false
  | _ => true

theorem Stage.prefix_of_mem_trails {stage : Stage} {trail : List Role}
    (member : trail ∈ stage.trails) :
    trail <+: [.fetch, .completion, .navigation] ∨
      trail <+: [.fetch, .completion, .report, .rendering] := by
  revert trail
  cases stage <;> decide

theorem Stage.nodup_of_mem_trails {stage : Stage} {trail : List Role}
    (member : trail ∈ stage.trails) : trail.Nodup := by
  revert trail
  cases stage <;> decide

theorem Stage.order_not_mem_trails {stage : Stage} {trail : List Role}
    (member : trail ∈ stage.trails) : .order ∉ trail := by
  revert trail
  cases stage <;> decide

theorem Stage.navigation_or_report {stage : Stage} {trail : List Role}
    (member : trail ∈ stage.trails) : ¬ (.navigation ∈ trail ∧ .report ∈ trail) := by
  revert trail
  cases stage <;> decide

namespace Checkout

variable {respond : Respondent} {before : List Call} {c : Checkout}

theorem role_orderRequest {r : Request} (asks : c.orderRequest = .ok r) :
    (Call.request r).role = .order ∧ (Call.request r).kind? = some c.intent.kind := by
  cases kind : c.intent.kind with
  | oneTime =>
    obtain ⟨_, _, rfl⟩ := (orderRequest_oneTime kind).mp asks
    exact ⟨rfl, rfl⟩
  | recurring =>
    obtain ⟨_, _, rfl⟩ := (orderRequest_recurring kind).mp asks
    exact ⟨rfl, rfl⟩

theorem role_fetchRequest {approval : Approval} {r : Request}
    (asks : c.fetchRequest approval = .ok r) :
    (Call.request r).role = .fetch ∧ (Call.request r).kind? = some c.intent.kind := by
  cases kind : c.intent.kind with
  | oneTime =>
    obtain rfl := (fetchRequest_oneTime kind).mp asks
    exact ⟨rfl, rfl⟩
  | recurring =>
    obtain ⟨_, _, _, _, rfl⟩ := (fetchRequest_recurring kind).mp asks
    exact ⟨rfl, rfl⟩

theorem role_completion {approval : Approval} {q : Request} {name : String}
    (answered : c.completion? respond before approval = some (.ok (q, name))) :
    (Call.request q).role = .completion ∧ (Call.request q).kind? = some c.intent.kind := by
  cases kind : c.intent.kind with
  | oneTime =>
    obtain ⟨_, _, _, _, rfl, _⟩ := (completion_oneTime kind).mp answered
    exact ⟨rfl, rfl⟩
  | recurring =>
    obtain ⟨_, _, _, _, _, _, _, _, rfl, _⟩ := (completion_recurring kind).mp answered
    exact ⟨rfl, rfl⟩

/-- What was called since the order was asked for is what the stage tells. -/
def InOrder (c : Checkout) (calls : List Call) : Prop :=
  ∃ orders, ∃ trail ∈ c.stage.trails,
    calls.map Call.role = List.replicate orders .order ++ trail

theorem Conclusion.roles {q : Request} {name : String} {step : Step Outcome}
    (concluded : Conclusion respond before c q name step)
    (role : (Call.request q).role = .completion) :
    .fetch :: step.calls.map Call.role ∈ step.checkout.stage.trails := by
  cases concluded <;> simp [role, Stage.trails]

theorem Settlement.roles {approval : Approval} {step : Step Outcome}
    (settled : Settlement respond before c approval step) :
    step.calls.map Call.role ∈ step.checkout.stage.trails := by
  cases settled with
  | planless lacks => simp [Stage.trails]
  | unanswered asks never => simp [(role_fetchRequest asks).1, Stage.trails]
  | refused asks answered => simp [(role_fetchRequest asks).1, Stage.trails]
  | fetched asks answered concluded =>
    simpa [(role_fetchRequest asks).1] using concluded.roles (role_completion answered).1

private theorem InOrder.ask {r : Request} {left : Checkout} (ordered : InOrder c before)
    (idle : c.stage = .idle) (asks : c.orderRequest = .ok r) (fresh : [] ∈ left.stage.trails) :
    InOrder left (before ++ [.request r]) := by
  obtain ⟨orders, trail, member, roles⟩ := ordered
  simp only [idle, Stage.trails, List.mem_singleton] at member
  subst member
  refine ⟨orders + 1, [], fresh, ?_⟩
  simp [roles, (role_orderRequest asks).1, List.replicate_succ']

private theorem InOrder.stop {left : Checkout} (ordered : InOrder c before)
    (kept : ∀ trail ∈ c.stage.trails, trail ∈ left.stage.trails) :
    InOrder left (before ++ []) := by
  obtain ⟨orders, trail, member, roles⟩ := ordered
  exact ⟨orders, trail, kept trail member, by simpa using roles⟩

theorem Move.inOrder {op : Operation} {step : Step Product} (ordered : InOrder c before)
    (move : Move respond before c op step) :
    InOrder step.checkout (before ++ step.calls) := by
  cases move with
  | initiateLate late => exact ordered.stop fun _ member => member
  | amountless idle lacks => exact ordered.stop (by simp [idle, Stage.trails])
  | unanswered idle asks never => exact ordered.ask idle asks (by simp [idle, Stage.trails])
  | refused idle asks answered => exact ordered.ask idle asks (by simp [Stage.trails])
  | ordered idle asks answered => exact ordered.ask idle asks (by simp [Stage.trails])
  | approveEarly early => exact ordered.stop fun _ member => member
  | approveForeign created foreign => exact ordered.stop fun _ member => member
  | approved accepted settled =>
    obtain ⟨orders, trail, member, roles⟩ := ordered
    simp only [accepted.1, Stage.trails, List.mem_singleton] at member
    subst member
    exact ⟨orders, _, settled.roles, by simp [roles]⟩
  | abandonLate ended => exact ordered.stop fun _ member => member
  | abandoned going =>
    refine ordered.stop ?_
    cases stage : c.stage <;> simp_all [Stage.trails, Stage.isTerminal]

theorem Conclusion.kinds {q : Request} {name : String} {step : Step Outcome} {kind : DonationKind}
    (concluded : Conclusion respond before c q name step)
    (known : (Call.request q).kind? = some kind) :
    ∀ call ∈ step.calls, ∀ k ∈ call.kind?, k = kind := by
  cases concluded <;> simp [known]

theorem Move.kinds {op : Operation} {step : Step Product} (move : Move respond before c op step) :
    ∀ call ∈ step.calls, ∀ k ∈ call.kind?, k = c.intent.kind := by
  cases move with
  | unanswered idle asks never => simp [(role_orderRequest asks).2]
  | refused idle asks answered => simp [(role_orderRequest asks).2]
  | ordered idle asks answered => simp [(role_orderRequest asks).2]
  | approved accepted settled =>
    cases settled with
    | planless lacks => simp
    | unanswered asks never => simp [(role_fetchRequest asks).2]
    | refused asks answered => simp [(role_fetchRequest asks).2]
    | fetched asks answered concluded =>
      simpa [(role_fetchRequest asks).2] using concluded.kinds (role_completion answered).2
  | _ => simp

theorem Move.quiet {op : Operation} {step : Step Product} (move : Move respond before c op step)
    (quiet : c.stage.isQuiet = true) :
    step.calls = [] ∧ step.checkout.stage.isQuiet = true := by
  cases move with
  | initiateLate late => exact ⟨rfl, quiet⟩
  | approveEarly early => exact ⟨rfl, quiet⟩
  | abandonLate ended => exact ⟨rfl, quiet⟩
  | abandoned going => exact ⟨rfl, rfl⟩
  | approved accepted settled => simp [accepted.1, Stage.isQuiet] at quiet
  | _ => simp_all [Stage.isQuiet]

theorem Settlement.quiet {approval : Approval} {step : Step Outcome}
    (settled : Settlement respond before c approval step) :
    step.checkout.stage.isQuiet = true := by
  cases settled with
  | fetched asks answered concluded => cases concluded <;> rfl
  | _ => rfl

theorem Settlement.stage_ne {approval : Approval} {step : Step Outcome} {stage : Stage}
    (settled : Settlement respond before c approval step) (active : stage.isQuiet = false) :
    step.checkout.stage ≠ stage := by
  rintro rfl
  cases active.symm.trans settled.quiet

theorem Move.quiet_of_dropped {approval : Approval} {step : Step Product}
    (move : Move respond before c (.approve approval) step) (dropped : step.result? = none) :
    step.checkout.stage.isQuiet = true := by
  cases move with
  | approveEarly early => cases dropped
  | approveForeign created foreign => cases dropped
  | approved accepted settled => exact settled.quiet

end Checkout

namespace Session

open Checkout (InOrder)

variable (s : Session)

theorem inOrder (ops : List Operation) : InOrder (s.checkout ops) (s.calls ops) := by
  refine s.invariant ⟨0, [], by simp [Checkout.new, Stage.trails], rfl⟩ ?_ ops
  intro c before op step ordered move
  exact move.inOrder ordered

theorem kinds (ops : List Operation) :
    ∀ call ∈ s.calls ops, ∀ kind ∈ call.kind?, kind = s.intent.kind := by
  induction ops using List.reverseRecOn with
  | nil => simp
  | append_singleton ops op ih =>
    intro call member kind known
    rw [calls_concat, List.mem_append] at member
    rcases member with earlier | now
    · exact ih call earlier kind known
    · rw [← (s.same ops).1]
      exact (s.move_next ops op).kinds call now kind known

theorem calls_of_quiet {ops : List Operation} (quiet : (s.checkout ops).stage.isQuiet = true)
    (more : List Operation) :
    s.calls (ops ++ more) = s.calls ops ∧ (s.checkout (ops ++ more)).stage.isQuiet = true := by
  induction more using List.reverseRecOn with
  | nil => simpa using quiet
  | append_singleton more op ih =>
    have next := (s.move_next (ops ++ more) op).quiet ih.2
    rw [← List.append_assoc, calls_concat, checkout_concat, next.1, List.append_nil]
    exact ⟨ih.1, next.2⟩

/-- In every run of a checkout, the calls are requests for an order, and then the approval's
request, the completion, and either the way on or a report and what it shows, as far as the run
gets. All are of the intent's kind; none but a request for an order is made twice; the donor is not
sent on if an error is reported; and once an answer to an approval stays away, no call follows. -/
theorem calls_in_order (ops : List Operation) :
    (∃ orders trail, (s.calls ops).map Call.role = List.replicate orders .order ++ trail ∧
      (trail <+: [.fetch, .completion, .navigation] ∨
        trail <+: [.fetch, .completion, .report, .rendering])) ∧
    (∀ call ∈ s.calls ops, ∀ kind ∈ call.kind?, kind = s.intent.kind) ∧
    (∀ role, role ≠ .order → ((s.calls ops).map Call.role).count role ≤ 1) ∧
    ¬ (.navigation ∈ (s.calls ops).map Call.role ∧ .report ∈ (s.calls ops).map Call.role) ∧
    (∀ approval more, (s.next ops (.approve approval)).result? = none →
      s.calls (ops ++ .approve approval :: more) = s.calls (ops ++ [.approve approval])) := by
  obtain ⟨orders, trail, member, roles⟩ := s.inOrder ops
  refine ⟨⟨orders, trail, roles, Stage.prefix_of_mem_trails member⟩, s.kinds ops, ?_, ?_, ?_⟩
  · intro role other
    have fresh : (List.replicate orders Role.order).count role = 0 := by
      simp [List.count_replicate, Ne.symm other]
    rw [roles, List.count_append, fresh, Nat.zero_add]
    exact List.nodup_iff_count_le_one.mp (Stage.nodup_of_mem_trails member) role
  · simpa [roles, List.mem_replicate] using Stage.navigation_or_report member
  · intro approval more dropped
    have quiet : (s.checkout (ops ++ [.approve approval])).stage.isQuiet = true := by
      rw [checkout_concat]
      exact (s.move_next ops _).quiet_of_dropped dropped
    simpa using (s.calls_of_quiet quiet more).1

end Session

end DonationPage
