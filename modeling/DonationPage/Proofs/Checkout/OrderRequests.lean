import DonationPage.Proofs.Checkout.CallOrder
/-! How often a checkout asks for an order. The request leaves the checkout idle until its answer
comes, so one that is never answered can be made again: an order is asked for twice just when the
checkout is told to go on after such a request, and not to give up in between. -/
namespace DonationPage

namespace Checkout

variable {respond : Respondent} {before : List Call} {c : Checkout}

theorem count_orderRequest {r : Request} (asks : c.orderRequest = .ok r) :
    ([Call.request r].map Call.role).count .order = 1 := by
  simp [(role_orderRequest asks).1]

theorem Move.order_count {op : Operation} {step : Step Product}
    (move : Move respond before c op step) :
    (step.calls.map Call.role).count .order = 0 ∨
      op = .initiate ∧ c.stage = .idle ∧ (step.calls.map Call.role).count .order = 1 := by
  cases move with
  | unanswered idle asks never => exact .inr ⟨rfl, idle, count_orderRequest asks⟩
  | refused idle asks answered => exact .inr ⟨rfl, idle, count_orderRequest asks⟩
  | ordered idle asks answered => exact .inr ⟨rfl, idle, count_orderRequest asks⟩
  | approved accepted settled =>
    exact .inl (List.count_eq_zero.mpr (Stage.order_not_mem_trails settled.roles))
  | _ => exact .inl rfl

theorem Move.of_idle {op : Operation} {step : Step Product}
    (move : Move respond before c op step) (idle : step.checkout.stage = .idle) :
    c.stage = .idle ∧ op ≠ .abandon ∧ (op = .initiate → step.result? = none) := by
  cases move with
  | initiateLate late => exact absurd idle late
  | unanswered start asks never => exact ⟨start, by simp, fun _ => rfl⟩
  | approveEarly early => exact ⟨idle, by simp, by simp⟩
  | approveForeign created foreign => simp [created] at idle
  | approved accepted settled => exact absurd idle (settled.stage_ne rfl)
  | abandonLate ended =>
    simp only at idle
    simp [idle, Stage.isTerminal] at ended
  | _ => cases idle

theorem Move.of_unanswered {step : Step Product} (move : Move respond before c .initiate step)
    (unanswered : step.result? = none) :
    c.stage = .idle ∧ step.checkout = c ∧ ∃ r, c.orderRequest = .ok r := by
  cases move with
  | unanswered idle asks never => exact ⟨idle, rfl, _, asks⟩
  | _ => cases unanswered

theorem Move.initiate_count {step : Step Product} (move : Move respond before c .initiate step)
    (idle : c.stage = .idle) (asks : ∃ r, c.orderRequest = .ok r) :
    (step.calls.map Call.role).count .order = 1 := by
  obtain ⟨r, asks⟩ := asks
  cases move with
  | initiateLate late => exact absurd idle late
  | amountless start lacks => simp [lacks] at asks
  | unanswered start asks never => exact count_orderRequest asks
  | refused start asks answered => exact count_orderRequest asks
  | ordered start asks answered => exact count_orderRequest asks

theorem Move.approve_idle {approval : Approval} {step : Step Product}
    (move : Move respond before c (.approve approval) step) (idle : c.stage = .idle) :
    step.checkout = c := by
  cases move with
  | approveEarly early => rfl
  | approveForeign created foreign => rfl
  | approved accepted settled => cases idle.symm.trans accepted.1

end Checkout

namespace Session

variable (s : Session)

def orders (ops : List Operation) : Nat := ((s.calls ops).map Call.role).count .order

/-- After some operations, the answer to a request for an order stays away. -/
def Unanswered (ops : List Operation) : Prop := (s.next ops .initiate).result? = none

theorem orders_concat (ops : List Operation) (op : Operation) :
    s.orders (ops ++ [op]) =
      s.orders ops + ((s.next ops op).calls.map Call.role).count .order := by
  simp [orders]

theorem orders_le_append (ops more : List Operation) : s.orders ops ≤ s.orders (ops ++ more) := by
  induction more using List.reverseRecOn with
  | nil => simp
  | append_singleton more op ih =>
    rw [← List.append_assoc, orders_concat]
    omega

theorem exists_unanswered {ops : List Operation} (idle : (s.checkout ops).stage = .idle)
    (asked : 1 ≤ s.orders ops) :
    ∃ first between, ops = first ++ .initiate :: between ∧ .abandon ∉ between ∧
      s.Unanswered first := by
  induction ops using List.reverseRecOn with
  | nil => simp [orders] at asked
  | append_singleton ops op ih =>
    rw [checkout_concat] at idle
    have move := s.move_next ops op
    obtain ⟨wasIdle, notAbandon, unanswered⟩ := move.of_idle idle
    by_cases start : op = .initiate
    · subst start
      exact ⟨ops, [], rfl, by simp, unanswered rfl⟩
    · rw [orders_concat] at asked
      rcases move.order_count with none | ⟨initiate, _⟩
      · obtain ⟨first, between, rfl, kept, never⟩ := ih wasIdle (by omega)
        refine ⟨first, between ++ [op], by simp, ?_, never⟩
        simpa [Ne.symm notAbandon] using kept
      · exact absurd initiate start

theorem exists_twice {ops : List Operation} (twice : 2 ≤ s.orders ops) :
    ∃ first between rest, ops = first ++ .initiate :: (between ++ .initiate :: rest) ∧
      .abandon ∉ between ∧ s.Unanswered first := by
  induction ops using List.reverseRecOn with
  | nil => simp [orders] at twice
  | append_singleton ops op ih =>
    by_cases before : 2 ≤ s.orders ops
    · obtain ⟨first, between, rest, rfl, kept, never⟩ := ih before
      exact ⟨first, between, rest ++ [op], by simp, kept, never⟩
    · rw [orders_concat] at twice
      rcases (s.move_next ops op).order_count with none | ⟨rfl, idle, once⟩
      · omega
      · obtain ⟨first, between, rfl, kept, never⟩ := s.exists_unanswered idle (by omega)
        exact ⟨first, between, [], by simp, kept, never⟩

theorem orders_lt {ops more : List Operation} (idle : (s.checkout ops).stage = .idle)
    (asks : ∃ r, (s.checkout ops).orderRequest = .ok r) (going : .abandon ∉ more)
    (start : .initiate ∈ more) : s.orders ops < s.orders (ops ++ more) := by
  induction more generalizing ops with
  | nil => cases start
  | cons op rest ih =>
    have move := s.move_next ops op
    have split : ops ++ op :: rest = (ops ++ [op]) ++ rest := by simp
    rw [split]
    cases op with
    | initiate =>
      have once := move.initiate_count idle asks
      have later := s.orders_le_append (ops ++ [.initiate]) rest
      rw [orders_concat] at later
      omega
    | approve approval =>
      have same : s.checkout (ops ++ [.approve approval]) = s.checkout ops := by
        rw [checkout_concat, move.approve_idle idle]
      have more := ih (by rwa [same]) (by rwa [same]) (by simp_all) (by simp_all)
      have earlier := s.orders_le_append ops [.approve approval]
      omega
    | abandon => simp at going

/-- A checkout asks for more than one order exactly when, after a request for one that was never
answered, it is started again without having been abandoned. -/
theorem orders_le_one_iff (ops : List Operation) :
    s.orders ops ≤ 1 ↔
      ∀ first between rest, ops = first ++ .initiate :: (between ++ .initiate :: rest) →
        .abandon ∉ between → ¬ s.Unanswered first := by
  constructor
  · rintro once first between rest rfl going never
    have move := s.move_next first .initiate
    obtain ⟨idle, same, asks⟩ := move.of_unanswered never
    have asked := move.initiate_count idle asks
    rw [← checkout_concat] at same
    have again : s.orders (first ++ [.initiate]) <
        s.orders (first ++ [.initiate] ++ (between ++ [.initiate])) :=
      s.orders_lt (by rwa [same]) (by rwa [same]) (by simp [going]) (by simp)
    have later := s.orders_le_append (first ++ [.initiate] ++ (between ++ [.initiate])) rest
    rw [orders_concat, asked] at again
    simp only [List.append_assoc, List.cons_append, List.nil_append] at again later
    omega
  · intro answered
    by_contra twice
    obtain ⟨first, between, rest, split, going, never⟩ := s.exists_twice (Nat.lt_of_not_le twice)
    exact answered first between rest split going never

end Session

def Session.silent : Session :=
  ⟨⟨.oneTime, "F1", none, some ⟨2500⟩, none, none⟩, .ofOrigin "http://origin.test",
    fun _ _ => none⟩

theorem Session.silent_orders : ¬ Session.silent.orders [.initiate, .initiate] ≤ 1 := by
  decide

end DonationPage
