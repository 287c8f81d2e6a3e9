import DonationPage.Proofs.Checkout.CallOrder
/-! What a completion tells the origin. Each field of its form is traced to where it comes from: the
intent, the order that was created, the approval, and the provider's account of the payment. -/
namespace DonationPage

/-- A form tells of a captured order: of its first purchase unit, its payer, and the intent. -/
structure CompleteOnceForm.TellsOf (form : CompleteOnceForm) (intent : Intent)
    (capture : OrderCapture) : Prop where
  unit : ∃ unit rest, capture.units = unit :: rest ∧ form.amount = unit.amount.value ∧
    form.payment = match unit.payments? with
      | some ⟨first :: _⟩ => first.id
      | _ => capture.id
  payerEmail : form.payerEmail = capture.payer.email
  payerId : form.payerId = capture.payer.id
  firstName : form.firstName = capture.payer.name.given
  lastName : form.lastName = capture.payer.name.surname
  fund : form.fund = intent.fund
  bcoName : form.bcoName? = intent.bcoName?

/-- A form tells of a subscription: of its approval, its last payment, its subscriber, and the
intent. -/
structure CompletePlanForm.TellsOf (form : CompletePlanForm) (intent : Intent)
    (approval : Approval) (snapshot : SubscriptionSnapshot) : Prop where
  order : form.order = approval.order.text
  providerPlan : intent.providerPlan? = some form.providerPlan
  plan : intent.plan? = some form.plan
  providerDonation : form.providerDonation = snapshot.id
  subscription : form.subscription = snapshot.id
  amount : ∃ payment, snapshot.billing.lastPayment? = some payment ∧
    form.amount = payment.amount.value
  email : form.email = snapshot.subscriber.email
  payerId : form.payerId = snapshot.subscriber.id
  firstName : form.firstName = snapshot.subscriber.name.given
  lastName : form.lastName = snapshot.subscriber.name.surname
  fund : form.fund = intent.fund
  bcoName : form.bcoName? = intent.bcoName?

namespace Checkout

variable {respond : Respondent} {before : List Call} {c : Checkout}

theorem onceForm_tellsOf {order : OrderId} {capture : OrderCapture} {r : CaptureResult}
    (result : capture.result order = .ok r) : (c.onceForm r).TellsOf c.intent capture := by
  unfold OrderCapture.result at result
  split at result
  · cases result
  · rename_i unit rest units
    cases result
    refine ⟨⟨unit, rest, units, rfl, ?_⟩, rfl, rfl, rfl, rfl, rfl, rfl⟩
    rcases unit with ⟨amount, _ | ⟨_ | ⟨first, others⟩⟩⟩ <;> rfl

theorem order_of_result {order : OrderId} {capture : OrderCapture} {r : CaptureResult}
    (result : capture.result order = .ok r) : r.order = order := by
  unfold OrderCapture.result at result
  split at result <;> cases result
  rfl

theorem planForm_tellsOf {approval : Approval} {providerPlan plan : String}
    {snapshot : SubscriptionSnapshot} {r : SubscriptionResult}
    (hasProviderPlan : c.intent.providerPlan? = some providerPlan)
    (hasPlan : c.intent.plan? = some plan) (result : snapshot.result = .ok r) :
    (c.planForm approval providerPlan plan r).TellsOf c.intent approval snapshot := by
  unfold SubscriptionSnapshot.result at result
  split at result
  · cases result
  · rename_i payment paid
    cases result
    exact ⟨rfl, hasProviderPlan, hasPlan, rfl, rfl, ⟨payment, paid, rfl⟩, rfl, rfl, rfl, rfl, rfl,
      rfl⟩

/-- While a checkout waits for its approval, its last call is the request that created its order. -/
def OrderKnown (respond : Respondent) (c : Checkout) (before : List Call) : Prop :=
  c.stage = .orderCreated → ∃ earlier r id, before = earlier ++ [.request r] ∧
    c.orderRequest = .ok r ∧ respond.order? earlier r = some (.ok id) ∧ c.order? = some id

theorem Move.orderKnown {op : Operation} {step : Step Product}
    (known : OrderKnown respond c before) (move : Move respond before c op step) :
    OrderKnown respond step.checkout (before ++ step.calls) := by
  intro created
  cases move with
  | initiateLate late => simpa using known created
  | ordered idle asks answered => exact ⟨before, _, _, rfl, asks, answered, rfl⟩
  | approveForeign _ foreign => simpa using known created
  | approved accepted settled => exact absurd created (settled.stage_ne rfl)
  | abandonLate ended => simpa using known created
  | unanswered idle asks never => cases idle.symm.trans created
  | approveEarly early => exact absurd created early
  | _ => cases created

theorem Conclusion.first {q : Request} {name : String} {step : Step Outcome}
    (concluded : Conclusion respond before c q name step) :
    (∃ rest, step.calls = .request q :: rest ∧ ∀ call ∈ rest, call.role ≠ .completion) ∧
      step.checkout.order? = c.order? := by
  cases concluded <;> simp

private theorem order_ne_completion {r q : Request} (asks : c.orderRequest = .ok r)
    (made : .request q ∈ [Call.request r]) : (Call.request q).role ≠ .completion := by
  rw [List.mem_singleton.mp made, (role_orderRequest asks).1]
  simp

theorem Settlement.concluded {approval : Approval} {step : Step Outcome} {q : Request}
    (settled : Settlement respond before c approval step) (made : .request q ∈ step.calls)
    (role : (Call.request q).role = .completion) :
    ∃ r name s, c.fetchRequest approval = .ok r ∧
      c.completion? respond before approval = some (.ok (q, name)) ∧
      Conclusion respond (before ++ [.request r]) c q name s ∧ step = s.after (.request r) := by
  have fetch {r : Request} (asks : c.fetchRequest approval = .ok r) : q ≠ r := by
    rintro rfl
    simp [(role_fetchRequest asks).1] at role
  cases settled with
  | planless lacks => cases made
  | unanswered asks never => simp [fetch asks] at made
  | refused asks answered => simp [fetch asks] at made
  | @fetched r q' name s asks answered concluded =>
    obtain ⟨⟨rest, calls, others⟩, -⟩ := concluded.first
    have first : q = q' := by
      simp only [Step.after_calls, calls, List.mem_cons, Call.request.injEq] at made
      rcases made with fetched | first | later
      · exact absurd fetched (fetch asks)
      · exact first
      · exact absurd role (others _ later)
    subst first
    exact ⟨r, name, s, asks, answered, concluded, rfl⟩

theorem Move.concluded {op : Operation} {step : Step Product} {q : Request}
    (move : Move respond before c op step) (made : .request q ∈ step.calls)
    (role : (Call.request q).role = .completion) :
    ∃ approval r name s, op = .approve approval ∧ c.Accepts approval ∧
      c.fetchRequest approval = .ok r ∧
      c.completion? respond before approval = some (.ok (q, name)) ∧
      Conclusion respond (before ++ [.request r]) c q name s ∧
      step = (s.after (.request r)).map .outcome := by
  cases move with
  | unanswered idle asks never => exact absurd role (order_ne_completion asks made)
  | refused idle asks answered => exact absurd role (order_ne_completion asks made)
  | ordered idle asks answered => exact absurd role (order_ne_completion asks made)
  | approved accepted settled =>
    obtain ⟨r, name, s, asks, answered, concluded, rfl⟩ := settled.concluded made role
    exact ⟨_, r, name, s, rfl, accepted, asks, answered, concluded, rfl⟩
  | _ => cases made

theorem Move.completion {op : Operation} {step : Step Product} {q : Request}
    (move : Move respond before c op step) (made : .request q ∈ step.calls)
    (role : (Call.request q).role = .completion) :
    ∃ approval r name, op = .approve approval ∧ c.Accepts approval ∧
      c.fetchRequest approval = .ok r ∧
      c.completion? respond before approval = some (.ok (q, name)) ∧
      [.request r, .request q] <+: step.calls ∧ step.checkout.order? = c.order? := by
  obtain ⟨approval, r, name, s, approve, accepted, asks, answered, concluded, rfl⟩ :=
    move.concluded made role
  obtain ⟨⟨rest, calls, -⟩, same⟩ := concluded.first
  exact ⟨approval, r, name, approve, accepted, asks, answered, by simp [calls], same⟩

end Checkout

namespace Session

open Checkout

variable (s : Session)

theorem orderKnown (ops : List Operation) :
    OrderKnown s.respond (s.checkout ops) (s.calls ops) := by
  refine s.invariant ?_ ?_ ops
  · intro created
    cases created
  · intro c before op step known move
    exact move.orderKnown known

theorem completion_history {ops : List Operation} {op : Operation} {q : Request}
    (made : .request q ∈ (s.next ops op).calls) (role : (Call.request q).role = .completion) :
    ∃ approval earlier asked id fetch name, op = .approve approval ∧
      s.calls ops = earlier ++ [.request asked] ∧ (s.checkout ops).orderRequest = .ok asked ∧
      s.respond.order? earlier asked = some (.ok id) ∧ (s.checkout ops).order? = some id ∧
      (s.next ops op).checkout.order? = some id ∧
      (s.checkout ops).approvedId? approval = some id.text ∧
      (s.checkout ops).fetchRequest approval = .ok fetch ∧
      [.request fetch, .request q] <+: (s.next ops op).calls ∧
      (s.checkout ops).completion? s.respond (s.calls ops) approval = some (.ok (q, name)) := by
  obtain ⟨approval, fetch, name, approve, ⟨created, named⟩, asks, answered, calls, same⟩ :=
    (s.move_next ops op).completion made role
  obtain ⟨earlier, asked, id, history, orders, issued, kept⟩ := s.orderKnown ops created
  have approved : (s.checkout ops).approvedId? approval = some id.text := by
    simpa [kept] using named.symm
  exact ⟨approval, earlier, asked, id, fetch, name, approve, history, orders, issued, kept,
    same.trans kept, approved, asks, calls, answered⟩

/-- Whenever a completion is called for, its form is consistent with all that went before. For a
one-time donation it names the order that is kept, which the origin issued and the provider
captured; for a recurring one it names the order of an approval of the subscription that is kept,
and the plan that the subscription was asked for. All else is as the provider and the intent say. -/
theorem completion_tellsOf (ops : List Operation) (op : Operation) :
    (∀ form, .request (.completeOnce form) ∈ (s.next ops op).calls →
      ∃ earlier asked reply capture,
        (s.checkout ops).order? = some ⟨form.order⟩ ∧
        (s.next ops op).checkout.order? = some ⟨form.order⟩ ∧
        s.calls ops = earlier ++ [.request (.initiate asked)] ∧
        s.respond earlier (.initiate asked) = some (.ok reply) ∧
        reply.order = form.order ∧ asked.fund = form.fund ∧
        [.request (.capture ⟨form.order⟩), .request (.completeOnce form)] <+:
          (s.next ops op).calls ∧
        s.respond (s.calls ops) (.capture ⟨form.order⟩) = some (.ok capture) ∧
        form.TellsOf s.intent capture) ∧
    (∀ form, .request (.completePlan form) ∈ (s.next ops op).calls →
      ∃ earlier asked id approval snapshot,
        (s.checkout ops).order? = some id ∧ (s.next ops op).checkout.order? = some id ∧
        s.calls ops = earlier ++ [.request (.subscribe asked)] ∧
        s.respond earlier (.subscribe asked) = some (.ok id) ∧
        asked.plan = form.providerPlan ∧
        op = .approve approval ∧ approval.subscription? = some id.text ∧
        [.request (.snapshot approval), .request (.completePlan form)] <+:
          (s.next ops op).calls ∧
        s.respond (s.calls ops) (.snapshot approval) = some (.ok snapshot) ∧
        form.TellsOf s.intent approval snapshot) := by
  rw [← (s.same ops).1]
  constructor
  · intro form made
    obtain ⟨approval, earlier, asked, id, fetch, name, rfl, history, orders, issued, kept, still,
      approved, asks, calls, answered⟩ := s.completion_history made rfl
    have once : (s.checkout ops).intent.kind = .oneTime := by
      simpa [Call.kind?, eq_comm] using (role_completion answered).2
    obtain rfl := (fetchRequest_oneTime once).mp asks
    obtain ⟨amount, -, rfl⟩ := (orderRequest_oneTime once).mp orders
    obtain ⟨reply, replied, -, rfl⟩ := Respondent.order_initiate.mp issued
    obtain ⟨capture, r, captured, result, completes, -⟩ := (completion_oneTime once).mp answered
    cases completes
    have sameText : approval.order.text = reply.order := by
      simpa [approvedId?, once] using approved
    have sameOrder : (⟨reply.order⟩ : OrderId) = approval.order := by
      rw [← sameText]
    have inForm : (⟨((s.checkout ops).onceForm r).order⟩ : OrderId) = approval.order :=
      order_of_result result
    rw [sameOrder] at kept still
    rw [inForm]
    exact ⟨earlier, _, reply, capture, kept, still, history, replied,
      congrArg OrderId.text (sameOrder.trans inForm.symm), rfl, calls, captured,
      onceForm_tellsOf result⟩
  · intro form made
    obtain ⟨approval, earlier, asked, id, fetch, name, rfl, history, orders, issued, kept, still,
      approved, asks, calls, answered⟩ := s.completion_history made rfl
    have recurring : (s.checkout ops).intent.kind = .recurring := by
      simpa [Call.kind?, eq_comm] using (role_completion answered).2
    obtain ⟨_, _, _, _, rfl⟩ := (fetchRequest_recurring recurring).mp asks
    obtain ⟨plan, planned, rfl⟩ := (orderRequest_recurring recurring).mp orders
    obtain ⟨_, _, snapshot, r, hasProviderPlan, hasPlan, told, result, completes, -⟩ :=
      (completion_recurring recurring).mp answered
    cases completes
    have subscribed : approval.subscription? = some id.text := by
      simpa [approvedId?, recurring] using approved
    cases planned.symm.trans hasProviderPlan
    exact ⟨earlier, _, id, approval, snapshot, kept, still, history, issued, rfl, rfl, subscribed,
      calls, told, planForm_tellsOf hasProviderPlan hasPlan result⟩

/-- A donation that all goes well for: every request is answered as one hopes. -/
def usual (kind : DonationKind) : Session where
  intent := ⟨kind, "F1", some "P7", some ⟨2500⟩, some "P-123", none⟩
  settings := .ofOrigin "http://origin.test"
  respond _ r :=
    match r with
    | .initiate _ => some (.ok ⟨"O1"⟩)
    | .subscribe _ => some (.ok ⟨"I-SUB1"⟩)
    | .capture order => some (.ok ⟨order.text, "COMPLETED",
        ⟨"PAYER1", "a@b.com", "Ada", "Lovelace"⟩,
        [⟨⟨"USD", "25.00"⟩, some ⟨[⟨"CAP1", "COMPLETED"⟩]⟩⟩]⟩)
    | .snapshot _ => some (.ok ⟨"I-SUB1", "P-123", "ACTIVE",
        ⟨"PAYER2", "sub@b.com", "Grace", "Hopper"⟩, ⟨some ⟨"USD", "10.00"⟩⟩⟩)
    | .completeOnce _ | .completePlan _ => some (.ok ⟨200, ""⟩)
    | .reportError _ => some (.ok "")

theorem usual_tellsOf :
    (∃ form capture, form.order = "O1" ∧ form.payment = "CAP1" ∧
      .request (.completeOnce form) ∈
        ((usual .oneTime).next [.initiate] (.approve ⟨⟨"O1"⟩, none⟩)).calls ∧
      form.TellsOf (usual .oneTime).intent capture) ∧
    (∃ form approval snapshot, form.order = "T2" ∧ form.subscription = "I-SUB1" ∧
      .request (.completePlan form) ∈
        ((usual .recurring).next [.initiate] (.approve ⟨⟨"T2"⟩, some "I-SUB1"⟩)).calls ∧
      form.TellsOf (usual .recurring).intent approval snapshot) := by
  constructor
  · have made : Call.request (.completeOnce
        ⟨"O1", "25.00", "a@b.com", "PAYER1", "Ada", "Lovelace", "F1", "CAP1", none⟩) ∈
        ((usual .oneTime).next [.initiate] (.approve ⟨⟨"O1"⟩, none⟩)).calls := by decide
    obtain ⟨_, _, _, capture, _, _, _, _, _, _, _, _, tells⟩ :=
      ((usual .oneTime).completion_tellsOf _ _).1 _ made
    exact ⟨_, capture, rfl, rfl, made, tells⟩
  · have made : Call.request (.completePlan
        ⟨"T2", "P-123", "I-SUB1", "I-SUB1", "P7", "10.00", "sub@b.com", "PAYER2", "Grace", "Hopper",
          "F1", none⟩) ∈
        ((usual .recurring).next [.initiate] (.approve ⟨⟨"T2"⟩, some "I-SUB1"⟩)).calls := by
      decide
    obtain ⟨_, _, _, approval, snapshot, _, _, _, _, _, _, _, _, _, tells⟩ :=
      ((usual .recurring).completion_tellsOf _ _).2 _ made
    exact ⟨_, approval, snapshot, rfl, rfl, made, tells⟩

end Session

end DonationPage
