import DonationPage.Proofs.Checkout.CompletionForms
import DonationPage.Proofs.Intent.Loading
/-! Intents that say all that a donation needs. Whatever way a page comes by an intent, it has been
checked; the checkout therefore never lacks what to ask for, neither at its start nor, after the
donor has subscribed, at the approval. -/
namespace DonationPage

namespace Intent

structure Complete (i : Intent) : Prop where
  fund : isBlankText i.fund = false
  amount : i.kind = .oneTime → ∃ amount, i.amount? = some amount ∧ 0 < amount.cents
  plan : i.kind = .recurring → ∃ plan, i.plan? = some plan ∧ isBlankText plan = false
  providerPlan : i.kind = .recurring →
    ∃ plan, i.providerPlan? = some plan ∧ isBlankText plan = false

/-- The ways to come by an intent that is checked. -/
inductive Obtained : Intent → Prop
  | oneTime {fund : String} {amount : Money} {i : Intent}
      (made : Intent.oneTime fund amount = .ok i) : Obtained i
  | recurring {fund plan providerPlan : String} {i : Intent}
      (made : Intent.recurring fund plan providerPlan = .ok i) : Obtained i
  | load {kind : DonationKind} {source : TagSource} {i : Intent}
      (loaded : Intent.load kind source = .ok i) : Obtained i
  | withBcoName {i : Intent} (obtained : Obtained i) (name : String) :
      Obtained (i.withBcoName name)

theorem complete_of_oneTime {fund : String} {amount : Money} {i : Intent}
    (made : oneTime fund amount = .ok i) : i.Complete := by
  obtain ⟨visible, positive, rfl⟩ := oneTime_eq_ok.mp made
  exact ⟨visible, fun _ => ⟨amount, rfl, positive⟩, nofun, nofun⟩

theorem complete_of_recurring {fund plan providerPlan : String} {i : Intent}
    (made : recurring fund plan providerPlan = .ok i) : i.Complete := by
  obtain ⟨visible, named, priced, rfl⟩ := recurring_eq_ok.mp made
  exact ⟨visible, nofun, fun _ => ⟨plan, rfl, named⟩, fun _ => ⟨providerPlan, rfl, priced⟩⟩

theorem Complete.withBcoName {i : Intent} (complete : i.Complete) (name : String) :
    (i.withBcoName name).Complete :=
  ⟨complete.fund, complete.amount, complete.plan, complete.providerPlan⟩

theorem complete_of_load {kind : DonationKind} {source : TagSource} {i : Intent}
    (loaded : load kind source = .ok i) : i.Complete := by
  obtain ⟨-, described⟩ := load_eq_ok.mp loaded
  cases described with
  | oneTime _ named _ positive _ => exact ⟨named, fun _ => ⟨_, rfl, positive⟩, nofun, nofun⟩
  | recurring _ named _ planned _ priced _ =>
    exact ⟨named, nofun, fun _ => ⟨_, rfl, planned⟩, fun _ => ⟨_, rfl, priced⟩⟩

theorem Obtained.complete {i : Intent} (obtained : i.Obtained) : i.Complete := by
  induction obtained with
  | oneTime made => exact complete_of_oneTime made
  | recurring made => exact complete_of_recurring made
  | load loaded => exact complete_of_load loaded
  | withBcoName obtained name ih => exact ih.withBcoName name

end Intent

theorem OrderId.ofText_ne_setup (text : String) (fault : SetupFault) :
    OrderId.ofText text ≠ .error (.setup fault) := by
  unfold OrderId.ofText
  split <;> simp

theorem OrderCapture.result_ne_setup (capture : OrderCapture) (order : OrderId)
    (fault : SetupFault) : capture.result order ≠ .error (.setup fault) := by
  unfold OrderCapture.result
  split <;> simp

theorem SubscriptionSnapshot.result_ne_setup (snapshot : SubscriptionSnapshot)
    (fault : SetupFault) : snapshot.result ≠ .error (.setup fault) := by
  unfold SubscriptionSnapshot.result
  split <;> simp

theorem Respondent.order_setup {respond : Respondent} {before : List Call} {r : Request}
    {fault : SetupFault} (refused : respond.order? before r = some (.error (.setup fault))) :
    respond before r = some (.error (.setup fault)) := by
  cases r with
  | initiate form =>
    obtain ⟨answer, told, failed⟩ := Option.map_eq_some_iff.mp refused
    rcases bind_eq_error.mp failed with rfl | ⟨reply, -, blank⟩
    · exact told
    · exact absurd blank (OrderId.ofText_ne_setup _ _)
  | subscribe request => exact refused
  | _ => cases refused

namespace Checkout

variable {respond : Respondent} {before : List Call} {c : Checkout}

theorem exists_orderRequest (complete : c.intent.Complete) : ∃ r, c.orderRequest = .ok r := by
  cases kind : c.intent.kind with
  | oneTime =>
    obtain ⟨amount, has, -⟩ := complete.amount kind
    exact ⟨_, (orderRequest_oneTime kind).mpr ⟨amount, has, rfl⟩⟩
  | recurring =>
    obtain ⟨plan, has, -⟩ := complete.providerPlan kind
    exact ⟨_, (orderRequest_recurring kind).mpr ⟨plan, has, rfl⟩⟩

theorem exists_fetchRequest (complete : c.intent.Complete) (approval : Approval) :
    ∃ r, c.fetchRequest approval = .ok r := by
  cases kind : c.intent.kind with
  | oneTime => exact ⟨_, (fetchRequest_oneTime kind).mpr rfl⟩
  | recurring =>
    obtain ⟨providerPlan, priced, -⟩ := complete.providerPlan kind
    obtain ⟨plan, named, -⟩ := complete.plan kind
    exact ⟨_, (fetchRequest_recurring kind).mpr ⟨providerPlan, plan, priced, named, rfl⟩⟩

theorem completion_setup {approval : Approval} {r : Request} {fault : SetupFault}
    (asks : c.fetchRequest approval = .ok r)
    (refused : c.completion? respond before approval = some (.error (.setup fault))) :
    respond before r = some (.error (.setup fault)) := by
  cases kind : c.intent.kind with
  | oneTime =>
    obtain rfl := (fetchRequest_oneTime kind).mp asks
    simp only [completion?, kind] at refused
    obtain ⟨answer, told, failed⟩ := Option.map_eq_some_iff.mp refused
    rcases bind_eq_error.mp (map_eq_error.mp failed) with rfl | ⟨capture, -, empty⟩
    · exact told
    · exact absurd empty (capture.result_ne_setup _ _)
  | recurring =>
    obtain ⟨providerPlan, plan, priced, named, rfl⟩ := (fetchRequest_recurring kind).mp asks
    simp only [completion?, kind, priced, named] at refused
    obtain ⟨answer, told, failed⟩ := Option.map_eq_some_iff.mp refused
    rcases bind_eq_error.mp (map_eq_error.mp failed) with rfl | ⟨snapshot, -, unpaid⟩
    · exact told
    · exact absurd unpaid (snapshot.result_ne_setup _)

theorem Settlement.fetches {approval : Approval} {step : Step Outcome} {r : Request}
    (settled : Settlement respond before c approval step) (asks : c.fetchRequest approval = .ok r) :
    ∃ rest, step.calls = .request r :: rest := by
  cases settled with
  | planless lacks => cases asks.symm.trans lacks
  | unanswered asked never =>
    cases asks.symm.trans asked
    exact ⟨[], rfl⟩
  | refused asked answered =>
    cases asks.symm.trans asked
    exact ⟨[], rfl⟩
  | @fetched _ _ _ step asked answered concluded =>
    cases asks.symm.trans asked
    exact ⟨step.calls, rfl⟩

theorem Move.initiates {step : Step Product} {r : Request}
    (move : Move respond before c .initiate step) (idle : c.stage = .idle)
    (asks : c.orderRequest = .ok r) : step.calls = [.request r] := by
  cases move with
  | initiateLate late => exact absurd idle late
  | amountless start lacks => cases asks.symm.trans lacks
  | unanswered start asked never =>
    cases asks.symm.trans asked
    rfl
  | refused start asked answered =>
    cases asks.symm.trans asked
    rfl
  | ordered start asked answered =>
    cases asks.symm.trans asked
    rfl

theorem Move.fetches {approval : Approval} {step : Step Product} {r : Request}
    (move : Move respond before c (.approve approval) step) (accepted : c.Accepts approval)
    (asks : c.fetchRequest approval = .ok r) : ∃ rest, step.calls = .request r :: rest := by
  cases move with
  | approveEarly early => exact absurd accepted.1 early
  | approveForeign created foreign => exact absurd accepted.2 foreign
  | approved accepted settled => exact settled.fetches asks

theorem Move.setup {op : Operation} {step : Step Product} {fault : SetupFault}
    (move : Move respond before c op step) (complete : c.intent.Complete)
    (failed : step.result? = some (.error (.setup fault))) :
    ∃ r, .request r ∈ step.calls ∧ respond before r = some (.error (.setup fault)) := by
  cases move with
  | amountless idle lacks =>
    obtain ⟨r, asks⟩ := exists_orderRequest complete
    cases asks.symm.trans lacks
  | refused idle asks answered =>
    cases failed
    exact ⟨_, List.mem_cons_self, Respondent.order_setup answered⟩
  | @approved approval step accepted settled =>
    obtain ⟨result, kept, ended⟩ := Option.map_eq_some_iff.mp failed
    have kept : step.result? = some (.error (.setup fault)) := by
      rwa [map_eq_error.mp ended] at kept
    cases settled with
    | planless lacks =>
      obtain ⟨r, asks⟩ := exists_fetchRequest complete approval
      cases asks.symm.trans lacks
    | unanswered asks never => cases kept
    | refused asks answered =>
      cases kept
      exact ⟨_, List.mem_cons_self, completion_setup asks answered⟩
    | fetched asks answered concluded => cases concluded <;> cases kept
  | _ => cases failed

theorem Move.order_asked {op : Operation} {step : Step Product} {r : Request}
    (move : Move respond before c op step) (made : .request r ∈ step.calls)
    (role : (Call.request r).role = .order) : c.orderRequest = .ok r := by
  have same {asked : Request} (asks : c.orderRequest = .ok asked)
      (one : Call.request r ∈ [Call.request asked]) : c.orderRequest = .ok r := by
    cases List.mem_singleton.mp one
    exact asks
  cases move with
  | unanswered idle asks never => exact same asks made
  | refused idle asks answered => exact same asks made
  | ordered idle asks answered => exact same asks made
  | approved accepted settled =>
    exact absurd (role ▸ List.mem_map_of_mem made) (Stage.order_not_mem_trails settled.roles)
  | _ => cases made

end Checkout

namespace Session

open Checkout

variable (s : Session)

theorem order_asked {ops : List Operation} {r : Request} (made : .request r ∈ s.calls ops)
    (role : (Call.request r).role = .order) :
    (Checkout.new s.intent s.settings).orderRequest = .ok r := by
  induction ops using List.reverseRecOn with
  | nil => cases made
  | append_singleton ops op ih =>
    rw [calls_concat, List.mem_append] at made
    rcases made with earlier | now
    · exact ih earlier
    · have asked := (s.move_next ops op).order_asked now role
      rwa [orderRequest, (s.same ops).1] at asked

/-- A checkout for an intent that was checked never lacks what to ask for. From its first stage it
asks for an order, and an approval that it accepts has it ask for the payment; it fails for a reason
of the setup only if an answer did. What it asks for is sensible: an amount above zero for a fund,
or a plan, which is the provider's plan of the intent. -/
theorem never_incomplete (obtained : s.intent.Obtained) (ops : List Operation) :
    ((s.checkout ops).stage = .idle → ∃ r, (Call.request r).role = .order ∧
      (Call.request r).kind? = some s.intent.kind ∧
      (s.next ops .initiate).calls = [.request r]) ∧
    (∀ approval, (s.checkout ops).Accepts approval → ∃ r rest, (Call.request r).role = .fetch ∧
      (Call.request r).kind? = some s.intent.kind ∧
      (s.next ops (.approve approval)).calls = .request r :: rest) ∧
    (∀ op fault, (s.next ops op).result? = some (.error (.setup fault)) →
      ∃ r, .request r ∈ (s.next ops op).calls ∧
        s.respond (s.calls ops) r = some (.error (.setup fault))) ∧
    (∀ form, .request (.initiate form) ∈ s.calls ops →
      0 < form.cents ∧ isBlankText form.fund = false) ∧
    (∀ request, .request (.subscribe request) ∈ s.calls ops →
      s.intent.providerPlan? = some request.plan ∧ isBlankText request.plan = false) := by
  have complete := obtained.complete
  have intent := (s.same ops).1
  have stays : (s.checkout ops).intent.Complete := intent ▸ complete
  refine ⟨fun idle => ?_, fun approval accepted => ?_, fun op fault failed => ?_,
    fun form made => ?_, fun request made => ?_⟩
  · obtain ⟨r, asks⟩ := exists_orderRequest stays
    obtain ⟨role, kind⟩ := role_orderRequest asks
    exact ⟨r, role, intent ▸ kind, (s.move_next ops .initiate).initiates idle asks⟩
  · obtain ⟨r, asks⟩ := exists_fetchRequest stays approval
    obtain ⟨role, kind⟩ := role_fetchRequest asks
    obtain ⟨rest, calls⟩ := (s.move_next ops (.approve approval)).fetches accepted asks
    exact ⟨r, rest, role, intent ▸ kind, calls⟩
  · exact (s.move_next ops op).setup stays failed
  · have asked := s.order_asked made rfl
    have once : s.intent.kind = .oneTime := by
      simpa [Call.kind?, Checkout.new, eq_comm] using (role_orderRequest asked).2
    obtain ⟨amount, has, positive⟩ := complete.amount once
    obtain ⟨same, kept, asks⟩ := (orderRequest_oneTime once).mp asked
    cases asks
    cases has.symm.trans kept
    exact ⟨positive, complete.fund⟩
  · have asked := s.order_asked made rfl
    have recurring : s.intent.kind = .recurring := by
      simpa [Call.kind?, Checkout.new, eq_comm] using (role_orderRequest asked).2
    obtain ⟨plan, priced, visible⟩ := complete.providerPlan recurring
    obtain ⟨same, kept, asks⟩ := (orderRequest_recurring recurring).mp asked
    cases asks
    cases priced.symm.trans kept
    exact ⟨kept, visible⟩

def pledgeTags : PageTags := .ofPairs
  [("fund-id", "\"F1\""), ("plan-id", "\"P7\""), ("provider-plan-id", "\"P-123\""),
    ("bco-name", "\"Youth Club\"")]

def pledged : Session :=
  { usual .recurring with
    intent := ⟨.recurring, "F1", some "P7", none, some "P-123", some "Youth Club"⟩ }

def offline : Session :=
  { usual .oneTime with
    intent := ⟨.oneTime, "F1", none, some ⟨2500⟩, none, none⟩
    respond := fun _ _ => some (.error (.setup (.told "no network"))) }

theorem pledged_asks :
    Intent.load .recurring pledgeTags.source = .ok pledged.intent ∧
    (∃ r, (Call.request r).role = .order ∧ (pledged.next [] .initiate).calls = [.request r]) ∧
    (∃ r rest, (Call.request r).role = .fetch ∧
      (pledged.next [.initiate] (.approve ⟨⟨"T2"⟩, some "I-SUB1"⟩)).calls = .request r :: rest) ∧
    (∃ request, .request (.subscribe request) ∈ pledged.calls [.initiate] ∧
      isBlankText request.plan = false) ∧
    Intent.oneTime "F1" ⟨2500⟩ = .ok offline.intent ∧
    (∃ form, .request (.initiate form) ∈ offline.calls [.initiate] ∧ 0 < form.cents) ∧
    ∃ r, .request r ∈ (offline.next [] .initiate).calls ∧
      offline.respond [] r = some (.error (.setup (.told "no network"))) := by
  have loaded : Intent.load .recurring pledgeTags.source = .ok pledged.intent := rfl
  have made : Intent.oneTime "F1" ⟨2500⟩ = .ok offline.intent := rfl
  obtain ⟨starts, -⟩ := pledged.never_incomplete (.load loaded) []
  obtain ⟨-, fetches, -, -, plans⟩ := pledged.never_incomplete (.load loaded) [.initiate]
  obtain ⟨-, -, failures, -⟩ := offline.never_incomplete (.oneTime made) []
  obtain ⟨-, -, -, amounts, -⟩ := offline.never_incomplete (.oneTime made) [.initiate]
  have subscribes : .request (.subscribe (.forPlan "P-123")) ∈ pledged.calls [.initiate] := by
    decide
  have asks : .request (.initiate ⟨"F1", 2500⟩) ∈ offline.calls [.initiate] := by decide
  obtain ⟨r, order, -, first⟩ := starts rfl
  obtain ⟨fetch, rest, role, -, calls⟩ := fetches ⟨⟨"T2"⟩, some "I-SUB1"⟩ ⟨rfl, by decide⟩
  exact ⟨loaded, ⟨r, order, first⟩, ⟨fetch, rest, role, calls⟩,
    ⟨_, subscribes, (plans _ subscribes).2⟩, made, ⟨_, asks, (amounts _ asks).1⟩,
    failures .initiate (.told "no network") rfl⟩

end Session

end DonationPage
