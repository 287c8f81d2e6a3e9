import DonationPage.Proofs.Checkout.CompletionForms
import DonationPage.Proofs.Checkout.StageOrder
/-! Operations that a checkout rejects. A rejected operation makes no call and leaves the checkout
as it was, so a run goes on as if it had never been asked for: whatever is slipped in between the
other operations, and however often, cannot be told from their steps. -/
namespace DonationPage

/-- An operation of a run, and whether it was slipped in between the others. -/
structure Entry where
  op : Operation
  inserted : Bool

namespace Checkout

/-- A start is rejected once the checkout has begun, an approval unless it names the order that the
checkout waits with, and giving up after the end. An approval that names nothing is rejected too. -/
def Rejects (c : Checkout) : Operation → Prop
  | .initiate => c.stage ≠ .idle
  | .approve approval =>
    c.stage ≠ .orderCreated ∨ ∀ id ∈ c.order?, c.approvedId? approval ≠ some id.text
  | .abandon => c.stage.isTerminal = true

instance (c : Checkout) : (op : Operation) → Decidable (c.Rejects op)
  | .initiate => inferInstanceAs (Decidable (c.stage ≠ .idle))
  | .approve approval => inferInstanceAs
      (Decidable (c.stage ≠ .orderCreated ∨ ∀ id ∈ c.order?, c.approvedId? approval ≠ some id.text))
  | .abandon => inferInstanceAs (Decidable (c.stage.isTerminal = true))

variable {respond : Respondent} {before : List Call} {c : Checkout}

theorem Accepts.not_rejects {approval : Approval} (accepted : c.Accepts approval)
    (fits : OrderFits c) : ¬ c.Rejects (.approve approval) := by
  obtain ⟨created, named⟩ := accepted
  obtain ⟨id, kept⟩ := Option.isSome_iff_exists.mp (fits.2 (by simp [created]))
  rintro (early | foreign)
  · exact early created
  · rw [kept, Option.map_some] at named
    exact foreign id kept named.symm

theorem Move.rejected {op : Operation} {step : Step Product}
    (move : Move respond before c op step) (fits : OrderFits c) (rejects : c.Rejects op) :
    step.checkout = c ∧ step.calls = [] ∧
      (op ≠ .abandon → ∃ failure, step.result? = some (.error failure)) := by
  cases move with
  | initiateLate late => exact ⟨rfl, rfl, fun _ => ⟨_, rfl⟩⟩
  | amountless idle lacks => exact absurd idle rejects
  | unanswered idle asks never => exact absurd idle rejects
  | refused idle asks answered => exact absurd idle rejects
  | ordered idle asks answered => exact absurd idle rejects
  | approveEarly early => exact ⟨rfl, rfl, fun _ => ⟨_, rfl⟩⟩
  | approveForeign created foreign => exact ⟨rfl, rfl, fun _ => ⟨_, rfl⟩⟩
  | approved accepted settled => exact absurd rejects (accepted.not_rejects fits)
  | abandonLate ended => exact ⟨rfl, rfl, fun other => absurd rfl other⟩
  | abandoned going => cases going.symm.trans rejects

end Checkout

namespace Session

open Checkout

variable (s : Session)

def operations (script : List Entry) : List Operation := script.map Entry.op

def ownOperations (script : List Entry) : List Operation :=
  (script.filter fun entry => !entry.inserted).map Entry.op

/-- What is slipped in is rejected where it stands. -/
def InsertsRejected (script : List Entry) : Prop :=
  ∀ i (h : i < script.length), script[i].inserted = true →
    (s.checkout (operations (script.take i))).Rejects script[i].op

def ownSteps (script : List Entry) : List (Step Product) :=
  (((s.steps (operations script)).zip script).filter fun pair => !pair.2.inserted).map Prod.fst

@[simp] theorem operations_concat (script : List Entry) (entry : Entry) :
    operations (script ++ [entry]) = operations script ++ [entry.op] := by
  simp [operations]

@[simp] theorem operations_length (script : List Entry) :
    (operations script).length = script.length := by
  simp [operations]

theorem ownOperations_concat (script : List Entry) (entry : Entry) :
    ownOperations (script ++ [entry]) =
      ownOperations script ++ if entry.inserted then [] else [entry.op] := by
  cases inserted : entry.inserted <;> simp [ownOperations, inserted]

theorem ownSteps_concat (script : List Entry) (entry : Entry) :
    s.ownSteps (script ++ [entry]) = s.ownSteps script ++
      if entry.inserted then [] else [s.next (operations script) entry.op] := by
  unfold ownSteps
  rw [operations_concat, steps_concat, List.zip_append (by simp)]
  cases inserted : entry.inserted <;> simp [inserted]

theorem InsertsRejected.of_concat {s : Session} {script : List Entry} {entry : Entry}
    (rejects : s.InsertsRejected (script ++ [entry])) : s.InsertsRejected script ∧
      (entry.inserted = true → (s.checkout (operations script)).Rejects entry.op) := by
  refine ⟨fun i h inserted => ?_, fun inserted => ?_⟩
  · have earlier := rejects i (by simp; omega)
    rw [List.getElem_append_left h, List.take_append_of_le_length (by omega)] at earlier
    exact earlier inserted
  · simpa [inserted] using rejects script.length (by simp)

theorem next_of_rejects {ops : List Operation} {op : Operation}
    (rejects : (s.checkout ops).Rejects op) :
    (s.next ops op).checkout = s.checkout ops ∧ (s.next ops op).calls = [] ∧
      (op ≠ .abandon → ∃ failure, (s.next ops op).result? = some (.error failure)) :=
  (s.move_next ops op).rejected (s.orderFits ops) rejects

theorem own_of_insertsRejected {script : List Entry} (rejects : s.InsertsRejected script) :
    s.ownSteps script = s.steps (ownOperations script) ∧
      s.calls (operations script) = s.calls (ownOperations script) ∧
      s.checkout (operations script) = s.checkout (ownOperations script) := by
  -- Both runs are taken apart at the end of the script. An operation of the shorter run then meets
  -- the checkout and the calls that it meets in the longer one, hence makes the same step.
  induction script using List.reverseRecOn with
  | nil => exact ⟨rfl, rfl, rfl⟩
  | append_singleton script entry ih =>
    obtain ⟨earlier, last⟩ := rejects.of_concat
    obtain ⟨steps, calls, checkout⟩ := ih earlier
    rw [ownSteps_concat, ownOperations_concat, operations_concat, calls_concat, checkout_concat]
    cases inserted : entry.inserted with
    | true =>
      obtain ⟨same, quiet, -⟩ := s.next_of_rejects (last inserted)
      simpa [same, quiet] using ⟨steps, calls, checkout⟩
    | false =>
      have next := s.next_congr checkout calls entry.op
      simp [steps, calls, next]

theorem checkout_of_rejects {ops others : List Operation}
    (rejects : ∀ other ∈ others, (s.checkout ops).Rejects other) :
    s.checkout (ops ++ others) = s.checkout ops ∧ s.calls (ops ++ others) = s.calls ops := by
  induction others using List.reverseRecOn with
  | nil => simp
  | append_singleton others last ih =>
    obtain ⟨checkout, calls⟩ := ih fun other member => rejects other (by simp [member])
    have rejected := rejects last (by simp)
    rw [← checkout] at rejected
    obtain ⟨same, quiet, -⟩ := s.next_of_rejects rejected
    rw [← List.append_assoc, checkout_concat, calls_concat, quiet, List.append_nil]
    exact ⟨same.trans checkout, calls⟩

/-- However many rejected operations are slipped into a run, each of the others does what it does
without them: it leaves the checkout alike, makes the same calls and has the same result; the run
makes the same calls in all, and comes to the same end. What is slipped in makes no call and, unless
it is to give up, ends in a failure. In particular, an approval comes to the same after any number of
approvals that are rejected. -/
theorem rejected_unseen {script : List Entry} (rejects : s.InsertsRejected script) :
    s.ownSteps script = s.steps (ownOperations script) ∧
    s.calls (operations script) = s.calls (ownOperations script) ∧
    s.checkout (operations script) = s.checkout (ownOperations script) ∧
    (∀ i (h : i < script.length), script[i].inserted = true →
      (s.next (operations (script.take i)) script[i].op).calls = [] ∧
      (script[i].op ≠ .abandon → ∃ failure,
        (s.next (operations (script.take i)) script[i].op).result? = some (.error failure))) ∧
    (∀ ops others op, (∀ other ∈ others, (s.checkout ops).Rejects other) →
      s.next (ops ++ others) op = s.next ops op) := by
  obtain ⟨steps, calls, checkout⟩ := s.own_of_insertsRejected rejects
  refine ⟨steps, calls, checkout, ?_, ?_⟩
  · intro i h inserted
    exact (s.next_of_rejects (rejects i h inserted)).2
  · intro ops others op rejected
    obtain ⟨same, quiet⟩ := s.checkout_of_rejects rejected
    exact s.next_congr same quiet op

def intruded : List Entry :=
  [⟨.initiate, false⟩, ⟨.approve ⟨⟨"T1"⟩, some "I-SUB2"⟩, true⟩, ⟨.initiate, true⟩,
    ⟨.approve ⟨⟨"I-SUB1"⟩, none⟩, true⟩, ⟨.approve ⟨⟨"T3"⟩, some "I-SUB1"⟩, false⟩,
    ⟨.abandon, true⟩]

theorem intruded_unseen :
    (usual .recurring).InsertsRejected intruded ∧
    (usual .recurring).ownSteps intruded =
      (usual .recurring).steps [.initiate, .approve ⟨⟨"T3"⟩, some "I-SUB1"⟩] ∧
    ((usual .recurring).checkout (operations intruded)).stage = .succeeded ∧
    (∃ failure, ((usual .recurring).next [.initiate]
      (.approve ⟨⟨"T1"⟩, some "I-SUB2"⟩)).result? = some (.error failure)) ∧
    (usual .recurring).next [.initiate, .approve ⟨⟨"T1"⟩, some "I-SUB2"⟩]
        (.approve ⟨⟨"T3"⟩, some "I-SUB1"⟩) =
      (usual .recurring).next [.initiate] (.approve ⟨⟨"T3"⟩, some "I-SUB1"⟩) := by
  have rejects : (usual .recurring).InsertsRejected intruded := by
    unfold InsertsRejected
    decide
  obtain ⟨steps, -, checkout, fails, foreign⟩ := (usual .recurring).rejected_unseen rejects
  refine ⟨rejects, steps, ?_, ?_, ?_⟩
  · rw [checkout]
    decide
  · exact (fails 1 (by decide) rfl).2 (by decide)
  · exact foreign [.initiate] [.approve ⟨⟨"T1"⟩, some "I-SUB2"⟩] _ (by decide)

end Session

end DonationPage
