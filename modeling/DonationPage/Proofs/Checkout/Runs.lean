import DonationPage.Proofs.Checkout.Moves
import Mathlib.Data.List.Induction
/-! Whole runs of new checkouts. A run is taken apart at its last operation, so what every move keeps
holds after every run. -/
namespace DonationPage

open Checkout (Move Settlement Conclusion)

structure Session where
  intent : Intent
  settings : Settings
  respond : Respondent

def Checkout.afterSteps (c : Checkout) (steps : List (Step Product)) : Checkout :=
  (steps.getLast?.map Step.checkout).getD c

namespace Session

def steps (s : Session) (ops : List Operation) : List (Step Product) :=
  (Checkout.new s.intent s.settings).run s.respond [] ops

def calls (s : Session) (ops : List Operation) : List Call := (s.steps ops).flatMap Step.calls

def checkout (s : Session) (ops : List Operation) : Checkout :=
  (Checkout.new s.intent s.settings).afterSteps (s.steps ops)

def next (s : Session) (ops : List Operation) (op : Operation) : Step Product :=
  (s.checkout ops).perform s.respond (s.calls ops) op

end Session

namespace Checkout

@[simp] theorem afterSteps_nil (c : Checkout) : c.afterSteps [] = c := rfl

@[simp] theorem afterSteps_cons (c : Checkout) (step : Step Product) (steps : List (Step Product)) :
    c.afterSteps (step :: steps) = step.checkout.afterSteps steps := by
  cases steps with
  | nil => rfl
  | cons next rest => simp [afterSteps, List.getLast?_cons]

@[simp] theorem afterSteps_concat (c : Checkout) (steps : List (Step Product))
    (step : Step Product) : c.afterSteps (steps ++ [step]) = step.checkout := by
  simp [afterSteps]

theorem run_concat (respond : Respondent) (before : List Call) (c : Checkout)
    (ops : List Operation) (op : Operation) :
    c.run respond before (ops ++ [op]) = c.run respond before ops ++
      [(c.afterSteps (c.run respond before ops)).perform respond
        (before ++ (c.run respond before ops).flatMap Step.calls) op] := by
  induction ops generalizing c before with
  | nil => simp [run]
  | cons first rest ih => simp [run, ih, List.append_assoc]

end Checkout

namespace Session

variable (s : Session)

@[simp] theorem calls_nil : s.calls [] = [] := rfl

@[simp] theorem checkout_nil : s.checkout [] = Checkout.new s.intent s.settings := rfl

@[simp] theorem steps_concat (ops : List Operation) (op : Operation) :
    s.steps (ops ++ [op]) = s.steps ops ++ [s.next ops op] :=
  Checkout.run_concat s.respond [] _ ops op

@[simp] theorem calls_concat (ops : List Operation) (op : Operation) :
    s.calls (ops ++ [op]) = s.calls ops ++ (s.next ops op).calls := by
  simp [calls]

@[simp] theorem checkout_concat (ops : List Operation) (op : Operation) :
    s.checkout (ops ++ [op]) = (s.next ops op).checkout := by
  simp [checkout]

@[simp] theorem steps_length (ops : List Operation) : (s.steps ops).length = ops.length := by
  induction ops using List.reverseRecOn with
  | nil => rfl
  | append_singleton ops op ih => simp [ih]

theorem next_congr {ops others : List Operation} (checkout : s.checkout ops = s.checkout others)
    (calls : s.calls ops = s.calls others) (op : Operation) : s.next ops op = s.next others op := by
  rw [next, next, checkout, calls]

theorem move_next (ops : List Operation) (op : Operation) :
    Move s.respond (s.calls ops) (s.checkout ops) op (s.next ops op) :=
  Checkout.perform_move _ _ _ _

/-- What holds of a new checkout before any call, and is kept by every move, holds after every
run. -/
theorem invariant {motive : Checkout → List Call → Prop}
    (start : motive (Checkout.new s.intent s.settings) [])
    (kept : ∀ c before op step, motive c before → Move s.respond before c op step →
      motive step.checkout (before ++ step.calls))
    (ops : List Operation) : motive (s.checkout ops) (s.calls ops) := by
  induction ops using List.reverseRecOn with
  | nil => exact start
  | append_singleton ops op ih =>
    rw [checkout_concat, calls_concat]
    exact kept _ _ op _ ih (s.move_next ops op)

end Session

namespace Checkout

variable {respond : Respondent} {before : List Call} {c : Checkout}

theorem Move.same {op : Operation} {step : Step Product} (move : Move respond before c op step) :
    step.checkout.intent = c.intent ∧ step.checkout.settings = c.settings := by
  cases move with
  | approved accepted settled =>
    cases settled with
    | fetched asks answered concluded => cases concluded <;> exact ⟨rfl, rfl⟩
    | _ => exact ⟨rfl, rfl⟩
  | _ => exact ⟨rfl, rfl⟩

end Checkout

theorem Session.same (s : Session) (ops : List Operation) :
    (s.checkout ops).intent = s.intent ∧ (s.checkout ops).settings = s.settings := by
  refine s.invariant (motive := fun c _ => c.intent = s.intent ∧ c.settings = s.settings)
    ⟨rfl, rfl⟩ ?_ ops
  intro c before op step same move
  exact ⟨move.same.1.trans same.1, move.same.2.trans same.2⟩

end DonationPage
