import DonationPage.Proofs.Checkout.ErrorReports
import DonationPage.Proofs.Origin.Replies
/-! What becomes of an approved donation once every request is answered. A payment that is not found
ends it with a failure of its own; the origin's answer to the completion settles the rest. Whatever
comes of the report of an error is shown or dropped, and changes nothing. -/
namespace DonationPage

open Json

abbrev Answers := List Call → (r : Request) → Except Failure r.Answer

namespace Answers

def respond (answers : Answers) : Respondent := fun before r => some (answers before r)

def approve (answers : Answers) (before : List Call) (c : Checkout) (approval : Approval) :
    Step Product := c.perform answers.respond before (.approve approval)

/-- The approval leads to the request `r` and then at once to a completion `q`, whose answer this
is. -/
def Completes (answers : Answers) (before : List Call) (c : Checkout) (approval : Approval)
    (r q : Request) (answer : Except Failure Reply) : Prop :=
  c.fetchRequest approval = .ok r ∧
    [.request r, .request q] <+: (answers.approve before c approval).calls ∧
    answers.respond.reply? (before ++ [.request r]) q = some answer

end Answers

/-- Why the answer to the request that an approval leads to is of no use: it is a failure, or it tells
of no payment. -/
inductive Request.FetchFails : (r : Request) → Except Failure r.Answer → Failure → Prop
  | refused {r : Request} {failure : Failure} : FetchFails r (.error failure) failure
  | nothingCaptured {order : OrderId} {capture : OrderCapture} (none : capture.units = []) :
      FetchFails (.capture order) (.ok capture) (.provider (.nothingCaptured capture.id))
  | nothingPaid {approval : Approval} {snapshot : SubscriptionSnapshot}
      (none : snapshot.billing.lastPayment? = none) :
      FetchFails (.snapshot approval) (.ok snapshot) (.provider (.nothingPaid snapshot.id))

def Confirms (answer : Except Failure Reply) : Prop :=
  ∃ reply, answer = .ok reply ∧ 200 ≤ reply.status ∧ reply.status ≤ 299

/-- The text that is reported of an answer: that of the reply, the origin's own where it rejected the
request, or else what went wrong. -/
inductive ReportedAs : Except Failure Reply → String → Prop
  | reply (reply : Reply) : ReportedAs (.ok reply) reply.body
  | rejected (status : UInt16) (body : String) : ReportedAs (.error (.rejected status body)) body
  | other {failure : Failure} (other : ∀ status body, failure ≠ .rejected status body) :
      ReportedAs (.error failure) failure.message

def Refuses (answer : Except Failure Reply) (errors : FieldErrors) : Prop :=
  ∃ reply, answer = .ok reply ∧ reply.status = 422 ∧ decode FieldErrors reply.body = .ok errors

theorem OrderCapture.result_eq_error {capture : OrderCapture} {order : OrderId}
    {failure : Failure} : capture.result order = .error failure ↔
      capture.units = [] ∧ failure = .provider (.nothingCaptured capture.id) := by
  unfold OrderCapture.result
  cases capture.units <;> simp [eq_comm]

theorem SubscriptionSnapshot.result_eq_error {snapshot : SubscriptionSnapshot}
    {failure : Failure} : snapshot.result = .error failure ↔
      snapshot.billing.lastPayment? = none ∧ failure = .provider (.nothingPaid snapshot.id) := by
  unfold SubscriptionSnapshot.result
  cases snapshot.billing.lastPayment? <;> simp [eq_comm]

theorem confirms_iff {answer : Except Failure Reply} :
    Confirms answer ↔ ∃ reply, answer = .ok reply ∧ reply.isSuccess = true := by
  simp only [Confirms, Reply.isSuccess_iff, Confirming]

theorem Failure.reportedAs (failure : Failure) : ReportedAs (.error failure) failure.report := by
  cases failure with
  | rejected status body => exact .rejected status body
  | _ => exact .other nofun

theorem refuses_ok {reply : Reply} {errors : FieldErrors} :
    Refuses (.ok reply) errors ↔ reply.fieldErrors? = some errors := by
  simp [Refuses, Reply.fieldErrors_eq_some]

theorem exists_unconfirmed {answer : Except Failure Reply} (unconfirmed : ¬ Confirms answer) :
    ∃ detail fieldErrors?, unconfirmed? answer = some (detail, fieldErrors?) ∧
      ReportedAs answer detail ∧
      ∀ errors, fieldErrors? = some errors ↔ Refuses answer errors := by
  cases answer with
  | error failure =>
    exact ⟨_, none, rfl, failure.reportedAs, fun errors => by simp [Refuses]⟩
  | ok reply =>
    have declined : reply.isSuccess = false := by
      rw [confirms_iff] at unconfirmed
      simpa using unconfirmed
    refine ⟨reply.body, reply.fieldErrors?, ?_, .reply reply, fun errors => ?_⟩
    · simp [unconfirmed?, declined]
    · exact refuses_ok.symm

namespace Checkout

variable {respond : Respondent} {before : List Call} {c : Checkout} {approval : Approval}
  {r q : Request} {name : String}

theorem perform_approve (respond : Respondent) (before : List Call)
    (accepted : c.Accepts approval) : ∃ step, Settlement respond before c approval step ∧
      c.perform respond before (.approve approval) = step.map .outcome := by
  have move := perform_move respond before c (.approve approval)
  generalize c.perform respond before (.approve approval) = step at move ⊢
  cases move with
  | approveEarly early => exact absurd accepted.1 early
  | approveForeign created foreign => exact absurd accepted.2 foreign
  | approved accepted settled => exact ⟨_, settled, rfl⟩

theorem approve_planless (accepted : c.Accepts approval) {fault : SetupFault}
    (lacks : c.fetchRequest approval = .error fault) :
    c.perform respond before (.approve approval) =
      ⟨c.atStage .failed, [], some (.error (.setup fault))⟩ := by
  obtain ⟨step, settled, ends⟩ := perform_approve respond before accepted
  rw [ends]
  cases settled with
  | planless other =>
    cases lacks.symm.trans other
    rfl
  | unanswered asks never => cases lacks.symm.trans asks
  | refused asks answered => cases lacks.symm.trans asks
  | fetched asks answered concluded => cases lacks.symm.trans asks

theorem approve_refused (accepted : c.Accepts approval) (asks : c.fetchRequest approval = .ok r)
    {failure : Failure} (refused : c.completion? respond before approval = some (.error failure)) :
    c.perform respond before (.approve approval) =
      ⟨c.atStage .failed, [.request r], some (.error failure)⟩ := by
  obtain ⟨step, settled, ends⟩ := perform_approve respond before accepted
  rw [ends]
  cases settled with
  | planless lacks => cases asks.symm.trans lacks
  | unanswered other never => cases refused.symm.trans never
  | refused other answered =>
    cases asks.symm.trans other
    cases refused.symm.trans answered
    rfl
  | fetched other answered concluded => cases refused.symm.trans answered

theorem approve_concluded (accepted : c.Accepts approval)
    (asks : c.fetchRequest approval = .ok r)
    (fetched : c.completion? respond before approval = some (.ok (q, name))) :
    ∃ step, Conclusion respond (before ++ [.request r]) c q name step ∧
      c.perform respond before (.approve approval) = (step.after (.request r)).map .outcome := by
  obtain ⟨step, settled, ends⟩ := perform_approve respond before accepted
  rw [ends]
  cases settled with
  | planless lacks => cases asks.symm.trans lacks
  | unanswered other never => cases fetched.symm.trans never
  | refused other answered => cases fetched.symm.trans answered
  | fetched other answered concluded =>
    cases asks.symm.trans other
    cases fetched.symm.trans answered
    exact ⟨_, concluded, rfl⟩

theorem Conclusion.of_confirms {step : Step Outcome} {answer : Except Failure Reply}
    (concluded : Conclusion respond before c q name step)
    (replied : respond.reply? before q = some answer) (confirms : Confirms answer) :
    step = ⟨c.atStage .succeeded, [.request q, .page (.navigate (c.successTarget name))],
      some (.ok (.success (c.successTarget name)))⟩ := by
  obtain ⟨reply, rfl, success⟩ := confirms_iff.mp confirms
  have declined {answer : Except Failure Reply} {detail : String}
      {fieldErrors? : Option FieldErrors} (other : respond.reply? before q = some answer)
      (unconfirmed : unconfirmed? answer = some (detail, fieldErrors?)) : False := by
    cases replied.symm.trans other
    simp [unconfirmed?, success] at unconfirmed
  cases concluded with
  | unanswered never => cases replied.symm.trans never
  | confirmed other success => rfl
  | unreported other unconfirmed never => exact (declined other unconfirmed).elim
  | reportFailed other unconfirmed told => exact (declined other unconfirmed).elim
  | reported other unconfirmed told => exact (declined other unconfirmed).elim

end Checkout

namespace Answers

open Checkout

variable {answers : Answers} {before : List Call} {c : Checkout} {approval : Approval}
  {r q : Request} {name : String} {answer : Except Failure Reply}

theorem completion_refused (asks : c.fetchRequest approval = .ok r) {failure : Failure} :
    c.completion? answers.respond before approval = some (.error failure) ↔
      r.FetchFails (answers before r) failure := by
  cases kind : c.intent.kind with
  | oneTime =>
    obtain rfl := (fetchRequest_oneTime kind).mp asks
    simp only [completion?, kind, respond, Option.map_some, Option.some.injEq, map_eq_error,
      bind_eq_error, OrderCapture.result_eq_error]
    constructor
    · rintro (refused | ⟨capture, captured, none, rfl⟩)
      · rw [refused]
        exact .refused
      · rw [captured]
        exact .nothingCaptured none
    · generalize answers before (.capture approval.order) = answer
      rintro (_ | none)
      · exact .inl rfl
      · exact .inr ⟨_, rfl, none, rfl⟩
  | recurring =>
    obtain ⟨providerPlan, plan, hasProviderPlan, hasPlan, rfl⟩ :=
      (fetchRequest_recurring kind).mp asks
    simp only [completion?, kind, hasProviderPlan, hasPlan, respond, Option.map_some,
      Option.some.injEq, map_eq_error, bind_eq_error, SubscriptionSnapshot.result_eq_error]
    constructor
    · rintro (refused | ⟨snapshot, told, none, rfl⟩)
      · rw [refused]
        exact .refused
      · rw [told]
        exact .nothingPaid none
    · generalize answers before (.snapshot approval) = answer
      rintro (_ | _ | none)
      · exact .inl rfl
      · exact .inr ⟨_, rfl, none, rfl⟩

theorem exists_completion (asks : c.fetchRequest approval = .ok r)
    (fetched : ∀ failure, ¬ r.FetchFails (answers before r) failure) :
    ∃ q name, c.completion? answers.respond before approval = some (.ok (q, name)) := by
  cases completion : c.completion? answers.respond before approval with
  | none =>
    cases kind : c.intent.kind with
    | oneTime => simp [completion?, kind, respond] at completion
    | recurring =>
      obtain ⟨providerPlan, plan, hasProviderPlan, hasPlan, -⟩ :=
        (fetchRequest_recurring kind).mp asks
      simp [completion?, kind, hasProviderPlan, hasPlan, respond] at completion
  | some result =>
    cases result with
    | error failure => exact absurd ((completion_refused asks).mp completion) (fetched failure)
    | ok result => exact ⟨_, _, rfl⟩

theorem exists_reply (completes : (Call.request q).role = .completion) (before : List Call) :
    ∃ answer, answers.respond.reply? before q = some answer := by
  cases q with
  | completeOnce form => exact ⟨_, rfl⟩
  | completePlan form => exact ⟨_, rfl⟩
  | _ => cases completes

/-- An approval has nothing to ask for, or asks in vain, or goes on to a completion that is answered. -/
theorem exists_way (answers : Answers) (before : List Call) (c : Checkout) (approval : Approval) :
    (∃ fault, c.fetchRequest approval = .error fault) ∨
    ∃ r, c.fetchRequest approval = .ok r ∧
      ((∃ failure, c.completion? answers.respond before approval = some (.error failure)) ∨
        ∃ q name answer,
          c.completion? answers.respond before approval = some (.ok (q, name)) ∧
            answers.respond.reply? (before ++ [.request r]) q = some answer) := by
  cases asks : c.fetchRequest approval with
  | error fault => exact .inl ⟨fault, rfl⟩
  | ok r =>
    refine .inr ⟨r, rfl, ?_⟩
    by_cases fetched : ∀ failure, ¬ r.FetchFails (answers before r) failure
    · obtain ⟨q, name, completion⟩ := exists_completion asks fetched
      obtain ⟨answer, replied⟩ :=
        exists_reply (role_completion completion).1 (before ++ [.request r])
      exact .inr ⟨q, name, answer, completion, replied⟩
    · obtain ⟨failure, fails⟩ := by simpa using fetched
      exact .inl ⟨failure, (completion_refused asks).mpr fails⟩

theorem approve_confirmed (accepted : c.Accepts approval) (asks : c.fetchRequest approval = .ok r)
    (fetched : c.completion? answers.respond before approval = some (.ok (q, name)))
    (replied : answers.respond.reply? (before ++ [.request r]) q = some answer)
    (confirms : Confirms answer) :
    answers.approve before c approval =
      ⟨c.atStage .succeeded,
        [.request r, .request q, .page (.navigate (c.successTarget name))],
        some (.ok (.outcome (.success (c.successTarget name))))⟩ := by
  obtain ⟨step, concluded, ends⟩ := approve_concluded accepted asks fetched
  obtain rfl := concluded.of_confirms replied confirms
  exact ends

theorem approve_unconfirmed (accepted : c.Accepts approval)
    (asks : c.fetchRequest approval = .ok r)
    (fetched : c.completion? answers.respond before approval = some (.ok (q, name)))
    (replied : answers.respond.reply? (before ++ [.request r]) q = some answer)
    {detail : String} {fieldErrors? : Option FieldErrors}
    (unconfirmed : unconfirmed? answer = some (detail, fieldErrors?)) :
    answers.approve before c approval =
      ⟨c.atStage .failed, .request r :: c.reportCalls q detail
          (answers (before ++ [.request r, .request q]) (.reportError detail)).toOption,
        some (.ok (.outcome (.failure detail fieldErrors?)))⟩ := by
  obtain ⟨step, concluded, ends⟩ := approve_concluded accepted asks fetched
  have told : answers.respond (before ++ [.request r] ++ [.request q]) (.reportError detail) =
      some (answers (before ++ [.request r, .request q]) (.reportError detail)) := by
    rw [List.append_assoc]
    rfl
  have same := concluded.unconfirmed replied unconfirmed
  rw [told] at same
  rw [approve, ends, same]
  rfl

theorem completes_iff (accepted : c.Accepts approval) :
    answers.Completes before c approval r q answer ↔
      c.fetchRequest approval = .ok r ∧
        (∃ name, c.completion? answers.respond before approval = some (.ok (q, name))) ∧
        answers.respond.reply? (before ++ [.request r]) q = some answer := by
  unfold Completes
  refine and_congr_right fun asks => and_congr_left fun replied => ?_
  by_cases fetched : ∀ failure, ¬ r.FetchFails (answers before r) failure
  · obtain ⟨made, name, completion⟩ := exists_completion asks fetched
    obtain ⟨step, concluded, ends⟩ := approve_concluded accepted asks completion
    obtain ⟨⟨rest, first, -⟩, -⟩ := concluded.first
    simp [approve, ends, first, completion, eq_comm]
  · obtain ⟨failure, fails⟩ := by simpa using fetched
    have refused := (completion_refused asks).mpr fails
    simp [approve, approve_refused accepted asks refused, refused]

def Confirmed (answers : Answers) (before : List Call) (c : Checkout) (approval : Approval) : Prop :=
  ∃ r q answer, answers.Completes before c approval r q answer ∧ Confirms answer

theorem Completes.confirmed (completes : answers.Completes before c approval r q answer)
    (accepted : c.Accepts approval) (confirms : Confirms answer) :
    ∃ target, answers.approve before c approval =
      ⟨c.atStage .succeeded, [.request r, .request q, .page (.navigate target)],
        some (.ok (.outcome (.success target)))⟩ := by
  obtain ⟨asks, ⟨name, fetched⟩, replied⟩ := (completes_iff accepted).mp completes
  exact ⟨_, approve_confirmed accepted asks fetched replied confirms⟩

theorem Completes.unconfirmed (completes : answers.Completes before c approval r q answer)
    (accepted : c.Accepts approval) (unconfirmed : ¬ Confirms answer) :
    ∃ detail fieldErrors?, ReportedAs answer detail ∧
      (∀ errors, fieldErrors? = some errors ↔ Refuses answer errors) ∧
      answers.approve before c approval =
        ⟨c.atStage .failed, .request r :: c.reportCalls q detail
            (answers (before ++ [.request r, .request q]) (.reportError detail)).toOption,
          some (.ok (.outcome (.failure detail fieldErrors?)))⟩ := by
  obtain ⟨asks, ⟨name, fetched⟩, replied⟩ := (completes_iff accepted).mp completes
  obtain ⟨detail, fieldErrors?, told, reported, refuses⟩ := exists_unconfirmed unconfirmed
  exact ⟨detail, fieldErrors?, reported, refuses,
    approve_unconfirmed accepted asks fetched replied told⟩

theorem exists_completes (accepted : c.Accepts approval) (asks : c.fetchRequest approval = .ok r)
    (fetched : ∀ failure, ¬ r.FetchFails (answers before r) failure) :
    ∃ q answer, answers.Completes before c approval r q answer := by
  obtain ⟨q, name, completion⟩ := exists_completion asks fetched
  obtain ⟨answer, replied⟩ := exists_reply (role_completion completion).1 (before ++ [.request r])
  exact ⟨q, answer, (completes_iff accepted).mpr ⟨asks, ⟨name, completion⟩, replied⟩⟩

theorem navigate_not_mem_reportCalls {target detail : String} {fragment? : Option String} :
    .page (.navigate target) ∉ c.reportCalls q detail fragment? := by
  simp [reportCalls]

theorem filter_reportCalls {detail : String} {fragment? : Option String} :
    (c.reportCalls q detail fragment?).filter (fun call => call.role ≠ .rendering) =
      [.request q, .request (.reportError detail)].filter fun call => call.role ≠ .rendering := by
  cases fragment? <;> simp [reportCalls, List.filter_cons]

theorem failed_of_unconfirmed (accepted : c.Accepts approval)
    (unconfirmed : ¬ answers.Confirmed before c approval) :
    (answers.approve before c approval).checkout = c.atStage .failed ∧
      (∀ target, .page (.navigate target) ∉ (answers.approve before c approval).calls) ∧
      ∀ target, (answers.approve before c approval).result? ≠
        some (.ok (.outcome (.success target))) := by
  rcases answers.exists_way before c approval with ⟨fault, lacks⟩ | ⟨r, asks, way⟩
  · simp [approve, approve_planless accepted lacks]
  rcases way with ⟨failure, refused⟩ | ⟨q, name, answer, fetched, replied⟩
  · simp [approve, approve_refused accepted asks refused]
  · have completes : answers.Completes before c approval r q answer :=
      (completes_iff accepted).mpr ⟨asks, ⟨name, fetched⟩, replied⟩
    have declined : ¬ Confirms answer := fun confirms =>
      unconfirmed ⟨r, q, answer, completes, confirms⟩
    obtain ⟨detail, fieldErrors?, -, -, ends⟩ := completes.unconfirmed accepted declined
    simp [ends, navigate_not_mem_reportCalls]

/-- Answers that differ only in what reports of errors are answered with. -/
def AgreeButReports (answers others : Answers) : Prop :=
  ∀ before r, (Call.request r).role ≠ .report → answers before r = others before r

theorem AgreeButReports.completion {others : Answers} (agree : answers.AgreeButReports others) :
    c.completion? answers.respond before approval =
      c.completion? others.respond before approval := by
  cases kind : c.intent.kind with
  | oneTime =>
    have same := agree before (.capture approval.order) (by rintro ⟨⟩)
    simp [completion?, kind, respond, same]
  | recurring =>
    have same := agree before (.snapshot approval) (by rintro ⟨⟩)
    simp [completion?, kind, respond, same]

theorem AgreeButReports.reply {others : Answers} (agree : answers.AgreeButReports others)
    (before : List Call) (q : Request) :
    answers.respond.reply? before q = others.respond.reply? before q := by
  cases q with
  | completeOnce form => exact congrArg some (agree before (.completeOnce form) (by rintro ⟨⟩))
  | completePlan form => exact congrArg some (agree before (.completePlan form) (by rintro ⟨⟩))
  | _ => rfl

theorem AgreeButReports.approve {others : Answers} (agree : answers.AgreeButReports others)
    (accepted : c.Accepts approval) :
    (answers.approve before c approval).checkout = (others.approve before c approval).checkout ∧
      (answers.approve before c approval).result? = (others.approve before c approval).result? ∧
      (answers.approve before c approval).calls.filter (fun call => call.role ≠ .rendering) =
        (others.approve before c approval).calls.filter fun call => call.role ≠ .rendering := by
  rcases answers.exists_way before c approval with ⟨fault, lacks⟩ | ⟨r, asks, way⟩
  · simp [Answers.approve, approve_planless accepted lacks]
  rcases way with ⟨failure, refused⟩ | ⟨q, name, answer, fetched, replied⟩
  · have alike := agree.completion.symm.trans refused
    simp [Answers.approve, approve_refused accepted asks refused,
      approve_refused accepted asks alike]
  have alike := agree.completion.symm.trans fetched
  have answered := (agree.reply _ q).symm.trans replied
  by_cases confirms : Confirms answer
  · rw [approve_confirmed accepted asks fetched replied confirms,
      approve_confirmed accepted asks alike answered confirms]
    exact ⟨rfl, rfl, rfl⟩
  · obtain ⟨detail, fieldErrors?, told, -, -⟩ := exists_unconfirmed confirms
    rw [approve_unconfirmed accepted asks fetched replied told,
      approve_unconfirmed accepted asks alike answered told]
    refine ⟨rfl, rfl, ?_⟩
    rw [List.filter_cons, List.filter_cons, filter_reportCalls, filter_reportCalls]

/-- An approval that is accepted, with every request answered, goes one of these ways. Nothing more is
called for once its first request fails, or tells of no payment. Otherwise a completion is made. If
that is confirmed, the donation has succeeded and the page is left for the one target that is
returned; exactly then. If it is not, the donation has failed, and what is returned of the answer is
reported once. What answers that report is shown if it is a fragment, and changes nothing else. -/
theorem approve_outcomes (answers : Answers) (before : List Call) {c : Checkout}
    {approval : Approval} (accepted : c.Accepts approval) :
    (∀ fault, c.fetchRequest approval = .error fault → answers.approve before c approval =
      ⟨c.atStage .failed, [], some (.error (.setup fault))⟩) ∧
    (∀ r, c.fetchRequest approval = .ok r →
      (∀ failure, r.FetchFails (answers before r) failure → answers.approve before c approval =
        ⟨c.atStage .failed, [.request r], some (.error failure)⟩) ∧
      ((∀ failure, ¬ r.FetchFails (answers before r) failure) →
        ∃ q answer, answers.Completes before c approval r q answer)) ∧
    (∀ r q answer, answers.Completes before c approval r q answer →
      (Confirms answer → ∃ target, answers.approve before c approval =
        ⟨c.atStage .succeeded, [.request r, .request q, .page (.navigate target)],
          some (.ok (.outcome (.success target)))⟩) ∧
      (¬ Confirms answer → ∃ detail fieldErrors?, ReportedAs answer detail ∧
        (∀ errors, fieldErrors? = some errors ↔ Refuses answer errors) ∧
        answers.approve before c approval =
          ⟨c.atStage .failed, .request r :: c.reportCalls q detail
              (answers (before ++ [.request r, .request q]) (.reportError detail)).toOption,
            some (.ok (.outcome (.failure detail fieldErrors?)))⟩)) ∧
    ((∃ target, (answers.approve before c approval).result? =
      some (.ok (.outcome (.success target)))) ↔ answers.Confirmed before c approval) ∧
    ((∃ target, .page (.navigate target) ∈ (answers.approve before c approval).calls) ↔
      answers.Confirmed before c approval) ∧
    ((answers.approve before c approval).checkout.stage = .succeeded ↔
      answers.Confirmed before c approval) ∧
    ∀ others : Answers, answers.AgreeButReports others →
      (answers.approve before c approval).checkout = (others.approve before c approval).checkout ∧
      (answers.approve before c approval).result? = (others.approve before c approval).result? ∧
      (answers.approve before c approval).calls.filter (fun call => call.role ≠ .rendering) =
        (others.approve before c approval).calls.filter fun call => call.role ≠ .rendering := by
  have succeeds : answers.Confirmed before c approval → ∃ r q target,
      answers.approve before c approval =
        ⟨c.atStage .succeeded, [.request r, .request q, .page (.navigate target)],
          some (.ok (.outcome (.success target)))⟩ := by
    rintro ⟨r, q, answer, completes, confirms⟩
    exact ⟨r, q, completes.confirmed accepted confirms⟩
  have fails (unconfirmed : ¬ answers.Confirmed before c approval) :=
    failed_of_unconfirmed accepted unconfirmed
  refine ⟨fun fault lacks => approve_planless accepted lacks, fun r asks => ⟨fun failure fails => ?_,
    exists_completes accepted asks⟩, fun r q answer completes =>
      ⟨completes.confirmed accepted, completes.unconfirmed accepted⟩, ?_, ?_, ?_,
    fun others agree => agree.approve accepted⟩
  · exact approve_refused accepted asks ((completion_refused asks).mpr fails)
  · constructor
    · rintro ⟨target, success⟩
      by_contra unconfirmed
      exact (fails unconfirmed).2.2 target success
    · intro confirmed
      obtain ⟨r, q, target, ends⟩ := succeeds confirmed
      exact ⟨target, by rw [ends]⟩
  · constructor
    · rintro ⟨target, navigated⟩
      by_contra unconfirmed
      exact (fails unconfirmed).2.1 target navigated
    · intro confirmed
      obtain ⟨r, q, target, ends⟩ := succeeds confirmed
      exact ⟨target, by simp [ends]⟩
  · constructor
    · intro succeeded
      by_contra unconfirmed
      rw [(fails unconfirmed).1] at succeeded
      cases succeeded
    · intro confirmed
      obtain ⟨r, q, target, ends⟩ := succeeds confirmed
      rw [ends]
      rfl

def refusal : Reply := ⟨422, "\x7b\"donation\":\x7b\"email\":\"unknown\"\x7d\x7d"⟩

def refusedForm : Answers := fun before r =>
  match r with
  | .completeOnce _ => .ok refusal
  | .reportError _ => .error (.transport (.told "timed out"))
  | r => ((Session.usual .oneTime).respond before r).getD (.error (.transport (.told "closed")))

theorem refusedForm_approve : ∃ form errors, decode FieldErrors refusal.body = .ok errors ∧
    refusedForm.approve [] ((Session.usual .oneTime).checkout [.initiate]) ⟨⟨"O1"⟩, none⟩ =
      ⟨((Session.usual .oneTime).checkout [.initiate]).atStage .failed,
        [.request (.capture ⟨"O1"⟩), .request (.completeOnce form),
          .request (.reportError refusal.body)],
        some (.ok (.outcome (.failure refusal.body (some errors))))⟩ := by
  have accepted : ((Session.usual .oneTime).checkout [.initiate]).Accepts ⟨⟨"O1"⟩, none⟩ :=
    ⟨rfl, rfl⟩
  have completes : refusedForm.Completes [] ((Session.usual .oneTime).checkout [.initiate])
      ⟨⟨"O1"⟩, none⟩ (.capture ⟨"O1"⟩) (.completeOnce
        ⟨"O1", "25.00", "a@b.com", "PAYER1", "Ada", "Lovelace", "F1", "CAP1", none⟩)
      (.ok refusal) :=
    ⟨rfl, ⟨[.request (.reportError refusal.body)], rfl⟩, rfl⟩
  have declined : ¬ Confirms (.ok refusal) := by
    rw [confirms_iff]
    rintro ⟨reply, ⟨rfl⟩, success⟩
    cases success
  have decoded : decode FieldErrors refusal.body =
      .ok ⟨.ofList [("donation", .ofList [("email", "unknown")])]⟩ :=
    toOption_eq_some.mp (by decide +kernel)
  obtain ⟨detail, fieldErrors?, reported, refuses, ends⟩ :=
    ((approve_outcomes refusedForm [] accepted).2.2.1 _ _ _ completes).2 declined
  cases reported
  obtain rfl := (refuses _).mpr ⟨refusal, rfl, rfl, decoded⟩
  exact ⟨_, _, decoded, ends⟩

end Answers

end DonationPage
