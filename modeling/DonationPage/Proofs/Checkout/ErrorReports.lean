import DonationPage.Proofs.Checkout.CompletionForms
import DonationPage.Proofs.Origin.Posts
import DonationPage.Proofs.Url.Behind
/-! What becomes of a donation that the origin does not confirm. The text of its reply is posted back
to it, once and unchanged, and the page shows what the origin answers to that, if it answers well. -/
namespace DonationPage

namespace Checkout

variable {respond : Respondent} {before : List Call} {c : Checkout} {q : Request} {name : String}
  {step : Step Outcome}

/-- The two requests of a completion that is not confirmed, and the fragment that is shown then. -/
def reportCalls (c : Checkout) (q : Request) (detail : String) (fragment? : Option String) :
    List Call :=
  .request q :: .request (.reportError detail) ::
    (fragment?.toList.map fun html => .render c.settings.errorTarget html).map .page

theorem Conclusion.unconfirmed {answer : Except Failure Reply} {detail : String}
    {fieldErrors? : Option FieldErrors} (concluded : Conclusion respond before c q name step)
    (replied : respond.reply? before q = some answer)
    (unconfirmed : unconfirmed? answer = some (detail, fieldErrors?)) :
    step = match respond (before ++ [.request q]) (.reportError detail) with
      | none => ⟨c.atStage .completing, c.reportCalls q detail none, none⟩
      | some told => ⟨c.atStage .failed, c.reportCalls q detail told.toOption,
          some (.ok (.failure detail fieldErrors?))⟩ := by
  cases concluded with
  | unanswered never =>
    rw [never] at replied
    cases replied
  | confirmed confirmation success =>
    cases confirmation.symm.trans replied
    simp [unconfirmed?, success] at unconfirmed
  | unreported other reason never =>
    cases other.symm.trans replied
    cases reason.symm.trans unconfirmed
    rw [never]
    rfl
  | reportFailed other reason told =>
    cases other.symm.trans replied
    cases reason.symm.trans unconfirmed
    rw [told]
    rfl
  | reported other reason told =>
    cases other.symm.trans replied
    cases reason.symm.trans unconfirmed
    rw [told]
    rfl

theorem Conclusion.cut {r : Request} {earlier later : List Call}
    (concluded : Conclusion respond before c q name step)
    (fetches : (Call.request r).role = .fetch) (completes : (Call.request q).role = .completion)
    (calls : .request r :: step.calls = earlier ++ .request q :: later) :
    earlier = [.request r] ∧ step.calls = .request q :: later := by
  obtain ⟨⟨rest, first, others⟩, -⟩ := concluded.first
  rw [first] at calls ⊢
  cases earlier with
  | nil =>
    injection calls with same
    rw [← same, fetches] at completes
    cases completes
  | cons call earlier =>
    rw [List.cons_append] at calls
    injection calls with same calls
    cases earlier with
    | nil =>
      rw [same]
      exact ⟨rfl, calls⟩
    | cons call earlier =>
      rw [List.cons_append] at calls
      injection calls with same calls
      have again : Call.request q ∈ rest := by simp [calls]
      exact absurd completes (others _ again)

end Checkout

def pageCommands (calls : List Call) : List PageCommand :=
  calls.filterMap fun call =>
    match call with
    | .page command => some command
    | .request _ => none

theorem pageCommands_reportCalls (c : Checkout) (q : Request) (detail : String)
    (fragment? : Option String) : pageCommands (c.reportCalls q detail fragment?) =
      fragment?.toList.map (.render c.settings.errorTarget) := by
  cases fragment? <;> rfl

namespace Origin

/-- The fragment that the origin answers a report with, unless it rejects the report. -/
def fragment? : Except TransportFault RawReply → Option String
  | .error _ => none
  | .ok raw => (raw.toReply?.filter Reply.isSuccess).map Reply.body

theorem conclude_reportError (settings : Settings) (text : String)
    (brought : Except TransportFault RawReply) :
    ((reportError settings text).conclude brought).toOption = fragment? brought := by
  unfold OriginCall.conclude OriginCall.reply
  cases brought with
  | error fault => rfl
  | ok raw =>
    cases received : raw.toReply? with
    | none => simp [fragment?, received, Except.toOption]
    | some reply =>
      by_cases success : reply.isSuccess = true
      all_goals simp [fragment?, received, reportError, acceptFragment, success, Option.filter,
        Except.toOption]

variable {settings : Settings}
  {network : List Call → FormPost → Option (Except TransportFault RawReply)}
  {provider : Respondent} {before : List Call}

theorem reply_respondent {q : Request} {post : FormPost} {raw : RawReply} {reply : Reply}
    (completes : (Call.request q).role = .completion)
    (posted : posts settings [.request q] = [post])
    (brought : network before post = some (.ok raw)) (received : raw.toReply? = some reply) :
    (respondent settings network provider).reply? before q = some (.ok reply) := by
  cases q with
  | completeOnce form =>
    cases posted
    have answered := conclude_of_received (completeOnce settings form) received
    exact (congrArg (Option.map _) brought).trans (congrArg some answered)
  | completePlan form =>
    cases posted
    have answered := conclude_of_received (completePlan settings form) received
    exact (congrArg (Option.map _) brought).trans (congrArg some answered)
  | _ => cases completes

theorem exists_completionPath {q : Request} {post : FormPost}
    (completes : (Call.request q).role = .completion)
    (posted : posts settings [.request q] = [post]) :
    ∃ path ∈ ["/donation/once/complete", settings.planPath], post.url = settings.origin ++ path := by
  cases q with
  | completeOnce form =>
    cases posted
    exact ⟨_, List.mem_cons_self, rfl⟩
  | completePlan form =>
    cases posted
    exact ⟨_, List.mem_cons_of_mem _ List.mem_cons_self, rfl⟩
  | _ => cases completes

theorem posts_of_fetch {r : Request} (fetches : (Call.request r).role = .fetch) :
    posts settings [.request r] = [] := by
  cases r with
  | capture | snapshot => rfl
  | _ => cases fetches

def reportPost (settings : Settings) (text : String) : FormPost := (reportError settings text).post

theorem respondent_reportError (text : String) :
    respondent settings network provider before (.reportError text) =
      (network before (reportPost settings text)).map (reportError settings text).conclude := rfl

theorem posts_report (settings : Settings) (text : String) (shown : List PageCommand) :
    posts settings (.request (.reportError text) :: shown.map .page) =
      [reportPost settings text] := by
  have none : posts settings (shown.map .page) = [] := by
    rw [posts, List.filterMap_eq_nil_iff]
    intro call member
    obtain ⟨command, -, rfl⟩ := List.mem_map.mp member
    rfl
  rw [posts_cons, none]
  rfl

/-- A report can be sent to an origin that a completion could be sent to. -/
theorem exists_reportPlace {q : Request} {post : FormPost} {url : HttpUrl}
    (completes : (Call.request q).role = .completion)
    (posted : posts settings [.request q] = [post])
    (destined : HttpUrl.destination post.url = .ok url)
    (known : settings.planPath ∈ [Settings.defaultPlanPath, Settings.formerPlanPath])
    (text : String) : ∃ place, HttpUrl.destination (reportPost settings text).url = .ok place := by
  obtain ⟨path, among, behind⟩ := exists_completionPath completes posted
  have served : path ∈ originPaths := by
    simp only [originPaths, List.mem_cons, List.not_mem_nil, or_false] at among known ⊢
    grind
  rw [behind] at destined
  exact HttpUrl.destination_error served destined

theorem sent_report {text : String} {place : HttpUrl}
    (found : HttpUrl.destination (reportPost settings text).url = .ok place)
    (shown : List PageCommand) :
    sent settings (.request (.reportError text) :: shown.map .page) =
      [⟨"POST", place, "application/x-www-form-urlencoded", some "true",
        (reportPost settings text).body⟩] := by
  rw [sent, posts_report, List.flatMap_singleton, FormPost.sent_of_destination found]
  rfl

end Origin

theorem Checkout.Conclusion.declined {settings : Settings} {provider : Respondent}
    {network : List Call → FormPost → Option (Except TransportFault RawReply)}
    {before : List Call} {c : Checkout} {q : Request} {name : String} {step : Step Outcome}
    {reply : Reply}
    (concluded : Conclusion (Origin.respondent settings network provider) before c q name step)
    (replied : (Origin.respondent settings network provider).reply? before q = some (.ok reply))
    (declined : reply.isSuccess = false) :
    step = match network (before ++ [.request q]) (Origin.reportPost settings reply.body) with
      | none => ⟨c.atStage .completing, c.reportCalls q reply.body none, none⟩
      | some answer => ⟨c.atStage .failed, c.reportCalls q reply.body (Origin.fragment? answer),
          some (.ok (.failure reply.body reply.fieldErrors?))⟩ := by
  have reason : unconfirmed? (.ok reply) = some (reply.body, reply.fieldErrors?) := by
    simp [unconfirmed?, declined]
  have ends := concluded.unconfirmed replied reason
  rw [Origin.respondent_reportError] at ends
  cases answered : network (before ++ [.request q])
      (Origin.reportPost settings reply.body) with
  | none =>
    rw [answered] at ends
    exact ends
  | some answer =>
    rw [answered, Option.map_some] at ends
    dsimp only at ends
    rwa [Origin.conclude_reportError] at ends

namespace Session

variable {s : Session} {provider : Respondent}
  {network : List Call → FormPost → Option (Except TransportFault RawReply)}

/-- Where the origin answers a completion by anything but a confirmation, the text of its reply is
posted to its path for errors, for a part of the page, and nothing else is posted then. The report can
be sent, as one message, since the completion could. The donation has failed for that reason, however
the post is answered, and the page shows the fragment that answers it, if one does, and is told nothing
else. -/
theorem declined_reported {ops : List Operation} {op : Operation} {q : Request}
    {earlier later : List Call} {post : FormPost} {raw : RawReply} {reply : Reply}
    (online : s.respond = Origin.respondent s.settings network provider)
    (calls : (s.next ops op).calls = earlier ++ .request q :: later)
    (completes : (Call.request q).role = .completion)
    (posted : Origin.posts s.settings [.request q] = [post])
    (brought : network (s.calls ops ++ earlier) post = some (.ok raw))
    (received : raw.toReply? = some reply) (declined : reply.isSuccess = false) :
    ∃ report, report.url = s.settings.origin ++ "/error" ∧ report.hxRequest? = some "true" ∧
      decodeForm report.body = [("error", reply.body)] ∧
      Origin.posts s.settings later = [report] ∧
      Origin.posts s.settings (s.next ops op).calls = [post, report] ∧
      (∀ url, HttpUrl.destination post.url = .ok url →
        s.settings.planPath ∈ [Settings.defaultPlanPath, Settings.formerPlanPath] →
        ∃ place, HttpUrl.destination report.url = .ok place ∧
          Origin.sent s.settings later = [⟨"POST", place, "application/x-www-form-urlencoded",
            some "true", report.body⟩]) ∧
      match network (s.calls ops ++ earlier ++ [.request q]) report with
      | none => (s.next ops op).result? = none ∧ pageCommands (s.next ops op).calls = []
      | some answer =>
        (s.next ops op).result? =
          some (.ok (.outcome (.failure reply.body reply.fieldErrors?))) ∧
        pageCommands (s.next ops op).calls =
          (Origin.fragment? answer).toList.map (.render s.settings.errorTarget) := by
  have made : .request q ∈ (s.next ops op).calls := by simp [calls]
  obtain ⟨approval, r, name, step, -, -, asks, -, concluded, same⟩ :=
    (s.move_next ops op).concluded made completes
  have fetches : (Call.request r).role = .fetch := (Checkout.role_fetchRequest asks).1
  rw [same] at calls ⊢
  obtain ⟨rfl, rest⟩ := concluded.cut fetches completes calls
  rw [online] at concluded
  have ends := concluded.declined
    (Origin.reply_respondent completes posted brought received) declined
  obtain ⟨shown, reported⟩ : ∃ shown, step.calls =
      (s.checkout ops).reportCalls q reply.body shown := by
    rw [ends]
    split <;> exact ⟨_, rfl⟩
  cases rest.symm.trans reported
  refine ⟨Origin.reportPost s.settings reply.body, rfl, rfl, decodeForm_encodeForm _,
    Origin.posts_report _ _ _, ?_, ?_, ?_⟩
  · rw [Step.map_calls, Step.after_calls, rest, Origin.posts_cons, Origin.posts_of_fetch fetches,
      Origin.posts_cons, posted, Origin.posts_report]
    rfl
  · intro url destined known
    obtain ⟨place, found⟩ := Origin.exists_reportPlace completes posted destined known reply.body
    exact ⟨place, found, Origin.sent_report found _⟩
  · rw [ends]
    cases network (s.calls ops ++ [.request r] ++ [.request q])
        (Origin.reportPost s.settings reply.body) with
    | none => exact ⟨rfl, rfl⟩
    | some answer =>
      have pages := pageCommands_reportCalls (s.checkout ops) q reply.body
        (Origin.fragment? answer)
      rw [(s.same ops).2] at pages
      exact ⟨rfl, pages⟩

def decliningNetwork : List Call → FormPost → Option (Except TransportFault RawReply) :=
  fun _ post => some <| .ok <|
    if post.fromPage then ⟨200, utf8Encode "<p>Sorry</p>".toList⟩
    else ⟨500, utf8Encode "plan=P7 & 100%+é\n".toList⟩

def declinedPledge : Session where
  intent := (usual .recurring).intent
  settings := .ofOrigin "http://origin.test"
  respond := Origin.respondent (.ofOrigin "http://origin.test") decliningNetwork
    (usual .recurring).respond

theorem declinedPledge_reported :
    ∃ report : FormPost, report.url = "http://origin.test/error" ∧
      report.hxRequest? = some "true" ∧
      decodeForm report.body = [("error", "plan=P7 & 100%+é\n")] ∧
      (∃ place, HttpUrl.destination report.url = .ok place ∧
        Origin.sent declinedPledge.settings
          ((declinedPledge.next [.initiate] (.approve ⟨⟨"T2"⟩, some "I-SUB1"⟩)).calls.drop 2) =
          [⟨"POST", place, "application/x-www-form-urlencoded", some "true", report.body⟩]) ∧
      (declinedPledge.next [.initiate] (.approve ⟨⟨"T2"⟩, some "I-SUB1"⟩)).result? =
        some (.ok (.outcome (.failure "plan=P7 & 100%+é\n" none))) ∧
      pageCommands (declinedPledge.next [.initiate] (.approve ⟨⟨"T2"⟩, some "I-SUB1"⟩)).calls =
        [.render "#donation" "<p>Sorry</p>"] := by
  have online : declinedPledge.respond = Origin.respondent declinedPledge.settings
      decliningNetwork (usual .recurring).respond := rfl
  have calls : (declinedPledge.next [.initiate] (.approve ⟨⟨"T2"⟩, some "I-SUB1"⟩)).calls =
      [.request (.snapshot ⟨⟨"T2"⟩, some "I-SUB1"⟩)] ++
        .request (.completePlan ⟨"T2", "P-123", "I-SUB1", "I-SUB1", "P7", "10.00", "sub@b.com",
          "PAYER2", "Grace", "Hopper", "F1", none⟩) :: _ := rfl
  have received : RawReply.toReply? ⟨500, utf8Encode "plan=P7 & 100%+é\n".toList⟩ =
      some ⟨500, "plan=P7 & 100%+é\n"⟩ := by decide
  have completed : HttpUrl.destination "http://origin.test/donation/plan/complete" =
      .ok ⟨false, .name ["origin".toList, "test".toList], 80, "/donation/plan/complete", none⟩ := by
    decide +kernel
  obtain ⟨report, url, asked, body, -, -, sent, answered⟩ :=
    declined_reported online calls rfl rfl rfl received rfl
  have fromPage : report.fromPage = true := by
    simpa [FormPost.hxRequest?] using asked
  have shown : Origin.fragment? (.ok ⟨200, utf8Encode "<p>Sorry</p>".toList⟩) =
      some "<p>Sorry</p>" := by decide
  simp only [decliningNetwork, fromPage, ↓reduceIte, shown] at answered
  obtain ⟨result, pages⟩ := answered
  exact ⟨report, url, asked, body, sent _ completed (by decide), result, pages⟩

end Session

end DonationPage
