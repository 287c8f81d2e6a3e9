import DonationPage.Proofs.Checkout.Redirects
import DonationPage.Proofs.Settings.Origin
import DonationPage.Proofs.Url.Parameters
/-! The donor's given name as a parameter of the page that a redirect goes to. The query with the name
is put behind the success path whatever that is, and a success path is only checked to start at the
root. -/
namespace DonationPage.Session

/-- The name is read from every redirect exactly where the success path has no query and no fragment
of its own. -/
theorem redirect_parameter_iff (lookup : Lookup) :
    (∀ (s : Session) (ops : List Operation) (op : Operation) (target : String),
      Settings.ofLookup lookup = .ok s.settings → s.Redirects ops op target →
        ∃ name, s.givenName? ops op = some name ∧ ("name", name) ∈ urlParameters target) ↔
    ∀ settings, Settings.ofLookup lookup = .ok settings →
      ∀ path, path = (lookup "DONATION_SUCCESS_PATH").getD "/donation/success" →
        '?' ∉ path.toList ∧ '#' ∉ path.toList := by
  constructor
  · rintro named settings accepted path rfl
    obtain ⟨_, -, -, success, -⟩ := Settings.ofLookup_eq_ok.mp accepted
    rw [← Settings.rootedPath_eq_ok success]
    by_contra lost
    have lost : '?' ∈ settings.successPath.toList ∨ '#' ∈ settings.successPath.toList := by tauto
    obtain ⟨name, absent⟩ := exists_name_lost lost
    obtain ⟨redirects, told⟩ := paidBy_redirects settings name
    obtain ⟨same, given, member⟩ := named (paidBy settings name) _ _ _ accepted redirects
    cases told.symm.trans given
    exact absent member
  · rintro free s ops op target accepted redirects
    obtain ⟨_, -, -, success, -⟩ := Settings.ofLookup_eq_ok.mp accepted
    obtain ⟨mark, hash⟩ := free _ accepted _ (Settings.rootedPath_eq_ok success)
    obtain ⟨name, told, rfl, -⟩ := redirects.eq
    have read := urlParameters_withName name mark hash
    exact ⟨name, told, read ▸ List.mem_singleton_self _⟩

theorem queried_redirect :
    ∃ settings target, Settings.ofLookup (.ofList [("DONATION_ORIGIN_URL", "http://origin.test"),
        ("DONATION_SUCCESS_PATH", "/donation/success?lang=en")]) = .ok settings ∧
      (paidBy settings "Ada").Redirects [.initiate] (.approve ⟨⟨"O1"⟩, none⟩) target ∧
      (paidBy settings "Ada").givenName? [.initiate] (.approve ⟨⟨"O1"⟩, none⟩) = some "Ada" ∧
      target = "/donation/success?lang=en?name=Ada" ∧
      urlParameters target = [("lang", "en?name=Ada")] := by
  refine ⟨⟨"http://origin.test", "/donation/success?lang=en", "/donation/plan/complete",
    "#donation", 500⟩, "/donation/success?lang=en?name=Ada", rfl, ?_⟩
  exact ⟨(paidBy_redirects _ "Ada").1, rfl, rfl, by decide +kernel⟩

end DonationPage.Session
