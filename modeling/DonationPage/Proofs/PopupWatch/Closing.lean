import DonationPage.PopupWatch
import DonationPage.Proofs.Settings.Origin
import Mathlib.Data.Option.Basic
/-! A watch of the provider's window until it is closed. Settings that are accepted give it a period.
It asks the window once more than it waits for a period, and not again once the window is closed. -/
namespace DonationPage

abbrev Window := Nat → Bool

namespace Window

def answers (window : Window) (asked : Nat) : List Bool := (List.range asked).map window

/-- The window is open so many times that it is asked, and closed the next time. -/
structure ClosesAfter (window : Window) (opens : Nat) : Prop where
  opened : ∀ i < opens, window i = false
  closed : window opens = true

variable {window : Window} {opens asked : Nat}

theorem answers_of_opened (opened : ∀ i < asked, window i = false) :
    window.answers asked = List.replicate asked false := by
  rw [answers, List.eq_replicate_iff]
  refine ⟨by simp, fun answer member => ?_⟩
  obtain ⟨i, inside, rfl⟩ := List.mem_map.mp member
  exact opened i (List.mem_range.mp inside)

theorem ClosesAfter.exists_answers (closes : window.ClosesAfter opens) (more : opens < asked) :
    ∃ later, window.answers asked = List.replicate opens false ++ true :: later := by
  obtain ⟨further, rfl⟩ := Nat.exists_eq_add_of_lt more
  have first := answers_of_opened closes.opened
  unfold answers at first ⊢
  rw [Nat.add_assoc, List.range_add, List.map_append, first, List.range_succ_eq_map, List.map_cons,
    List.map_cons, Nat.add_zero, closes.closed]
  exact ⟨_, rfl⟩

end Window

namespace Settings

theorem pollPeriod_ne_zero {text : String} {n : UInt64} (period : pollPeriod? text = some n) :
    n ≠ 0 := by
  obtain ⟨⟨⟩, -, rest⟩ := Option.bind_eq_some_iff.mp period
  obtain ⟨⟨⟩, checked, made⟩ := Option.bind_eq_some_iff.mp rest
  obtain ⟨positive, bounded⟩ := (Option.guard_eq_some' _).mp checked
  rintro rfl
  have value := congrArg UInt64.toNat (Option.some.inj made)
  rw [UInt64.toNat_ofNat_of_lt' bounded] at value
  exact Nat.ne_of_gt positive value

theorem pollMillis_ne_zero {lookup : Lookup} {s : Settings} (accepted : ofLookup lookup = .ok s) :
    s.pollMillis ≠ 0 := by
  obtain ⟨-, -, -, -, -, poll, -⟩ := ofLookup_eq_ok.mp accepted
  unfold pollMillisOf at poll
  split at poll
  · rw [← Except.ok.inj poll]
    decide
  · split at poll
    · next period =>
      rw [← Except.ok.inj poll]
      exact pollPeriod_ne_zero period
    · cases poll

end Settings

namespace PopupWatch

variable {polls : UInt32} {opens : Nat}

theorem toNat_nextPoll (counted : polls.toNat + 1 < UInt32.size) :
    (polls + 1).toNat = polls.toNat + 1 := by
  rw [UInt32.toNat_add, UInt32.toNat_one]
  exact Nat.mod_eq_of_lt counted

section Looks

variable {w : PopupWatch}

theorem lookFrom_open (counted : polls.toNat + 1 < UInt32.size) (waits : List UInt64)
    (answers : List Bool) : w.lookFrom polls waits (false :: answers) =
      w.lookFrom (polls + 1) (w.periodMillis :: waits) answers := by
  rw [lookFrom, if_neg (Nat.ne_of_lt counted), if_neg Bool.false_ne_true]

theorem lookFrom_closed (counted : polls.toNat + 1 < UInt32.size) (waits : List UInt64)
    (answers : List Bool) : w.lookFrom polls waits (true :: answers) = .ok ⟨polls + 1, waits⟩ := by
  rw [lookFrom, if_neg (Nat.ne_of_lt counted), if_pos rfl]

theorem exists_lookFrom_opens (counted : polls.toNat + opens < UInt32.size)
    (waits : List UInt64) : ∃ last : UInt32, last.toNat = polls.toNat + opens ∧ ∀ answers,
      w.lookFrom polls waits (List.replicate opens false ++ answers) =
        w.lookFrom last (List.replicate opens w.periodMillis ++ waits) answers := by
  induction opens generalizing polls waits with
  | zero => exact ⟨polls, rfl, fun answers => rfl⟩
  | succ opens ih =>
    have next : (polls + 1).toNat = polls.toNat + 1 := toNat_nextPoll (by omega)
    have later : (polls + 1).toNat + opens < UInt32.size := by omega
    obtain ⟨last, count, looks⟩ := ih later (w.periodMillis :: waits)
    refine ⟨last, by omega, fun answers => ?_⟩
    rw [List.replicate_succ, List.cons_append, lookFrom_open (by omega), looks,
      List.replicate_succ', List.append_assoc, List.singleton_append]

theorem lookFrom_ne_zeroPeriod (polls : UInt32) (waits : List UInt64) (answers : List Bool) :
    w.lookFrom polls waits answers ≠ .error .zeroPeriod := by
  fun_induction lookFrom w polls waits answers with
  | case1 => exact nofun
  | case2 => exact nofun
  | case3 => exact nofun
  | case4 polls waits closed answers counted other ih => exact ih

end Looks

theorem elapsedMillis_replicate {timer : Timer} {period : UInt64}
    (punctual : timer period = period.toNat) (polls : UInt32) (n : Nat) :
    Watch.elapsedMillis timer ⟨polls, List.replicate n period⟩ = n * period.toNat := by
  rw [Watch.elapsedMillis]
  induction n with
  | zero => simp
  | succ n ih => rw [List.replicate_succ, List.foldr_cons, ih, punctual, Nat.succ_mul, Nat.add_comm]

variable {lookup : Lookup} {settings : Settings} {window : Window}

theorem wait_ofSettings (accepted : Settings.ofLookup lookup = .ok settings)
    (answers : List Bool) :
    (ofSettings settings).wait answers = (ofSettings settings).lookFrom 0 [] answers := by
  have period : (ofSettings settings).periodMillis ≠ 0 := Settings.pollMillis_ne_zero accepted
  rw [wait, if_neg period]

/-- Under settings that are accepted, a window that is closed after so many answers is asked that
often and once more: with fewer answers the watch goes on, and those after are not looked at. The
watch then ends with the number of its polls, which 32 bits are to hold. After each of the polls but
the last it has waited for the period of the settings, so it has taken that many periods by a timer
that waits for as long as it is asked to. The period is never zero, whatever the window answers. -/
theorem wait_closes (accepted : Settings.ofLookup lookup = .ok settings)
    (closes : window.ClosesAfter opens) (counted : opens + 1 < UInt32.size) :
    (∀ answers, (ofSettings settings).wait answers ≠ .error .zeroPeriod) ∧
    ∃ watch : Watch, watch.polls.toNat = opens + 1 ∧
      watch.waits = List.replicate opens settings.pollMillis ∧
      (∀ timer : Timer, timer settings.pollMillis = settings.pollMillis.toNat →
        watch.elapsedMillis timer = opens * settings.pollMillis.toNat) ∧
      (∀ asked ≤ opens, (ofSettings settings).wait (window.answers asked) = .error .stillOpen) ∧
      ∀ asked > opens, (ofSettings settings).wait (window.answers asked) = .ok watch := by
  simp only [wait_ofSettings accepted]
  have start {k : Nat} (few : k ≤ opens) : (0 : UInt32).toNat + k < UInt32.size := by
    rw [UInt32.toNat_zero]
    omega
  obtain ⟨last, count, looks⟩ :=
    exists_lookFrom_opens (w := ofSettings settings) (start (Nat.le_refl opens)) []
  rw [UInt32.toNat_zero, Nat.zero_add] at count
  rw [List.append_nil] at looks
  have room : last.toNat + 1 < UInt32.size := by omega
  refine ⟨lookFrom_ne_zeroPeriod 0 [], ⟨last + 1, List.replicate opens settings.pollMillis⟩, ?_, rfl,
    fun timer punctual => elapsedMillis_replicate punctual _ opens, fun asked few => ?_,
    fun asked more => ?_⟩
  · rw [toNat_nextPoll room, count]
  · obtain ⟨_, -, looks⟩ := exists_lookFrom_opens (w := ofSettings settings) (start few) []
    have opened : ∀ i < asked, window i = false := fun i inside =>
      closes.opened i (Nat.lt_of_lt_of_le inside few)
    have goesOn := looks []
    rw [List.append_nil] at goesOn
    rw [Window.answers_of_opened opened, goesOn]
    rfl
  · obtain ⟨later, told⟩ := closes.exists_answers more
    rw [told, looks, lookFrom_closed room]
    rfl

def sevenMillis : Lookup :=
  .ofList [("DONATION_ORIGIN_URL", "http://origin.test/"), ("DONATION_POPUP_POLL_MS", "+007")]

def thirdTime : Window := (· == 2)

theorem thirdTime_closes : ∃ settings, Settings.ofLookup sevenMillis = .ok settings ∧
    settings.pollMillis = 7 ∧ thirdTime.ClosesAfter 2 ∧
    ∃ watch : Watch, watch.polls.toNat = 3 ∧ watch.waits = [7, 7] ∧
      watch.elapsedMillis .bounded = 14 ∧
      (∀ asked ≤ 2, (ofSettings settings).wait (thirdTime.answers asked) = .error .stillOpen) ∧
      ∀ asked > 2, (ofSettings settings).wait (thirdTime.answers asked) = .ok watch := by
  have accepted : Settings.ofLookup sevenMillis = .ok ⟨"http://origin.test", "/donation/success",
    "/donation/plan/complete", "#donation", 7⟩ := rfl
  have closes : thirdTime.ClosesAfter 2 := ⟨by decide, rfl⟩
  obtain ⟨-, watch, polls, waits, takes, goesOn, ends⟩ := wait_closes accepted closes (by decide)
  exact ⟨_, accepted, rfl, closes, watch, polls, waits, takes .bounded rfl, goesOn, ends⟩

end PopupWatch

end DonationPage
