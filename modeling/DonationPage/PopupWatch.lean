import DonationPage.Settings
/-! Waiting for the provider's window to close: it is looked at once at the start, and then once after
each period. -/
namespace DonationPage

inductive WatchFault where
  | zeroPeriod
  | tooManyPolls
  | stillOpen
deriving DecidableEq

def WatchFault.message : WatchFault → String
  | zeroPeriod => "`period` must be non-zero."
  | tooManyPolls => "attempt to add with overflow"
  | stillOpen => "the window is still open"

/-- How often the window was looked at, and what the timer was asked to wait in between, each time in
milliseconds. -/
structure Watch where
  polls : UInt32
  waits : List UInt64
deriving DecidableEq

/-- How many milliseconds pass when a timer is asked to wait for so many. -/
abbrev Timer := UInt64 → Nat

/-- A timer that waits for thirty years of 365 days at most. -/
def Timer.bounded : Timer := fun millis => min millis.toNat (30 * 365 * 24 * 60 * 60 * 1000)

def Watch.elapsedMillis (timer : Timer) (watch : Watch) : Nat :=
  watch.waits.foldr (fun millis later => timer millis + later) 0

structure PopupWatch where
  periodMillis : UInt64
deriving DecidableEq

namespace PopupWatch

def ofSettings (settings : Settings) : PopupWatch := ⟨settings.pollMillis⟩

/-- Looks at the window until it says that it is closed, and waits for the period after each look but
that one. The polls are counted in 32 bits. -/
def lookFrom (w : PopupWatch) (polls : UInt32) (waits : List UInt64) :
    List Bool → Except WatchFault Watch
  | [] => .error .stillOpen
  | closed :: answers =>
    if polls.toNat + 1 = UInt32.size then .error .tooManyPolls
    else if closed then .ok ⟨polls + 1, waits⟩
    else w.lookFrom (polls + 1) (w.periodMillis :: waits) answers

def wait (w : PopupWatch) (answers : List Bool) : Except WatchFault Watch :=
  if w.periodMillis = 0 then .error .zeroPeriod else w.lookFrom 0 [] answers

end PopupWatch

end DonationPage
