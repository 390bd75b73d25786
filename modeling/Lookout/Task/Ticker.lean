import Lookout.Task.Clock

/-!
# Tickers

A ticker is due once every period. A tick that is taken late puts the next one off: it is due one
period after the tick was taken, not after it should have been. Up to five milliseconds do not count
as late. After a tick that was taken in time the next one is due in `longestWait` at the latest.
-/

namespace Lookout

/-- How late a tick may be taken without putting the next one off, in milliseconds. -/
def tickTolerance : Nat := 5

/-- Whether a ticker can be set whose first tick is due one period from now. -/
def canTick (period : Nat) : Bool := 0 < period && period < clockReach

/-- A ticker. -/
structure Ticker where
  /-- When the next tick is due, in milliseconds. -/
  due : Nat
  period : Nat
  deriving DecidableEq

/-- The ticker after its tick was taken. -/
def Ticker.tick (t : Ticker) (now : Nat) : Ticker :=
  -- A tick that was taken late starts the period anew; one in time keeps the beat.
  let due :=
    if t.due + tickTolerance < now then now + t.period
    else if t.period ≤ longestWait then t.due + t.period
    else now + longestWait
  { t with due }

end Lookout
