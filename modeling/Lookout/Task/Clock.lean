/-!
# The clock

Times are counted in milliseconds. Nobody waits longer than thirty years at a time: who wants to
wait longer is woken after thirty years all the same.

* `clockReach` — how far the clock goes;
* `wakeTime` — when a wait is over.
-/

namespace Lookout

/-- No point in time lies as far ahead as this, in milliseconds. -/
def clockReach : Nat := 0x7FFFFFFFFFFFFFFF * 1000

/-- The longest wait: thirty years of 365 days, in milliseconds. -/
def longestWait : Nat := 30 * 365 * 24 * 60 * 60 * 1000

/-- When a wait is over that begins now. -/
def wakeTime (now delay : Nat) : Nat := now + min delay longestWait

end Lookout
