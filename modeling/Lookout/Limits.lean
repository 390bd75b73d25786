/-!
# Limits of a connection's streams

How many streams of a kind one connection may have, and how often the periodic ones may push.
-/

namespace Lookout

/-- The limits of a connection's streams. -/
structure Limits where
  /-- How many containers' output may be followed at once. -/
  maxLogStreams : UInt64 := 3
  /-- How many containers may be sampled at once. -/
  maxStatsStreams : UInt64 := 3
  /-- The seconds between two messages when the client does not ask for a time, or for less than one
  second. -/
  defaultInterval : UInt64 := 3
  /-- The most seconds between two messages. -/
  maxInterval : UInt64 := 30
  /-- How many lines of a container's past output are sent first. -/
  logTail : UInt64 := 50
  /-- The longest log frame that is not skipped, in bytes. -/
  maxLogFrame : UInt64 := 1048576
  deriving DecidableEq

namespace Limits

/-- The seconds between two messages for what the client asked. -/
def interval (l : Limits) (requested : Option Int64) : Nat :=
  match requested with
  | none => l.defaultInterval.toNat
  | some n =>
    -- A wish below one second is no wish, one above the greatest is cut.
    if 1 ≤ n.toInt then min n.toInt.toNat l.maxInterval.toNat else l.defaultInterval.toNat

/-- The same in milliseconds, which tickers count in. -/
def intervalMillis (l : Limits) (requested : Option Int64) : Nat :=
  l.interval requested * 1000

end Limits

end Lookout
