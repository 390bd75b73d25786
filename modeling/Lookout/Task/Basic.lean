import Lookout.Failure
import Lookout.Host.Metrics
import Lookout.Protocol.Envelope

/-!
# Tasks

A stream is fed by a task, a small machine that waits for one thing at a time: the answer of a
collaborator, a portion of bytes, a point in time, room for a message. `Wait` says what it waits
for, and `Notice` what it is told when that comes about; whether a message was queued it is told
apart, since only the queue can know. Cancellation is not the machine's business: whoever runs it
ends it, whatever it waits for.
-/

namespace Lookout

/-- What a byte stream yields. -/
inductive Portion where
  | bytes (bs : List UInt8)
  | ended
  /-- A failure, after which nothing comes. -/
  | failed
  deriving DecidableEq

/-- What a task waits for. -/
inductive Wait where
  /-- The daemon's answer to the request for a byte stream. -/
  | opened
  | portion
  /-- A point in time, in milliseconds. -/
  | time (due : Nat)
  | snapshot
  | room (e : Envelope)
  | sibling
  | turn
  | finished
  /-- Nothing: it broke down, and nobody will hear of its end. -/
  | broken

/-- What a task is told by its collaborators and the clock. -/
inductive Notice where
  /-- The daemon answered the request for a byte stream. -/
  | opened (r : Except Failure Unit)
  /-- A portion of the byte stream came. -/
  | portion (p : Portion)
  | time (now : Nat)
  | snapshot (r : Except Failure HostMetrics)

end Lookout
