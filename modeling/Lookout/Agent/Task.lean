import Lookout.Agent.Cancellation
import Lookout.Agent.Hub
import Lookout.Agent.Session
import Lookout.Task.LogFollower
import Lookout.Task.MetricsSampler
import Lookout.Task.StatsFeed

/-!
# The tasks of a session

Every subscription but that to events has a task of its own. The three kinds of tasks are driven
alike: each says what it waits for, goes on when it can, and is told what it waited for.

Tokens follow the same shape. Below the agent's token each connection has one, below that each
subscription, and below that the reader of a sampled container's byte stream, which ends when its
sender does.
-/

namespace Lookout

/-! ### Tokens -/

/-- The token of a connection's session. -/
def sessionToken (conn : ConnId) : Token := Token.root.child conn

/-- The token of a subscription. It is used once, since no two subscriptions have one generation. -/
def subscriptionToken (conn : ConnId) (generation : Nat) : Token :=
  (sessionToken conn).child generation

/-- The token of the reader that belongs to a subscription. -/
def readerToken (conn : ConnId) (generation : Nat) : Token :=
  (subscriptionToken conn generation).child 0

/-! ### Tasks -/

/-- What feeds a subscription. -/
inductive TaskBody where
  | logs (t : LogFollower)
  | metrics (t : MetricsSampler)
  | stats (t : StatsFeed)
  deriving DecidableEq

namespace TaskBody

/-- The task of a new subscription. Events need none, and a sampler cannot begin without a time
between its ticks. -/
def ofStream (limits : Limits) (stream : Stream) (interval : Option Int64) (now : Nat) :
    Option TaskBody :=
  match stream with
  | .metrics =>
    let period := limits.intervalMillis interval
    -- A ticker without a period breaks the task before it begins.
    if period = 0 then none else some (.metrics (.start now period))
  -- The hub offers events to the connection itself.
  | .events => none
  | .logs id => some (.logs { containerId := id, maxFrame := limits.maxLogFrame.toNat })
  | .containerStats id =>
    some (.stats { containerId := id, period := limits.intervalMillis interval })

/-- What the task waits for. This is all that decides whether it can go on. -/
def wait : TaskBody → Wait
  | logs t => t.wait
  | metrics t => t.wait
  | stats t => t.wait

/-- The task after it was told something. -/
def resume (n : Notice) : TaskBody → TaskBody
  | logs t => logs (t.resume n)
  | metrics t => metrics (t.resume n)
  | stats t => stats (t.resume n)

/-- The task after its message was queued, or never will be. -/
def sent (accepted : Bool) : TaskBody → TaskBody
  | logs t => logs (t.sent accepted)
  | metrics t => metrics (t.sent accepted)
  | stats t => stats (t.sent accepted)

/-- The task after it went on without waiting. -/
def turn (now : Nat) : TaskBody → TaskBody
  -- Followers and samplers have nothing to do between two notices.
  | stats t => stats (t.turn now)
  | body => body

/-- Whether the task has a reader that reads. -/
def hasReader : TaskBody → Bool
  | stats t => t.reader.isSome
  | _ => false

/-- Whether the task has had a reader and may still take its samples. -/
def isSampling : TaskBody → Bool
  | stats t => t.isSampling
  | _ => false

/-- Whether the reader can go on without a portion of the byte stream. -/
def readerReady : TaskBody → Bool
  | stats t => t.readerReady
  | _ => false

/-- The task after its reader read a line. -/
def readerStep : TaskBody → TaskBody
  | stats t => stats t.readerStep
  | body => body

/-- The task after its reader got a portion of the byte stream. -/
def readerArrived (p : Portion) : TaskBody → TaskBody
  | stats t => stats (t.readerArrived p)
  | body => body

/-- The task after its reader was cancelled. -/
def readerCancelled : TaskBody → TaskBody
  | stats t => stats t.readerCancelled
  | body => body

/-- How many byte streams the task holds open. -/
def openStreams : TaskBody → Nat
  | logs t => if t.isReading then 1 else 0
  | metrics _ => 0
  -- Its reader holds the byte stream, and may still read when the sender has ended.
  | stats t => if t.reader.isSome then 1 else 0

end TaskBody

/-- A task of a session. -/
structure StreamTask where
  /-- The subscription that it feeds. -/
  subscription : Subscription
  body : TaskBody
  /-- Whether it has ended; what may be left is its reader. -/
  done : Bool := false
  deriving DecidableEq

namespace StreamTask

/-- Whether nothing of the task is left. -/
def isGone (t : StreamTask) : Bool := t.done && !t.body.hasReader

/-- How many byte streams the task holds open; a follower that has ended holds none. -/
def openStreams (t : StreamTask) : Nat :=
  match t.body with
  | .stats _ => t.body.openStreams
  | _ => if t.done then 0 else t.body.openStreams

end StreamTask

end Lookout
