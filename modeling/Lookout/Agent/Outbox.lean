import Lookout.Protocol.Envelope

/-!
# The outbound queue of a connection

Whatever is sent to a client goes through one bounded queue, from which a single writer takes. A
message is offered, which fails at once if there is no room, or sent, which waits for room unless
the sender's token is cancelled. Cancellation counts before all else, the end of the receiver before
room.

A message that has to wait leaves no trace here: `Outbox.send` says `Sending.waiting`, and whoever
sends it comes again. Who stands in line, and that room is kept for them in their order, is said by
`Channel`, which takes these very operations with some of the room taken away (`Outbox.keeping`).

* `Outbox.offer` — queueing without waiting;
* `Outbox.send` — what happens to a message that may wait;
* `Outbox.receive` — taking the next message.
-/

namespace Lookout

/-- Why a message was not queued. -/
inductive SendError where
  | cancelled
  | closed
  | full
  deriving DecidableEq

/-- What is said of it in the log. -/
def SendError.message : SendError → String
  | cancelled => "send cancelled"
  | closed => "connection closed"
  | full => "outbound queue full"

/-- What the receiving end is up to. -/
inductive Receiver where
  | listening
  /-- It takes what is queued and refuses all else. -/
  | closed
  /-- It is gone, and the queue with it. -/
  | gone
  deriving DecidableEq

/-- A bounded queue of messages. -/
structure Outbox where
  /-- How many messages it holds at most. -/
  capacity : Nat
  /-- The messages, the oldest first. -/
  queue : List Envelope := []
  receiver : Receiver := .listening

/-- What became of a message that may wait. -/
inductive Sending where
  | queued
  | failed (e : SendError)
  | waiting
  deriving DecidableEq

namespace Outbox

/-- Whether the receiver still takes messages in. What is queued may be taken afterwards too. -/
def isOpen (o : Outbox) : Bool := o.receiver = .listening

/-- How many messages there is room for. -/
def room (o : Outbox) : Nat := o.capacity - o.queue.length

/-- Whether there is room for a message. -/
def hasRoom (o : Outbox) : Bool := 0 < o.room

/-- Queues a message, whether or not there is room: `Outbox.offer` and `Outbox.send` ask before. -/
def push (o : Outbox) (e : Envelope) : Outbox := { o with queue := o.queue ++ [e] }

/-- Queues a message if there is room at once. -/
def offer (o : Outbox) (e : Envelope) : Outbox × Except SendError Unit :=
  if !o.isOpen then (o, .error .closed)
  else if o.hasRoom then (o.push e, .ok ())
  else (o, .error .full)

/-- Queues a message, or tells that it has to wait. -/
def send (o : Outbox) (cancelled : Bool) (e : Envelope) : Outbox × Sending :=
  -- The order of the three questions is fixed: who was cancelled is not told that the queue is
  -- closed, and neither waits for room.
  if cancelled then (o, .failed .cancelled)
  else if !o.isOpen then (o, .failed .closed)
  else if o.hasRoom then (o.push e, .queued)
  else (o, .waiting)

/-- What comes of waiting for a message. -/
inductive Received where
  | message (e : Envelope)
  | empty
  /-- There is none, and none will come. -/
  | disconnected
  | gone

/-- Takes the oldest message. -/
def receive (o : Outbox) : Outbox × Received :=
  match o.receiver, o.queue with
  | .gone, _ => (o, .gone)
  -- A receiver that is closed still gets what is queued.
  | _, e :: rest => ({ o with queue := rest }, .message e)
  | .listening, [] => (o, .empty)
  | .closed, [] => (o, .disconnected)

/-- Takes all messages. -/
def drain (o : Outbox) : Outbox × List Envelope :=
  ({ o with queue := [] }, o.queue)

/-- The receiver takes no more messages in. One that is gone does not come back. -/
def close (o : Outbox) : Outbox :=
  { o with receiver := if o.receiver = .gone then .gone else .closed }

/-- The receiver goes, and the queue with it. -/
def drop (o : Outbox) : Outbox := { o with queue := [], receiver := .gone }

@[simp] theorem queue_push (o : Outbox) (e : Envelope) : (o.push e).queue = o.queue ++ [e] := rfl

end Outbox

end Lookout
