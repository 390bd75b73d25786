import Lookout.Agent.Cancellation
import Lookout.Agent.Outbox

/-!
# A queue between its senders and its writer

Whoever sends to a client has a clone of the one handle to its queue, and a single writer takes the
messages and writes their texts. A channel is the queue with everyone at it: how many handles there
are, which calls wait for room, what all finished calls returned, and what the writer is at.

Calls that wait stand in line. Room that comes up is kept for them in this order, so that a call is
given only the room that is left over by those before it; but none of them has to take its room at
once, and each looks at its token first when it goes on. A handle that a call waits at is not
dropped before the call is over.

In a `World` there is no line. A message that waits is tried again whenever its sender is stepped,
and room that came up may have gone to somebody else by then. Both are about the same queue: a
channel asks `Outbox.send` and `Outbox.offer` with the room of the others ahead taken away, which is
what they say once those others have gone on.

* `Writer` — the loop that writes messages out;
* `Channel`, `ChannelEvent`, `Channel.step` — a queue with everyone at it, and what can happen.
-/

namespace Lookout

/-! ### The writer -/

/-- What a writer is at. -/
inductive WriterPhase where
  /-- It takes the next message, or waits for one. -/
  | taking
  | writing (text : String)
  /-- There was no message any more, and none will come. -/
  | ended
  /-- It gave up, perhaps with a text that was not written. -/
  | broken (text : Option String)
  deriving DecidableEq

/-- The loop that writes messages out. -/
structure Writer where
  phase : WriterPhase := .taking
  /-- The texts that were written, the first first. -/
  written : List String := []
  deriving DecidableEq

namespace Writer

/-- The writer after it asked for a message. -/
def take (w : Writer) (received : Outbox.Received) : Writer :=
  match w.phase, received with
  | .taking, .message e => { w with phase := .writing e.wire }
  | .taking, .disconnected => { w with phase := .ended }
  -- Nothing came, or the writer did not ask.
  | _, _ => w

/-- The writer after its text was written. -/
def wrote (w : Writer) : Writer :=
  match w.phase with
  | .writing text => { phase := .taking, written := w.written ++ [text] }
  | _ => w

/-- The writer after its text could not be written: it writes no other. -/
def failed (w : Writer) : Writer :=
  match w.phase with
  -- The text may have been written in part, so that none may follow it.
  | .writing text => { w with phase := .broken text }
  | _ => w

/-- The writer after its end of the queue was taken from it. -/
def stopped (w : Writer) : Writer :=
  match w.phase with
  | .taking => { w with phase := .broken none }
  | .writing text => { w with phase := .broken text }
  | _ => w

end Writer

/-! ### The channel -/

/-- A message that may wait, with the token that it is sent under. -/
structure SendCall where
  token : Token
  message : Envelope

/-- A queue with everyone at it. -/
structure Channel where
  outbox : Outbox
  cancelled : Cancellations := {}
  /-- How many handles there are. -/
  handles : Nat := 1
  /-- The calls that wait for room, the oldest first. -/
  waiting : List SendCall := []
  /-- What was called to send, with what it returned, the first to return first. -/
  returned : List (Envelope × Except SendError Unit) := []
  /-- The messages that the writer was given. -/
  received : List Envelope := []
  /-- The messages that went with the receiver. -/
  lost : List Envelope := []
  writer : Writer := {}

/-- What can happen to a channel. -/
inductive ChannelEvent where
  /-- There is a handle more, or one less. -/
  | clone
  | release
  /-- Someone sends a message that may wait. -/
  | send (call : SendCall)
  /-- The call at this place in the line goes on, or is given up. -/
  | resume (place : Nat)
  | abandon (place : Nat)
  /-- Someone sends a message that may not wait. -/
  | offer (message : Envelope)
  | cancel (token : Token)
  /-- The writer asks for a message. -/
  | take
  /-- The writer's text is written, or cannot be. -/
  | write
  | fail
  /-- The receiver takes no more messages in. -/
  | close
  /-- The receiver goes, and the queue with it. -/
  | leave

/-- What is done to a queue while some of its room is kept for others. -/
def Outbox.keeping {α : Type} (o : Outbox) (kept : Nat) (f : Outbox → Outbox × α) : Outbox × α :=
  -- Room is taken away for the operation and given back afterwards, so that only this much of the
  -- queue is ever different.
  let (o', result) := f { o with capacity := o.capacity - kept }
  ({ o' with capacity := o.capacity }, result)

/-- What a call returns, unless it has to wait. -/
def Sending.result? : Sending → Option (Except SendError Unit)
  | .queued => some (.ok ())
  | .failed e => some (.error e)
  | .waiting => none

namespace Channel

/-- The channel of a new connection. -/
def new (capacity : Nat) : Channel := { outbox := { capacity } }

/-- The messages whose calls were successful, in the order in which they were. -/
def accepted (ch : Channel) : List Envelope :=
  ch.returned.filterMap fun (message, result) =>
    match result with
    | .ok _ => some message
    | .error _ => none

/-- A call tries to queue its message, behind a number of others in the line. -/
def attempt (ch : Channel) (ahead : Nat) (call : SendCall) : Outbox × Sending :=
  -- A call of the line has only those before it in its way, a new one all of them.
  ch.outbox.keeping ahead fun o => o.send (ch.cancelled.isCancelled call.token) call.message

/-- A call returns. -/
def answer (ch : Channel) (outbox : Outbox) (message : Envelope)
    (result : Except SendError Unit) : Channel :=
  { ch with outbox := outbox, returned := ch.returned ++ [(message, result)] }

/-- A message that may wait is sent: the call returns, or it stands at the end of the line. -/
def send (ch : Channel) (call : SendCall) : Channel :=
  let (outbox, sending) := ch.attempt ch.waiting.length call
  match sending.result? with
  | some result => ch.answer outbox call.message result
  | none => { ch with waiting := ch.waiting ++ [call] }

/-- A call of the line goes on. It returns if it was cancelled, if the receiver is closed, or if
there is room for it behind those that are before it. -/
def resume (ch : Channel) (place : Nat) : Channel :=
  match ch.waiting[place]? with
  | none => ch
  | some call =>
    let (outbox, sending) := ch.attempt place call
    match sending.result? with
    | some result =>
      { ch.answer outbox call.message result with waiting := ch.waiting.eraseIdx place }
    | none => ch

/-- A message that may not wait is offered, behind the whole line. It always returns. -/
def offer (ch : Channel) (message : Envelope) : Channel :=
  let (outbox, result) := ch.outbox.keeping ch.waiting.length fun o => o.offer message
  ch.answer outbox message result

/-- What the receiver has for the writer: where all handles are gone, no message will come. -/
def receive (ch : Channel) : Outbox × Outbox.Received :=
  match ch.outbox.receive with
  | (outbox, .empty) => (outbox, if ch.handles = 0 then .disconnected else .empty)
  | other => other

/-- The writer asks for the next message, if it is at nothing else. -/
def take (ch : Channel) : Channel :=
  match ch.writer.phase with
  | .taking =>
    let (outbox, received) := ch.receive
    let messages := match received with
      | .message e => [e]
      | _ => []
    { ch with
      outbox
      received := ch.received ++ messages
      writer := ch.writer.take received }
  | _ => ch

/-- The channel after an event; without a handle nobody calls. -/
def step (ch : Channel) : ChannelEvent → Channel
  | .clone => if ch.handles = 0 then ch else { ch with handles := ch.handles + 1 }
  -- The last handle is borrowed by the calls that wait, and is dropped after them.
  | .release =>
    if 1 < ch.handles ∨ ch.waiting = [] then { ch with handles := ch.handles - 1 } else ch
  | .send call => if ch.handles = 0 then ch else ch.send call
  | .resume place => ch.resume place
  -- Whoever made the call is gone; nothing was queued, and nothing is returned.
  | .abandon place => { ch with waiting := ch.waiting.eraseIdx place }
  | .offer message => if ch.handles = 0 then ch else ch.offer message
  | .cancel token => { ch with cancelled := ch.cancelled.cancel token }
  | .take => ch.take
  | .write => { ch with writer := ch.writer.wrote }
  | .fail => { ch with writer := ch.writer.failed }
  | .close => { ch with outbox := ch.outbox.close }
  -- What was queued is never written, though the calls were successful.
  | .leave =>
    { ch with
      outbox := ch.outbox.drop
      lost := ch.lost ++ ch.outbox.queue
      writer := ch.writer.stopped }

/-- A channel after some events, in this order. -/
def run (ch : Channel) (events : List ChannelEvent) : Channel := events.foldl step ch

end Channel

end Lookout
