import Lookout.Agent.Outbox
import Lookout.Agent.Socket
import Lookout.Agent.Task

/-!
# The agent at work

A world is the agent with all its connections: the hub, the tokens that were cancelled, and for each
client its outbound queue, its session, the tasks of its streams, the streams that have ended and
are not retired yet, and the reply that the session is about to send.

Everything that can happen is an `Action`, and `World.step` says what comes of it. An action that
cannot happen now changes nothing, so every list of actions can be gone through (`World.run`), and
the order of the actions is free: nothing here chooses who goes on next.

* A message is handled in two steps. First the session decides, and a subscription that ends is
  cancelled and forgotten (`World.handle`); then the reply is queued, and only after it a new stream
  is started (`World.reply`). Between the two the session does nothing else.
* A task goes on by itself (`World.proceed`) or is told something (`World.tell`). Whatever it waits
  for, cancellation ends it first.
* A task that has ended is reported once (`World.finish`). One that broke down is not.
-/

namespace Lookout

/-- What the session is about to send, and the stream that it starts after it. -/
structure PendingReply where
  message : Envelope
  /-- The stream to start, with the interval that the client wants. -/
  start : Option (Stream × Option Int64) := none

/-- A connected client. -/
structure Client where
  id : ConnId
  outbox : Outbox
  session : Session := {}
  tasks : List StreamTask := []
  /-- The streams that have ended and are not retired yet, the first to end first. -/
  ended : List Subscription := []
  /-- The reply that the session is about to send. -/
  pending : Option PendingReply := none
  /-- The messages of the client that the socket's loop has not looked at. -/
  inbox : List Incoming := []
  closed : Bool := false

namespace Client

/-- The task of a subscription, by the number of that subscription. -/
def task? (c : Client) (generation : Nat) : Option StreamTask :=
  c.tasks.find? fun t => t.subscription.generation = generation

/-- The client after something was done to a task; what nothing is left of is dropped. -/
def updateTask (c : Client) (generation : Nat) (f : StreamTask → StreamTask) : Client :=
  { c with
    tasks :=
      -- All tasks with the number, of which there is one; a task that has ended stays for its
      -- reader.
      (c.tasks.map fun t => if t.subscription.generation = generation then f t else t).filter
        fun t => !t.isGone }

/-- Whether the session can do something. -/
def isIdle (c : Client) : Bool := !c.closed && c.pending.isNone

/-- How many byte streams are open for the client. -/
def openStreams (c : Client) : Nat := c.tasks.foldl (fun n t => n + t.openStreams) 0

end Client

/-- The agent with its connections. -/
structure World where
  services : Services := {}
  /-- Who wants to hear of containers. -/
  hub : Hub := {}
  /-- The tokens that were cancelled. -/
  cancelled : Cancellations := {}
  clients : List Client := []

/-- What can happen. -/
inductive Action where
  /-- A client connects; its queue holds so many messages. -/
  | connect (conn : ConnId) (capacity : Nat)
  /-- A session is given a frame, or the message in one. -/
  | frame (conn : ConnId) (bytes : List UInt8)
  | dispatch (conn : ConnId) (message : Envelope)
  | reply (conn : ConnId) (now : Nat)
  /-- A session retires a stream that has ended. -/
  | retire (conn : ConnId) (ended : Subscription)
  | close (conn : ConnId)
  /-- A task goes on by itself, or is told something. -/
  | proceed (conn : ConnId) (generation now : Nat)
  | tell (conn : ConnId) (generation : Nat) (notice : Notice)
  /-- A reader goes on by itself. -/
  | read (conn : ConnId) (generation : Nat)
  /-- A reader gets a portion of its byte stream. -/
  | supply (conn : ConnId) (generation : Nat) (portion : Portion)
  /-- A client's message arrives at its socket. -/
  | arrive (conn : ConnId) (message : Incoming)
  /-- A socket's loop makes a choice. -/
  | choose (conn : ConnId)
  /-- A writer takes the next message. -/
  | take (conn : ConnId)
  | leave (conn : ConnId)
  | publish (event : DaemonEvent)
  | shutdown

namespace World

/-- The client of a connection. -/
def client? (w : World) (conn : ConnId) : Option Client :=
  w.clients.find? fun c => c.id = conn

/-- The world after something was done to the client of a connection. -/
def modify (w : World) (conn : ConnId) (f : Client → Client) : World :=
  -- All clients with the number, of which there is one.
  { w with clients := w.clients.map fun c => if c.id = conn then f c else c }

def isCancelled (w : World) (t : Token) : Bool := w.cancelled.isCancelled t

/-- The world after a token was cancelled. -/
def cancel (w : World) (t : Token) : World := { w with cancelled := w.cancelled.cancel t }

@[simp] theorem hub_modify (w : World) (conn : ConnId) (f : Client → Client) :
    (w.modify conn f).hub = w.hub := rfl

@[simp] theorem services_modify (w : World) (conn : ConnId) (f : Client → Client) :
    (w.modify conn f).services = w.services := rfl

/-- Whether the agent shuts down: then every token counts as cancelled. -/
def isShutDown (w : World) : Bool := w.isCancelled .root

/-- A client connects, unless its number is taken. -/
def connect (w : World) (conn : ConnId) (capacity : Nat) : World :=
  match w.client? conn with
  | some _ => w
  | none => { w with clients := w.clients ++ [{ id := conn, outbox := { capacity := capacity } }] }

/-! ### The session -/

/-- Cancels a subscription and forgets it; with that to events goes the registration. -/
def stop (w : World) (conn : ConnId) (sub : Subscription) : World :=
  -- The token first, so that nothing is sent for a stream that is not subscribed to any more.
  let w := w.cancel (subscriptionToken conn sub.generation)
  let w := w.modify conn fun c => { c with session := c.session.erase sub.stream }
  if sub.stream = .events then { w with hub := w.hub.unsubscribe conn } else w

/-- Carries out a verdict as far as the reply, which is left to be sent. -/
def carryOut (w : World) (conn : ConnId) (session : Session) (verdict : Verdict)
    (id : Option String) : World :=
  let message := verdict.reply id
  match verdict with
  | .pong | .reject _ => w.modify conn fun c => { c with pending := some { message } }
  -- The stream comes only after its reply, which is the first its client hears of it.
  | .start stream interval =>
    w.modify conn fun c => { c with pending := some { message, start := some (stream, interval) } }
  -- The subscription goes before the reply, so that nothing of it comes behind.
  | .stop stream _ =>
    let w := match session.find? stream with
      | some sub => w.stop conn sub
      | none => w
    w.modify conn fun c => { c with pending := some { message } }

/-- **A message is handled** as far as the session alone can, if it is at nothing else. -/
def handle (w : World) (conn : ConnId) (decide : Session → Verdict × Option String) : World :=
  match w.client? conn with
  | none => w
  | some c =>
    if c.isIdle then
      let (verdict, id) := decide c.session
      w.carryOut conn c.session verdict id
    else w

/-- Starts a stream: the subscription is added, its task if it has one, and for events the
registration. Whether the daemon and the hub are there is not asked here again, since
`Session.availability` asks it before a stream is granted, and nothing that is granted lacks them
when its turn comes (`World.provided_history`). -/
def start (w : World) (conn : ConnId) (session : Session) (stream : Stream)
    (interval : Option Int64) (now : Nat) : World :=
  -- The number is taken here, where the stream comes, and not when it was granted; nothing comes in
  -- between.
  let generation := session.nextGeneration
  let task := (TaskBody.ofStream w.services.limits stream interval now).map fun body =>
    { subscription := ⟨stream, generation⟩, body : StreamTask }
  let w := w.modify conn fun c =>
    { c with session := c.session.insert stream, tasks := c.tasks ++ task.toList }
  -- The registration has the token of the subscription, so that to cancel it is enough to end the
  -- offers.
  if stream = .events then
    { w with hub := w.hub.subscribe conn (subscriptionToken conn generation) }
  else w

/-- A session sends its reply. Once it is queued, or never will be, the stream that was granted is
started. A reply that finds no room stays in `Client.pending` and is tried again by a later step. -/
def reply (w : World) (conn : ConnId) (now : Nat) : World :=
  match w.client? conn with
  | none => w
  | some c =>
    match c.pending with
    | none => w
    | some r =>
      match c.outbox.send (w.isCancelled (sessionToken conn)) r.message with
      -- The session waits with its reply and does nothing else.
      | (_, .waiting) => w
      -- A reply that was refused is not tried again, and the stream is started all the same: nobody
      -- asks whether the reply was queued.
      | (outbox, _) =>
        let w := w.modify conn fun c => { c with outbox := outbox, pending := none }
        match r.start with
        | none => w
        | some (stream, interval) => w.start conn c.session stream interval now

/-- A session takes notice of a stream that has ended. -/
def retire (w : World) (conn : ConnId) (ended : Subscription) : World :=
  match w.client? conn with
  | none => w
  | some c =>
    -- The report is used up, and what it reports is forgotten if it is still the same subscription.
    if c.isIdle ∧ ended ∈ c.ended then
      w.modify conn fun c =>
        { c with session := c.session.retire ended, ended := c.ended.erase ended }
    else w

/-- A session is closed: all that it started is cancelled, and its registration goes. -/
def close (w : World) (conn : ConnId) : World :=
  match w.client? conn with
  | none => w
  | some c =>
    if c.isIdle then
      -- The token of the session is above those of all its streams.
      let w := w.cancel (sessionToken conn)
      let w := w.modify conn fun c => { c with closed := true }
      if c.session.has .events then { w with hub := w.hub.unsubscribe conn } else w
    else w

/-! ### Tasks -/

/-- A task has ended. It is reported, and its reader is cancelled. -/
def finish (w : World) (conn : ConnId) (t : StreamTask) : World :=
  -- A reader has nobody to read for once its sender has ended.
  let w := w.cancel (readerToken conn t.subscription.generation)
  w.modify conn fun c =>
    let c := c.updateTask t.subscription.generation fun t => { t with done := true }
    { c with ended := c.ended ++ [t.subscription] }

/-- A task broke down. Nobody hears of it, but its reader is cancelled. -/
def breakDown (w : World) (conn : ConnId) (t : StreamTask) : World :=
  let w := w.cancel (readerToken conn t.subscription.generation)
  w.modify conn fun c =>
    c.updateTask t.subscription.generation fun t => { t with done := true }

/-- The world after something was done to the body of a task. -/
def updateBody (w : World) (conn : ConnId) (generation : Nat) (f : TaskBody → TaskBody) : World :=
  w.modify conn fun c => c.updateTask generation fun t => { t with body := f t.body }

/-- A task goes on by itself: it ends if it was cancelled, sends its message if there is room, or
takes its turn. -/
def proceed (w : World) (conn : ConnId) (generation now : Nat) : World :=
  match (w.client? conn).bind fun c => (c.task? generation).map fun t => (c, t) with
  | none => w
  | some (c, t) =>
    -- Cancellation comes before all that the task waits for.
    if t.done then w
    else if w.isCancelled (subscriptionToken conn generation) then w.finish conn t
    else
      match t.body.wait with
      -- Both ends of a task; of a break-down nobody is told.
      | .finished => w.finish conn t
      | .broken => w.breakDown conn t
      | .turn => w.updateBody conn generation (·.turn now)
      | .room message =>
        -- Cancellation was asked for above, so that here only the queue decides.
        match c.outbox.send false message with
        | (_, .waiting) => w
        | (outbox, sending) =>
          let w := w.modify conn fun c => { c with outbox := outbox }
          w.updateBody conn generation (·.sent (sending = .queued))
      | _ => w

/-- A task is told something, unless it was cancelled. -/
def tell (w : World) (conn : ConnId) (generation : Nat) (notice : Notice) : World :=
  match (w.client? conn).bind (·.task? generation) with
  | none => w
  | some t =>
    -- What comes for a task that was cancelled comes too late.
    if t.done || w.isCancelled (subscriptionToken conn generation) then w
    else w.updateBody conn generation (·.resume notice)

/-- A reader goes on by itself: it ends if it was cancelled, or reads a line. -/
def read (w : World) (conn : ConnId) (generation : Nat) : World :=
  -- Its own token, which is below that of the subscription and is cancelled with it.
  if w.isCancelled (readerToken conn generation) then
    w.updateBody conn generation (·.readerCancelled)
  else w.updateBody conn generation (·.readerStep)

/-- A reader gets a portion of its byte stream, unless it was cancelled. -/
def supply (w : World) (conn : ConnId) (generation : Nat) (portion : Portion) : World :=
  if w.isCancelled (readerToken conn generation) then w
  else w.updateBody conn generation (·.readerArrived portion)

/-! ### Sockets -/

/-- A client's message arrives at its socket. -/
def arrive (w : World) (conn : ConnId) (message : Incoming) : World :=
  w.modify conn fun c => { c with inbox := c.inbox ++ [message] }

/-- The loop of a socket makes a choice, if the session is not at something else. -/
def choose (w : World) (conn : ConnId) : World :=
  match w.client? conn with
  | none => w
  | some c =>
    if c.isIdle then
      -- A message is taken from the inbox before it is handled, whatever comes of it.
      let rest := fun (c : Client) => { c with inbox := c.inbox.tail }
      match nextChoice w.isShutDown c.ended c.inbox with
      | .stop => w.close conn
      | .retire ended => w.retire conn ended
      | .handle frame => (w.modify conn rest).handle conn (·.decideFrame w.services frame)
      | .skip => w.modify conn rest
      | .wait => w
    else w

/-! ### Queues and events -/

/-- The world after something was done to a connection's queue. -/
def updateOutbox (w : World) (conn : ConnId) (f : Outbox → Outbox) : World :=
  w.modify conn fun c => { c with outbox := f c.outbox }

/-- Offers a message to everyone who wants to hear of containers.

An offer may take room that came up while a reply or the message of a task waits for some, since a
message that waits is only tried again when `World.reply` or `World.proceed` is stepped. The queue
itself keeps such room for those who stand in line (`Channel`). Whoever looks for the run in which
it does steps those who wait as soon as there is room: an offer behind them is then answered as it
is behind a line (`Channel.offer_behind_line`). What a theorem says of every history it says of
these runs too. -/
def broadcast (w : World) (message : Envelope) : World :=
  -- The offers go one after the other, and whether one of them is taken is not asked.
  (w.hub.recipients w.cancelled).foldl
    (fun w conn => w.updateOutbox conn fun o => (o.offer message).1) w

/-- How many times a message about containers would be offered: once for each registration that is
not cancelled, whatever the queues are at. -/
def audience (w : World) : Nat := (w.hub.recipients w.cancelled).length

/-- The daemon tells of an event; it is handed on if clients hear of it. -/
def publish (w : World) (event : DaemonEvent) : World :=
  match eventMessage? event with
  | some message => w.broadcast message
  | none => w

/-- How many times an event is offered when it is published. It is what a pass over the
registrations counts while it makes its offers (`World.deliver_eq`). -/
def attempts (w : World) (event : DaemonEvent) : Nat :=
  match eventMessage? event with
  | some _ => w.audience
  | none => 0

/-! ### Steps -/

/-- **One action.** The clauses only name what each action is; which of them can happen now is
decided in the functions that they call. -/
def step (w : World) : Action → World
  | .connect conn capacity => w.connect conn capacity
  | .frame conn bytes => w.handle conn (·.decideFrame w.services bytes)
  -- As with a frame, but the message was decoded by somebody else.
  | .dispatch conn message => w.handle conn fun s => (s.decide w.services message, message.id)
  | .reply conn now => w.reply conn now
  | .retire conn ended => w.retire conn ended
  | .close conn => w.close conn
  | .proceed conn generation now => w.proceed conn generation now
  | .tell conn generation notice => w.tell conn generation notice
  | .read conn generation => w.read conn generation
  | .supply conn generation portion => w.supply conn generation portion
  | .arrive conn message => w.arrive conn message
  | .choose conn => w.choose conn
  | .take conn => w.updateOutbox conn fun o => o.receive.1
  | .leave conn => w.updateOutbox conn Outbox.drop
  | .publish event => w.publish event
  | .shutdown => w.cancel .root

/-- The world after some actions, one after the other. A `World.history` goes through actions as
well, and between them through tasks that end. -/
def run (w : World) (actions : List Action) : World := actions.foldl step w

theorem client?_modify_self (w : World) {conn : ConnId} (f : Client → Client)
    (keeps : ∀ c, (f c).id = c.id) :
    (w.modify conn f).client? conn = (w.client? conn).map f := by
  simp only [client?, modify]
  -- On the clients: the first with the number is the first afterwards, as its number stays.
  induction w.clients with
  | nil => rfl
  | cons c rest ih =>
    rw [List.map_cons, List.find?_cons, List.find?_cons, ih]
    by_cases h : c.id = conn <;> simp [h, keeps]

/-- **Only the named client changes.** -/
theorem client?_modify_of_ne (w : World) {conn other : ConnId} (f : Client → Client)
    (ne : other ≠ conn) (keeps : ∀ c, (f c).id = c.id) :
    (w.modify conn f).client? other = w.client? other := by
  simp only [client?, modify]
  -- On the clients, in the same way; one that has the other number is not touched.
  induction w.clients with
  | nil => rfl
  | cons c rest ih =>
    rw [List.map_cons, List.find?_cons, List.find?_cons, ih]
    by_cases h : c.id = conn
    · have h' : ¬conn = other := fun eq => ne eq.symm
      simp [h, h', keeps]
    · simp [h]

end World

end Lookout
