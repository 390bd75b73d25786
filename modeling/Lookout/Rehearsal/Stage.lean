import Lookout.Agent.World
import Lookout.Rehearsal.Script
import Lookout.Rehearsal.Seen

/-!
# The stage

A rehearsal puts the agent with one client on a stage: a clock that only the rehearsal moves, and
collaborators that play their scripts. Whatever happens to the agent is one of its actions
(`Stage.act`); the stage only chooses which one is next.

The client has several strands: its session, and for every task the sender and the reader. A strand
can go on at a certain time (`Stage.agenda`), at once if it waits for nothing, or not until
something else happens. Strands that wait for room stand in a line; room that becomes free belongs
to the first in it, even before they have come to take it.

Strands take turns. One that can go on again joins a queue, and the first in the queue goes on as
long as it can. Of several that can go on at once the one that is due first comes first, then the
one that fell asleep first; but a shutdown wakes them in an order of its own (`Stage.farewell`).

* `Stage.rouse` — the queue, after all that can go on have joined it;
* `Stage.perform` — what a strand does when it goes on;
* `Stage.receive` — the client takes the messages of its queue.
-/

namespace Lookout.Rehearsal

/-- What a strand waits for, at the earliest when it is due. -/
inductive Awaited where
  | opening (outcome : Except Failure Playback) (due : Nat)
  /-- A portion of a byte stream, after which this is left of it. -/
  | portion (p : Portion) (rest : Playback) (due : Nat)
  | silence
  | snapshot (outcome : Except Failure HostMetrics) (due : Nat)

def Awaited.due? : Awaited → Option Nat
  | opening _ due | portion _ _ due | snapshot _ due => some due
  | silence => none

/-- What a task has of its collaborators. -/
structure Supply where
  /-- The number of the subscription. -/
  generation : Nat
  /-- What is left of the byte stream. -/
  playback : Playback := {}
  /-- What was asked for and has not come. -/
  awaited : Option Awaited := none

/-- The opening of a byte stream. -/
structure Opening where
  time : Nat
  subject : Subject
  id : String
  /-- How many past lines were asked for. -/
  tail : Option UInt64

/-- A part of the client's side that goes on by itself. -/
inductive Strand where
  | session
  | sender (generation : Nat)
  | reader (generation : Nat)
  deriving DecidableEq

/-- Who looks after the session. -/
inductive Attendance where
  | none
  /-- Streams that have ended are retired. -/
  | retiring
  | socket
  deriving DecidableEq

/-- The connection of the client on the stage. -/
def stageConn : ConnId := 0

/-- The stage. -/
structure Stage where
  world : World
  scripts : Scripts := {}
  now : Nat := 0
  attendance : Attendance := .retiring
  /-- Whether the client leaves its queue alone. -/
  held : Bool := false
  /-- What the tasks have of their collaborators. -/
  supplies : List Supply := []
  /-- Who waits for room, the first in the line first. -/
  line : List Strand := []
  /-- The strands that can go on, the first to go on first. -/
  queue : List Strand := []
  /-- The strands that cannot, the first to fall asleep first. -/
  asleep : List Strand := []
  /-- The subscriptions whose tokens are in use, by number. -/
  tokens : List Nat := []
  /-- What the client has seen, with the times, the latest first. -/
  seen : List (Nat × Seen) := []
  /-- The byte streams that were asked for, the latest first. -/
  openings : List Opening := []
  /-- How many snapshots were asked for. -/
  collected : Nat := 0
  retired : Nat := 0

namespace Stage

def client (s : Stage) : Client :=
  (s.world.client? stageConn).getD { id := stageConn, outbox := { capacity := 0 }, closed := true }

/-- Takes an entry out of a list and puts the last one into its place. -/
def swapOut (entries : List Nat) (entry : Nat) : List Nat :=
  match entries.idxOf? entry, entries.getLast? with
  | some i, some last => (entries.set i last).dropLast
  | _, _ => entries

/-- The tokens in use: a token is given up when the session has forgotten the subscription, its task
has ended and it is not registered for events any more. The last one then takes its place. -/
def tokensIn (world : World) (c : Client) (tokens : List Nat) : List Nat :=
  let used := fun (generation : Nat) =>
    c.session.subscriptions.any (·.generation = generation) ||
      c.tasks.any (fun t => t.subscription.generation = generation && !t.done) ||
      world.hub.registrations.any (·.token = subscriptionToken stageConn generation)
  let kept := (tokens.filter (!used ·)).foldl swapOut tokens
  kept ++ (List.range c.session.nextGeneration).filter fun g => !kept.contains g && used g

def act (s : Stage) (a : Action) : Stage :=
  let world := s.world.step a
  let s := { s with world }
  { s with tokens := tokensIn world s.client s.tokens }

/-- What a task has of its collaborators. -/
def supply (s : Stage) (generation : Nat) : Supply :=
  (s.supplies.find? fun x => x.generation = generation).getD { generation }

/-- Changes what a task has of its collaborators. -/
def setSupply (s : Stage) (x : Supply) : Stage :=
  { s with supplies := x :: s.supplies.filter fun y => y.generation ≠ x.generation }

/-! ### When a strand can go on -/

/-- Whether there is room for a strand, beyond what belongs to those before it in the line. -/
def hasRoomFor (s : Stage) (strand : Strand) : Bool :=
  s.line.idxOf strand < s.client.outbox.room

/-- When a strand that has a message to send can go on. One that is in the line must have its turn
there; one that is not yet may try. -/
def roomTime? (s : Stage) (strand : Strand) : Option Nat :=
  if strand ∈ s.line ∧ s.client.outbox.isOpen ∧ !s.hasRoomFor strand then none else some s.now

/-- When a strand that asks a collaborator can go on. -/
def answerTime? (s : Stage) (generation : Nat) : Option Nat :=
  match (s.supply generation).awaited with
  | none => some s.now
  | some a => a.due?

def sessionTime? (s : Stage) : Option Nat :=
  let c := s.client
  if c.closed then none
  else if c.pending.isSome then
    if s.world.isCancelled (sessionToken stageConn) then some s.now else s.roomTime? .session
  else
    match s.attendance with
    | .none => none
    | .retiring => if c.ended.isEmpty then none else some s.now
    | .socket =>
      match nextChoice s.world.isShutDown c.ended c.inbox with
      | .wait => none
      | _ => some s.now

def senderTime? (s : Stage) (t : StreamTask) : Option Nat :=
  let generation := t.subscription.generation
  if t.done then none
  else if s.world.isCancelled (subscriptionToken stageConn generation) then some s.now
  else
    match t.body.wait with
    | .opened | .portion | .snapshot => s.answerTime? generation
    | .time due => some due
    | .room _ => s.roomTime? (.sender generation)
    | .sibling => none
    | .turn | .finished | .broken => some s.now

/-- When the reader of a task can go on. -/
def readerTime? (s : Stage) (t : StreamTask) : Option Nat :=
  let generation := t.subscription.generation
  if !t.body.hasReader then none
  else if s.world.isCancelled (readerToken stageConn generation) then some s.now
  else if t.body.readerReady then some s.now
  else s.answerTime? generation

def time? (s : Stage) : Strand → Option Nat
  | .session => s.sessionTime?
  | .sender generation => (s.client.task? generation).bind s.senderTime?
  | .reader generation => (s.client.task? generation).bind s.readerTime?

/-- The strands that take turns. A session without a socket is no such strand: it is looked after
when all others are asleep. -/
def strands (s : Stage) : List Strand :=
  (if s.attendance = .socket then [.session] else []) ++
    s.client.tasks.flatMap fun t =>
      [.sender t.subscription.generation, .reader t.subscription.generation]

/-- The strands with the times at which they can go on. -/
def agenda (s : Stage) : List (Strand × Nat) :=
  s.strands.filterMap fun strand => (s.time? strand).map fun time => (strand, time)

/-- The order in which a shutdown wakes the strands. The tokens are cancelled from the last one on,
and with each its task; but one under which a reader is at work is put off until all others are
cancelled, so that these come last and the other way round, the reader before its sender. -/
def farewell (s : Stage) : List Strand :=
  let reads := fun (generation : Nat) =>
    (s.client.task? generation).any fun t => !t.done && t.body.isSampling
  (s.tokens.reverse.filter (!reads ·)).map .sender ++
    (s.tokens.filter reads).flatMap fun generation => [.reader generation, .sender generation]

/-- The strands that can go on now and are not in the queue, in the order in which they join it. -/
def awake (s : Stage) : List Strand :=
  let fresh := s.agenda.filter fun e => e.2 ≤ s.now && !s.queue.contains e.1
  let order := if s.world.isShutDown then s.farewell else s.asleep
  let known := order.filterMap fun strand => fresh.find? (·.1 = strand)
  let others := fresh.filter fun e => !order.contains e.1
  ((known ++ others).mergeSort fun a b => a.2 ≤ b.2).map (·.1)

def rouse (s : Stage) : Stage :=
  match s.awake with
  | [] => s
  | strands =>
    { s with
      queue := s.queue ++ strands
      asleep := s.asleep.filter (!strands.contains ·) }

def canGoOn (s : Stage) (strand : Strand) : Bool :=
  (s.time? strand).any (· ≤ s.now)

/-- The first in the queue falls asleep. -/
def rest (s : Stage) : Stage :=
  match s.queue with
  | [] => s
  | strand :: queue => { s with queue, asleep := s.asleep ++ [strand] }

/-- The next time at which a strand can go on that cannot now. -/
def nextTime? (s : Stage) : Option Nat :=
  ((s.agenda.filter fun e => s.now < e.2).map (·.2)).min?

/-! ### What a strand does -/

/-- A strand with a message to send tries to; without room it joins the line. -/
def trySend (s : Stage) (strand : Strand) (a : Action) : Stage :=
  if s.client.outbox.isOpen ∧ !s.hasRoomFor strand then
    { s with line := if strand ∈ s.line then s.line else s.line ++ [strand] }
  else { s.act a with line := s.line.erase strand }

def performSession (s : Stage) : Stage :=
  let c := s.client
  if c.pending.isSome then
    let a := Action.reply stageConn s.now
    if s.world.isCancelled (sessionToken stageConn) then
      { s.act a with line := s.line.erase .session }
    else s.trySend .session a
  else
    match s.attendance, c.ended with
    | .none, _ | .retiring, [] => s
    | .retiring, ended :: _ => { s.act (.retire stageConn ended) with retired := s.retired + 1 }
    | .socket, _ => s.act (.choose stageConn)

def ask (s : Stage) (t : StreamTask) (subject : Subject) (id : ContainerId) : Stage :=
  let times := s.openings.countP fun o => o.subject = subject ∧ o.id = id.text
  let script := s.scripts.stream subject id.text times
  let tail := if subject = .logs then some s.world.services.limits.logTail else none
  let s := s.setSupply
    { generation := t.subscription.generation
      awaited := some (.opening script.outcome (wakeTime s.now script.openDelay)) }
  { s with openings := ⟨s.now, subject, id.text, tail⟩ :: s.openings }

/-- A portion of a byte stream is asked for. -/
def askPortion (s : Stage) (generation : Nat) : Stage :=
  let x := s.supply generation
  let awaited := match x.playback.next? with
    | some (delay, p, rest) => Awaited.portion p rest (wakeTime s.now delay)
    | none => .silence
  s.setSupply { x with awaited := some awaited }

/-- A snapshot of the host is asked for. -/
def askSnapshot (s : Stage) (generation : Nat) : Stage :=
  let script := s.scripts.snapshot s.collected
  let s := s.setSupply
    { generation, awaited := some (.snapshot script.outcome (wakeTime s.now script.delay)) }
  { s with collected := s.collected + 1 }

/-- A task that waits for a collaborator goes on: it asks, or it is told what has come. -/
def performWait (s : Stage) (t : StreamTask) : Stage :=
  let generation := t.subscription.generation
  match (s.supply generation).awaited with
  | none =>
    match t.body with
    | .metrics _ => s.askSnapshot generation
    | .logs f => if f.isReading then s.askPortion generation else s.ask t .logs f.containerId
    | .stats f => s.ask t .stats f.containerId
  | some (.opening outcome _) =>
    let told := outcome.map fun _ => ()
    (s.setSupply { generation, playback := outcome.toOption.getD {} }).act
      (.tell stageConn generation (.opened told))
  | some (.portion p rest _) =>
    (s.setSupply { generation, playback := rest }).act (.tell stageConn generation (.portion p))
  | some (.snapshot outcome _) =>
    (s.setSupply { generation }).act (.tell stageConn generation (.snapshot outcome))
  | some .silence => s

def performSender (s : Stage) (t : StreamTask) : Stage :=
  let generation := t.subscription.generation
  let proceed := Action.proceed stageConn generation s.now
  if s.world.isCancelled (subscriptionToken stageConn generation) then
    { s.act proceed with line := s.line.erase (.sender generation) }
  else
    match t.body.wait with
    | .opened | .portion | .snapshot => s.performWait t
    | .time _ => s.act (.tell stageConn generation (.time s.now))
    | .room _ => s.trySend (.sender generation) proceed
    | .sibling => s
    | .turn | .finished | .broken => s.act proceed

def performReader (s : Stage) (t : StreamTask) : Stage :=
  let generation := t.subscription.generation
  if s.world.isCancelled (readerToken stageConn generation) || t.body.readerReady then
    s.act (.read stageConn generation)
  else
    match (s.supply generation).awaited with
    | some (.portion p rest _) =>
      (s.setSupply { generation, playback := rest }).act (.supply stageConn generation p)
    | some _ => s
    | none => s.askPortion generation

def perform (s : Stage) (strand : Strand) : Stage :=
  match strand with
  | .session => s.performSession
  | .sender generation =>
    match s.client.task? generation with
    | some t => s.performSender t
    | none => s
  | .reader generation =>
    match s.client.task? generation with
    | some t => s.performReader t
    | none => s

/-! ### The client -/

def note (s : Stage) (x : Seen) : Stage := { s with seen := (s.now, x) :: s.seen }

def receive (s : Stage) : Stage :=
  match s.client.outbox.receive with
  | (_, .message e) => (s.act (.take stageConn)).note (.message e)
  | _ => s

def receiveAll (s : Stage) : Stage := s.client.outbox.queue.foldl (fun s _ => s.receive) s

/-- Whether a message waits to be taken. -/
def hasMessage (s : Stage) : Bool := !s.client.outbox.queue.isEmpty

/-- Hands out what the client has seen, the first first, and forgets it. -/
def takeSeen (s : Stage) : Stage × List (Nat × Seen) := ({ s with seen := [] }, s.seen.reverse)

end Stage

end Lookout.Rehearsal
