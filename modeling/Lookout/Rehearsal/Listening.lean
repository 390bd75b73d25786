import Lookout.Agent.EventSource
import Lookout.Agent.World
import Lookout.Rehearsal.Seen

/-!
# Listening rehearsed

A source of events plays with a daemon whose streams are scripted: every stream is a list of what it
yields, with the time that each takes from when the one before was taken in; one that has yielded
all stays silent, and so does one for which there is no script. One client, with a long queue, has
subscribed to events.
-/

namespace Lookout.Rehearsal

/-- A stream of events: what it yields, each with the time that it takes. -/
abbrev EventScript := List (Nat × EventItem)

/-- A source of events with its daemon and its client. -/
structure Listening where
  source : EventSource
  scripts : List EventScript
  world : World
  now : Nat := 0
  playing : EventScript := []
  /-- When the stream yields, if it was asked. -/
  due : Option Nat := none
  /-- When streams were asked for, the latest first. -/
  calls : List Nat := []
  /-- What the client has seen, with the times, the latest first. -/
  seen : List (Nat × Seen) := []

namespace Listening

def listener : ConnId := 0

def outbox (l : Listening) : Outbox :=
  match l.world.client? listener with
  | some c => c.outbox
  | none => { capacity := 0 }

/-- The source goes on by itself. When it begins to listen a new stream is asked for. -/
def proceed (l : Listening) : Listening :=
  let source := l.source.proceed l.world.isShutDown l.now
  if source.phase = .listening then
    { l with
      source, calls := l.now :: l.calls, playing := l.scripts.headD [],
      scripts := l.scripts.tail, due := none }
  else { l with source }

def yield (l : Listening) (item : EventItem) (rest : EventScript) : Listening :=
  let (source, event) := l.source.resume item l.now
  let world := match event with
    | some e => l.world.step (.publish e)
    | none => l.world
  { l with source, world, playing := rest, due := none }

/-- What the source does now, if it does not wait. -/
def sourceStep? (l : Listening) : Option Listening :=
  let shutdown := l.world.isShutDown
  match l.source.phase with
  | .starting => some l.proceed
  | .listening =>
    if shutdown then some l.proceed
    else
      match l.due, l.playing with
      | _, [] => none
      | none, (delay, _) :: _ => some { l with due := some (wakeTime l.now delay) }
      | some due, (_, item) :: rest => if due ≤ l.now then some (l.yield item rest) else none
  | .pausing due => if shutdown ∨ due ≤ l.now then some l.proceed else none
  | .stopped => none

/-- The client takes the next message, if there is one. -/
def receive? (l : Listening) : Option Listening :=
  match l.outbox.receive with
  | (_, .message e) =>
    some { l with
      world := l.world.step (.take listener)
      seen := (l.now, .message e) :: l.seen }
  | _ => none

/-- What happens now: the source comes before the client. -/
def step? (l : Listening) : Option Listening :=
  match l.sourceStep? with
  | some next => some next
  | none => l.receive?

/-- More steps than can be taken without moving the clock. -/
def effort (l : Listening) : Nat :=
  let toCome := l.scripts.foldl (fun n s => n + s.length + 2) 0
  4 * (l.playing.length + toCome + l.outbox.queue.length + 4)

/-- Runs until nobody can go on, or as many steps as are given. -/
def settleWithin : Nat → Listening → Listening
  | 0, l => l
  | steps + 1, l =>
    match l.step? with
    | some next => settleWithin steps next
    | none => l

def settle (l : Listening) : Listening := settleWithin l.effort l

/-- The next time at which something happens. -/
def nextTime? (l : Listening) : Option Nat :=
  match l.source.phase with
  | .listening => l.due
  | .pausing due => some due
  | _ => none

/-- Moves the clock to a later time, stopping whenever something happens. -/
def advanceTo (target : Nat) (l : Listening) : Listening :=
  let settled := l.settle
  match settled.nextTime? with
  | some time =>
    if l.now < time ∧ time ≤ target then advanceTo target { settled with now := time }
    else { settled with now := target }
  | none => { settled with now := target }
termination_by target - l.now
decreasing_by omega

def advance (l : Listening) (millis : Nat) : Listening := l.advanceTo (wakeTime l.now millis)

def shutdown (l : Listening) : Listening :=
  { l with world := l.world.step .shutdown }.settle

def stopped (l : Listening) : Bool := l.source.phase = .stopped

/-- A source that is about to start, with a client that has subscribed; the agent may be shut down
already. -/
def start (source : EventSource) (scripts : List EventScript) (down : Bool) : Listening :=
  let world := ({} : World).step (.connect listener 1024)
  let world := { world with hub := world.hub.subscribe listener ⟨[1, 0]⟩ }
  let world := if down then world.step .shutdown else world
  { source, scripts, world }

/-- Hands out what the client has seen, the first first, and forgets it. -/
def takeSeen (l : Listening) : Listening × List (Nat × Seen) :=
  ({ l with seen := [] }, l.seen.reverse)

end Listening

end Lookout.Rehearsal
