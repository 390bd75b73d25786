import Lookout.Container.Id
import Lookout.Task.StatsReader
import Lookout.Task.Ticker

/-!
# Feeding a container's samples

Two parts share a cell that holds the latest sample: a reader stores each sample as it comes, and a
sender takes what is there. The first sample is sent as soon as it comes, then the latest one at
each tick. At the first tick after the reader has stopped the sender ends; a sample that it has not
taken yet is sent before.

* `Cell` — the latest sample, and whether it was seen;
* `StatsFeed.wait`, `StatsFeed.resume` — the sender;
* `StatsFeed.readerStep` — the reader.
-/

namespace Lookout

/-- The message about a sample. -/
def ContainerStats.toMessage (s : ContainerStats) : Envelope := .of .containerStats s.toJson

/-- A cell that holds the latest sample. -/
structure Cell where
  latest : Option ContainerStats := none
  /-- Whether it came after the sender last looked. -/
  unseen : Bool := false
  deriving DecidableEq

namespace Cell

/-- Stores a sample in place of the last one. -/
def store (_ : Cell) (s : ContainerStats) : Cell := ⟨some s, true⟩

/-- The sender looks at the cell. The sample stays in it. -/
def see (c : Cell) : Cell := { c with unseen := false }

@[simp] theorem unseen_store (c : Cell) (s : ContainerStats) : (c.store s).unseen = true := rfl

@[simp] theorem unseen_see (c : Cell) : c.see.unseen = false := rfl

end Cell

/-- What the sender is at. -/
inductive SenderPhase where
  /-- The byte stream is being opened. -/
  | opening
  /-- The client is told that it could not be opened. -/
  | reporting (failure : Failure)
  | awaiting
  /-- It is about to take the sample. -/
  | taking (t : Ticker)
  | sending (s : ContainerStats) (t : Ticker)
  | waiting (t : Ticker)
  /-- It is about to look whether the reader has stopped. -/
  | checking (t : Ticker)
  | sendingLast (s : ContainerStats)
  | finished
  deriving DecidableEq

/-- A task that feeds a container's samples. -/
structure StatsFeed where
  containerId : ContainerId
  /-- The time between two messages, in milliseconds. -/
  period : Nat
  phase : SenderPhase := .opening
  reader : Option StatsReader := none
  cell : Cell := {}
  deriving DecidableEq

namespace StatsFeed

/-- The message that tells a client of a stream that could not be opened. -/
def failureMessage (f : Failure) : Envelope :=
  .error .statsStreamError ("failed to open stats stream: " ++ f.message)

/-! ### The sender -/

/-- What the sender waits for. A period that no ticker can have breaks it once there is a sample. -/
def wait (t : StatsFeed) : Wait :=
  match t.phase with
  | .opening => .opened
  | .reporting f => .room (failureMessage f)
  -- The first sample, the end of the reader, or neither yet.
  | .awaiting =>
    if t.cell.unseen then (if canTick t.period then .turn else .broken)
    else if t.reader.isNone then .turn
    else .sibling
  | .taking _ | .checking _ => .turn
  | .sending s _ => .room s.toMessage
  | .waiting ticker => .time ticker.due
  | .sendingLast s => .room s.toMessage
  | .finished => .finished

/-- Goes on to take the sample when there is a first one, and ends when there will be none. -/
def noticeFirst (t : StatsFeed) (now : Nat) : StatsFeed :=
  if t.cell.unseen then
    -- The first sample is taken at once, and its ticker starts now: the next tick is a period away.
    { t with cell := t.cell.see, phase := .taking ⟨now + t.period, t.period⟩ }
  else if t.reader.isNone then { t with phase := .finished }
  else t

/-- Takes the sample that is in the cell, seen or not. Before the first tick there is one. -/
def take (t : StatsFeed) (ticker : Ticker) : StatsFeed :=
  { t with
    cell := t.cell.see
    phase :=
      match t.cell.latest with
      | some s => .sending s ticker
      | none => .waiting ticker }

/-- Looks whether the reader has stopped; the sample is taken one last time if it is new. -/
def check (t : StatsFeed) (ticker : Ticker) : StatsFeed :=
  if t.reader.isNone then
    { t with
      cell := t.cell.see
      phase :=
        -- A sample that was sent already is not sent again.
        match t.cell.unseen, t.cell.latest with
        | true, some s => .sendingLast s
        | _, _ => .finished }
  else { t with phase := .taking ticker }

/-- The task after its sender went on without waiting. -/
def turn (t : StatsFeed) (now : Nat) : StatsFeed :=
  match t.phase with
  | .awaiting => t.noticeFirst now
  | .taking ticker => t.take ticker
  | .checking ticker => t.check ticker
  | _ => t

/-- The task after its sender was told something. -/
def resume (t : StatsFeed) (n : Notice) : StatsFeed :=
  match t.phase, n with
  -- The reader starts with the byte stream.
  | .opening, .opened (.ok ()) => { t with phase := .awaiting, reader := some {} }
  | .opening, .opened (.error f) => { t with phase := .reporting f }
  | .waiting ticker, .time now =>
    if ticker.due ≤ now then { t with phase := .checking (ticker.tick now) } else t
  | _, _ => t

/-- The task after its sender's message was queued, or never will be. -/
def sent (t : StatsFeed) (accepted : Bool) : StatsFeed :=
  match t.phase with
  | .sending _ ticker => { t with phase := if accepted then .waiting ticker else .finished }
  -- Both are the last message, whatever becomes of it.
  | .reporting _ | .sendingLast _ => { t with phase := .finished }
  | _ => t

/-- Whether the sender is past the opening of the byte stream. -/
def isSampling (t : StatsFeed) : Bool :=
  match t.phase with
  | .opening | .reporting _ | .finished => false
  | _ => true

/-! ### The reader -/

/-- Whether the reader can go on without a portion of the byte stream. -/
def readerReady (t : StatsFeed) : Bool := t.reader.any (·.isReady)

/-- The task after its reader read a line. -/
def readerStep (t : StatsFeed) : StatsFeed :=
  match t.reader with
  | none => t
  | some r =>
    match r.step with
    | .wait => t
    | .skip r => { t with reader := some r }
    | .store s r => { t with reader := some r, cell := t.cell.store (s.toStats t.containerId.text) }
    | .stop => { t with reader := none }

/-- The task after its reader got a portion of the byte stream. -/
def readerArrived (t : StatsFeed) (p : Portion) : StatsFeed :=
  { t with reader := t.reader.bind (·.arrived p) }

/-- The task after its reader was cancelled. -/
def readerCancelled (t : StatsFeed) : StatsFeed := { t with reader := none }

end StatsFeed

end Lookout
