import Lookout.Container.Event
import Lookout.Task.Clock

/-!
# Listening to the daemon's events

The daemon's events come as a stream that may fail or end. A source hands them on one by one; when
the stream fails or ends it waits a while and asks for a new one, until it is shut down.

* `EventSource.proceed` — what the source does on its own, a shutdown before all else;
* `EventSource.resume` — what it does with what the stream yields.
-/

namespace Lookout

/-- What a stream of events yields. -/
inductive EventItem where
  | event (e : DaemonEvent)
  | failed
  | ended

/-- What a source is at. -/
inductive ListeningPhase where
  /-- It is about to ask for a stream. -/
  | starting
  | listening
  /-- It waits before it asks for the next one. -/
  | pausing (due : Nat)
  | stopped
  deriving DecidableEq

/-- A source of events. -/
structure EventSource where
  /-- How long it waits between two streams, in milliseconds. -/
  delay : Nat := 2000
  phase : ListeningPhase := .starting
  deriving DecidableEq

namespace EventSource

/-- The source after it went on by itself. -/
def proceed (s : EventSource) (shutdown : Bool) (now : Nat) : EventSource :=
  -- Looked at before the phase: a source that shuts down asks for no further stream.
  if shutdown then { s with phase := .stopped }
  else
    match s.phase with
    | .starting => { s with phase := .listening }
    | .pausing due => if due ≤ now then { s with phase := .starting } else s
    | _ => s

/-- The source after its stream yielded something, and the event that is handed on. -/
def resume (s : EventSource) (i : EventItem) (now : Nat) : EventSource × Option DaemonEvent :=
  match s.phase, i with
  | .listening, .event e => (s, some e)
  -- A failure and the end are treated alike: both lead to a pause, not to an end.
  | .listening, _ => ({ s with phase := .pausing (wakeTime now s.delay) }, none)
  | _, _ => (s, none)

end EventSource

end Lookout
