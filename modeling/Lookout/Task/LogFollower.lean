import Lookout.Container.Framing
import Lookout.Container.Id
import Lookout.Task.Basic

/-!
# Following a container's output

A log follower opens the byte stream of a container's output, takes the frames from it and sends one
line for each. It does not start over: the end of the byte stream, and any failure, is its own end.
-/

namespace Lookout

/-- The message about a line. -/
def LogLine.toMessage (l : LogLine) : Envelope := .of .logLine l.toJson

/-- What a log follower is at. -/
inductive LogPhase where
  /-- The byte stream is being opened. -/
  | opening
  /-- The client is told that it could not be opened. -/
  | reporting (failure : Failure)
  | reading (d : Deframer)
  | sending (line : LogLine) (d : Deframer)
  | finished
  deriving DecidableEq

/-- A task that follows a container's output. -/
structure LogFollower where
  containerId : ContainerId
  /-- The longest frame that is not skipped. -/
  maxFrame : Nat
  phase : LogPhase := .opening
  deriving DecidableEq

namespace LogFollower

/-- The message that tells a client of a stream that could not be opened. -/
def failureMessage (f : Failure) : Envelope :=
  .error .logStreamError ("failed to open log stream: " ++ f.message)

/-- What the follower waits for. It holds one line at a time, and takes no portion before that is
queued. -/
def wait (t : LogFollower) : Wait :=
  match t.phase with
  | .opening => .opened
  | .reporting f => .room (failureMessage f)
  | .reading _ => .portion
  | .sending line _ => .room line.toMessage
  | .finished => .finished

/-- Takes the next frame from what has arrived, if one is complete. -/
def proceed (t : LogFollower) (d : Deframer) : LogPhase :=
  match d.next t.maxFrame with
  | (d, some f) => .sending (f.line t.containerId.text) d
  | (d, none) => .reading d

/-- The follower after it was told something. -/
def resume (t : LogFollower) (n : Notice) : LogFollower :=
  match t.phase, n with
  | .opening, .opened (.ok ()) => { t with phase := .reading {} }
  | .opening, .opened (.error f) => { t with phase := .reporting f }
  -- A portion may complete a frame; if it does not, the next portion is waited for.
  | .reading d, .portion (.bytes bs) => { t with phase := t.proceed (d.feed bs) }
  -- The end and a failure alike; what is left in the deframer is no frame.
  | .reading _, .portion _ => { t with phase := .finished }
  | _, _ => t

/-- The follower after its message was queued, or never will be. -/
def sent (t : LogFollower) (accepted : Bool) : LogFollower :=
  match t.phase with
  -- A line that could not be queued is lost, and the follower with it.
  | .sending _ d => { t with phase := if accepted then t.proceed d else .finished }
  | .reporting _ => { t with phase := .finished }
  | _ => t

/-- Whether the byte stream is open. -/
def isReading (t : LogFollower) : Bool :=
  match t.phase with
  | .reading _ | .sending _ _ => true
  | _ => false

end LogFollower

end Lookout
