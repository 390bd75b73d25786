import Lookout.Agent.Session

/-!
# Reading a socket

A socket is read by a loop that makes one choice at a time. That the agent shuts down counts before
all else; then every stream that has ended is retired before the next message of the client is
looked at. Text and binary messages are frames; signs of life have no effect here; a closing
message, a failure and the end of the messages end the loop.

* `Incoming` — what comes from a client;
* `nextChoice` — the choice that the loop makes.
-/

namespace Lookout

/-- How many messages wait for a socket's writer at most. -/
def socketCapacity : Nat := 256

/-- How many bytes a sign of life has at most. -/
def signCapacity : Nat := 125

/-- How many bytes any other message has at most. -/
def messageCapacity : Nat := 16 * 1024 * 1024

/-- What comes from a client. -/
inductive Incoming where
  | text (bytes : List UInt8)
  | binary (bytes : List UInt8)
  /-- A sign of life, which the socket itself answers. -/
  | ping (bytes : List UInt8)
  | pong (bytes : List UInt8)
  | close
  | failure
  | finish
  deriving DecidableEq

/-- Whether a message is short enough to be read. -/
def Incoming.fits : Incoming → Bool
  | text bytes | binary bytes => bytes.length ≤ messageCapacity
  | ping bytes | pong bytes => bytes.length ≤ signCapacity
  | close | failure | finish => true

/-- What is read when a client sends a message. -/
def Incoming.received (m : Incoming) : Incoming := if m.fits then m else .failure

/-- The bytes that a message has for the session. -/
def Incoming.frame? : Incoming → Option (List UInt8)
  | text bytes | binary bytes => some bytes
  | _ => none

/-- Whether the loop ends with this message. -/
def Incoming.ends : Incoming → Bool
  | close | failure | finish => true
  | _ => false

/-- What the loop does next. -/
inductive SocketChoice where
  | stop
  /-- It retires a stream that has ended. -/
  | retire (ended : Subscription)
  /-- It hands a frame to the session. -/
  | handle (frame : List UInt8)
  | skip
  | wait
  deriving DecidableEq

/-- **The choice that the loop makes,** from what it finds: whether the agent shuts down, which
streams have ended, and what the client sent. -/
def nextChoice (shutdown : Bool) (ended : List Subscription) (inbox : List Incoming) :
    SocketChoice :=
  if shutdown then .stop
  else
    match ended, inbox with
    -- Before the next message is looked at, so that a client that starts a stream anew is not told
    -- that it has it already.
    | s :: _, _ => .retire s
    | [], [] => .wait
    | [], m :: _ =>
      match m.frame? with
      | some frame => .handle frame
      -- The socket answers signs of life by itself; here they are only taken out of the way.
      | none => if m.ends then .stop else .skip

end Lookout
