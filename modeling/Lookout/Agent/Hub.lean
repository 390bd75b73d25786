import Lookout.Agent.Cancellation
import Lookout.Container.Event
import Lookout.Protocol.Envelope

/-!
# Handing events on

The hub keeps, in order, which connections want to hear of containers, each with the token under
which it does. An event is offered once for each registration that is not cancelled; whether a
connection takes it is its own affair.

* `Hub.subscribe`, `Hub.unsubscribe` — the registrations;
* `Hub.recipients` — who is offered an event;
* `eventMessage?` — the message about an event, if clients hear of it.
-/

namespace Lookout

abbrev ConnId := Nat

/-- A connection that wants to hear of containers. -/
structure Registration where
  conn : ConnId
  /-- The token under which it wants to. -/
  token : Token
  deriving DecidableEq

/-- Who wants to hear of containers. -/
structure Hub where
  /-- The registrations, the oldest first. -/
  registrations : List Registration := []
  deriving DecidableEq

namespace Hub

/-- Registers a connection; one that is registered already is registered twice. -/
def subscribe (h : Hub) (conn : ConnId) (token : Token) : Hub :=
  -- A session never asks twice, but nothing here relies on that.
  ⟨h.registrations ++ [⟨conn, token⟩]⟩

/-- Removes all registrations of a connection. -/
def unsubscribe (h : Hub) (conn : ConnId) : Hub :=
  ⟨h.registrations.filter fun r => r.conn != conn⟩

/-- How many registrations there are, cancelled ones included. -/
def count (h : Hub) : Nat := h.registrations.length

/-- The connections that are offered an event, once for each registration that is not cancelled. -/
def recipients (h : Hub) (cancelled : Cancellations) : List ConnId :=
  -- A cancelled registration is passed over and stays where it is; only its session removes it.
  (h.registrations.filter fun r => !cancelled.isCancelled r.token).map (·.conn)

end Hub

/-- The message about what happened to a container. -/
def ContainerEvent.toMessage (e : ContainerEvent) : Envelope :=
  .of .containerEvent e.toJson

/-- The message about an event of the daemon, if clients hear of it. -/
def eventMessage? (e : DaemonEvent) : Option Envelope :=
  (ContainerEvent.ofDaemon e).map ContainerEvent.toMessage

end Lookout
