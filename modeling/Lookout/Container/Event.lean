import Lookout.Container.Id
import Lookout.Json.Record

/-!
# Container events

The daemon reports what happens to every object it keeps. Clients hear of the steps in a container's
life only: `ContainerEvent.ofDaemon` picks those and says them in the client's words.
-/

namespace Lookout

open Json (Value Decoder Field Fields)

/-- The steps in a container's life. -/
inductive LifecycleAction where
  | start
  | stop
  | die
  | kill
  | restart
  | create
  | destroy
  deriving DecidableEq

namespace LifecycleAction

/-- The name of a step, in the daemon's words and in the client's. -/
def name : LifecycleAction → String
  | start => "start"
  | stop => "stop"
  | die => "die"
  | kill => "kill"
  | restart => "restart"
  | create => "create"
  | destroy => "destroy"

/-- All steps that clients hear of. -/
def all : List LifecycleAction := [start, stop, die, kill, restart, create, destroy]

/-- The names of the steps, each with the step that it stands for. -/
def choices : List (String × LifecycleAction) := all.map fun a => (a.name, a)

/-- The step of a name; other things that happen to containers have none. -/
def ofName? (name : String) : Option LifecycleAction := choices.lookup name

end LifecycleAction

/-! ### What the daemon reports -/

abbrev Attributes := List (String × String)

/-- What the daemon reports of one object. -/
structure DaemonEvent where
  kind : String
  action : String
  actorId : String := ""
  attributes : Attributes := []
  /-- When it happened, in seconds since the epoch. -/
  time : Int64 := 0

namespace DaemonEvent

/-- Whether it is about a container. -/
def isContainer (e : DaemonEvent) : Bool := e.kind == "container"

/-- An attribute; empty if it is absent. -/
def attr (e : DaemonEvent) (name : String) : String :=
  (e.attributes.lookup name).getD ""

end DaemonEvent

/-- The object that a message of the daemon is about. -/
structure Actor where
  id : Option String := none
  attributes : Option Attributes := none

/-- A message of the daemon's event feed, in which everything may be absent. -/
structure DaemonMessage where
  type : Option String := none
  action : Option String := none
  actor : Option Actor := none
  time : Option Int64 := none

/-- The types of objects that the daemon keeps. -/
def objectTypes : List String :=
  ["builder", "config", "container", "daemon", "image", "network", "node", "plugin", "secret",
    "service", "volume"]

/-- The event of a message: what is absent is empty, and so is a type that the daemon does not
have. -/
def DaemonEvent.ofMessage (m : DaemonMessage) : DaemonEvent :=
  -- A type that is not known becomes the empty text, and with that no container's.
  { kind := (m.type.filter objectTypes.contains).getD ""
    action := m.action.getD ""
    actorId := (m.actor.bind (·.id)).getD ""
    attributes := (m.actor.bind (·.attributes)).getD []
    time := m.time.getD 0 }

/-! ### What clients hear -/

/-- The label that says to which composed project a container belongs. -/
def projectLabel : String := "com.docker.compose.project"

/-- A step in a container's life, as clients hear of it. -/
structure ContainerEvent where
  action : LifecycleAction
  /-- The abbreviated identifier of the container. -/
  containerId : String
  containerName : String
  image : String
  /-- The composed project it belongs to; empty for none. -/
  stack : String
  /-- The name of the step once more. -/
  status : String
  /-- When it happened, in seconds since the epoch. -/
  time : Int64
  deriving DecidableEq

namespace ContainerEvent

/-- The event as clients hear it, if they hear it at all. -/
def ofDaemon (e : DaemonEvent) : Option ContainerEvent :=
  -- First what it is about and then what happened: other objects have steps of the same name.
  if e.isContainer then
    (LifecycleAction.ofName? e.action).map fun action =>
      { action := action
        containerId := shortId e.actorId
        containerName := e.attr "name"
        image := e.attr "image"
        stack := e.attr projectLabel
        -- The same name a second time, as a text of its own.
        status := action.name
        time := e.time }
  else none

/-- An event as a JSON object. All its members are always there. -/
def toJson (e : ContainerEvent) : Value :=
  .object
    [("action", .string e.action.name), ("container_id", .string e.containerId),
      ("container_name", .string e.containerName), ("image", .string e.image),
      ("stack", .string e.stack), ("status", .string e.status), ("time", .ofInt64 e.time)]

def fields : Fields (LifecycleAction × String × String × String × String × String × Int64 × Unit) :=
  .cons ⟨"action", Decoder.choice LifecycleAction.choices, none⟩
    (.cons ⟨"container_id", Decoder.text, none⟩
      (.cons ⟨"container_name", Decoder.text, none⟩
        (.cons ⟨"image", Decoder.text, none⟩
          (.cons ⟨"stack", Decoder.text, none⟩
            (.cons ⟨"status", Decoder.text, none⟩
              (.cons ⟨"time", Decoder.int64, none⟩ .nil))))))

def decoder : Decoder ContainerEvent :=
  (Fields.record "ContainerEvent" fields).map
    fun (action, containerId, containerName, image, stack, status, time, ()) =>
      ⟨action, containerId, containerName, image, stack, status, time⟩

end ContainerEvent

end Lookout
