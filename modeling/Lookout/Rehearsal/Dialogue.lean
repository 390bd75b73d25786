import Lookout.Rehearsal.Run

/-!
# Dialogues at a socket

At a socket the client's messages go to the loop that reads it, and the queue is written out as soon
as there is something in it. Signs of life are answered by the socket itself. When the loop has
ended the session is closed, and the client sees the end of the connection after the last message; a
client that has vanished sees nothing.
-/

namespace Lookout.Rehearsal

/-- A client at a socket. -/
structure Dialogue where
  stage : Stage
  /-- Whether the client sees nothing more. -/
  finished : Bool := false

namespace Dialogue

def start (services : Services) (scripts : Scripts) : Dialogue :=
  ⟨.start services scripts socketCapacity .socket, false⟩

/-- Something is done on the stage, after which the client may see the end of the connection. -/
def happen (d : Dialogue) (f : Stage → Stage) : Dialogue :=
  let stage := f d.stage
  if d.finished then { d with stage := { stage with seen := [] } }
  else if stage.client.closed then ⟨stage.note .closed, true⟩
  else { d with stage }

def send (d : Dialogue) (m : Incoming) : Dialogue :=
  d.happen fun s =>
    let m := m.received
    let s := match m with
      | .ping bytes => s.note (.pong bytes)
      | _ => s
    s.happen (.arrive stageConn m)

def vanish (d : Dialogue) : Dialogue :=
  { d with finished := true }.happen fun s =>
    (s.act (.leave stageConn)).happen (.arrive stageConn .finish)

end Dialogue

end Lookout.Rehearsal
