import Lookout.Failure
import Lookout.Host.Metrics
import Lookout.Task.Basic

/-!
# Scripts

In a rehearsal the collaborators of the agent play from scripts. A script tells what a collaborator
answers and how long it takes, counted from the moment it is asked.

* `ByteScript` — a byte stream of the daemon: how opening it goes, what it yields, how it ends;
* `SnapshotScript` — a snapshot of the host;
* `Scripts` — all that the collaborators play, where the last script of a list is played again
  whenever the list has been played through.
-/

namespace Lookout.Rehearsal

/-- A portion that a byte stream yields. -/
structure Chunk where
  /-- How long it takes, in milliseconds. -/
  delay : Nat
  bytes : List UInt8

/-- How a byte stream ends. -/
inductive Ending where
  | follow
  | finish (delay : Nat)
  | failure (delay : Nat)

/-- What is left of a byte stream. -/
structure Playback where
  chunks : List Chunk := []
  ending : Ending := .follow

/-- What a byte stream yields next, how long that takes, and what is left of it then. -/
def Playback.next? (p : Playback) : Option (Nat × Portion × Playback) :=
  match p.chunks, p.ending with
  | c :: rest, ending => some (c.delay, .bytes c.bytes, { chunks := rest, ending })
  | [], .follow => none
  | [], .finish delay => some (delay, .ended, {})
  | [], .failure delay => some (delay, .failed, {})

/-- How many portions and bytes a byte stream still yields. -/
def Playback.size (p : Playback) : Nat :=
  p.chunks.foldl (fun n c => n + c.bytes.length + 1) 1

/-- A byte stream, from its opening on. -/
structure ByteScript where
  /-- How long opening it takes, in milliseconds. -/
  openDelay : Nat := 0
  outcome : Except Failure Playback

/-- A snapshot of the host. -/
structure SnapshotScript where
  /-- How long it takes, in milliseconds. -/
  delay : Nat := 0
  outcome : Except Failure HostMetrics

/-- What a byte stream of the daemon is about. -/
inductive Subject where
  | logs
  | stats
  deriving DecidableEq

/-- What the daemon plays. -/
structure DaemonScript where
  /-- The output of containers, by their names. -/
  logs : List (String × List ByteScript) := []
  /-- The samples of containers, by their names. -/
  stats : List (String × List ByteScript) := []
  /-- The version it tells, if it does. -/
  version : Option String := none

/-- What the collaborators play. -/
structure Scripts where
  /-- What the daemon plays, if there is one. -/
  daemon : Option DaemonScript := none
  snapshots : List SnapshotScript := []

/-- What is played the time after so many times. -/
def played {α : Type} (scripts : List α) (times : Nat) : Option α :=
  match scripts[times]? with
  | some s => some s
  | none => scripts.getLast?

/-- The failure to open a byte stream of a container that is not there. -/
def noSuchContainer (id : String) : Failure := .docker ("No such container: " ++ id)

namespace Scripts

/-- What is played when a container's byte stream is opened the time after so many times. -/
def stream (s : Scripts) (subject : Subject) (id : String) (times : Nat) : ByteScript :=
  let daemon := s.daemon.getD {}
  let scripts := match subject with
    | .logs => daemon.logs
    | .stats => daemon.stats
  match played ((scripts.lookup id).getD []) times with
  | some script => script
  | none => { outcome := .error (noSuchContainer id) }

/-- What is played when a snapshot is taken the time after so many times. -/
def snapshot (s : Scripts) (times : Nat) : SnapshotScript :=
  match played s.snapshots times with
  | some script => script
  | none => { outcome := .error (.metrics "no snapshot") }

def version (s : Scripts) : Option String := s.daemon.bind (·.version)

/-- How many portions and bytes all byte streams together yield. -/
def size (s : Scripts) : Nat :=
  let daemon := s.daemon.getD {}
  let scripts := (daemon.logs ++ daemon.stats).flatMap (·.2)
  scripts.foldl (fun n script => n + (script.outcome.toOption.getD {}).size) 0

end Scripts

end Lookout.Rehearsal
