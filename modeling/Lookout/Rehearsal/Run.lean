import Lookout.Rehearsal.Stage

/-!
# Running a rehearsal

After everything that is done to the agent the stage is run until nobody can go on (`Stage.settle`).
The clock is moved in one of two ways: through every time at which somebody can go on, as real time
would (`Stage.advance`), or at once, so that whatever was due comes late (`Stage.jump`).

A session that is given a message answers before anybody else goes on. If it cannot send its reply,
the client takes one message after the other until it can; only when there is none to take do the
tasks go on (`Stage.complete`).
-/

namespace Lookout.Rehearsal

namespace Stage

/-- More steps than can be taken without moving the clock. Every portion and byte of a byte stream
leads to a few, and so does everything that waits. -/
def effort (s : Stage) : Nat :=
  let c := s.client
  let streams := s.openings.length + c.tasks.length + c.inbox.length + 2
  64 * (s.scripts.size + 1) * streams + 64 * (c.outbox.queue.length + c.ended.length + 1)

/-- Runs until all strands are asleep, or as many steps as are given. -/
def runStrands : Nat → Stage → Stage
  | 0, s => s
  | steps + 1, s =>
    let s := s.rouse
    match s.queue with
    | strand :: _ => runStrands steps (if s.canGoOn strand then s.perform strand else s.rest)
    | [] => s

/-- What comes next when all strands are asleep: the session is looked after, and then the client
takes a message. -/
def between? (s : Stage) : Option Stage :=
  if s.attendance ≠ .socket ∧ s.canGoOn .session then some (s.perform .session)
  else if !s.held && s.hasMessage then some s.receive
  else none

/-- Runs until nobody can go on, or as many rounds as are given. -/
def settleWithin : Nat → Stage → Stage
  | 0, s => s
  | rounds + 1, s =>
    let s := s.runStrands s.effort
    match s.between? with
    | some next => settleWithin rounds next
    | none => s

def settle (s : Stage) : Stage := settleWithin s.effort s

/-- Moves the clock to a later time, stopping whenever somebody can go on. -/
def advanceTo (target : Nat) (s : Stage) : Stage :=
  let settled := s.settle
  match settled.nextTime? with
  | some time =>
    if s.now < time ∧ time ≤ target then advanceTo target { settled with now := time }
    else { settled with now := target }
  | none => { settled with now := target }
termination_by target - s.now
decreasing_by omega

def advance (s : Stage) (millis : Nat) : Stage := s.advanceTo (wakeTime s.now millis)

def jump (s : Stage) (millis : Nat) : Stage := { s with now := s.now + millis }.settle

/-- Waits for the reply of the session, for as many steps as are given. -/
def completeWithin : Nat → Stage → Stage
  | 0, s => s
  | steps + 1, s =>
    if !s.client.pending.isSome then s
    else if s.canGoOn .session then completeWithin steps (s.perform .session)
    else if s.hasMessage then completeWithin steps s.receive
    else completeWithin steps (s.runStrands s.effort)

/-- Waits for the reply of the session. -/
def complete (s : Stage) : Stage := s.completeWithin s.effort

def happen (s : Stage) (a : Action) : Stage := (s.act a).settle

/-- The session is given something, and its reply is waited for. -/
def call (s : Stage) (a : Action) : Stage := (s.act a).complete.settle

/-- Retires the stream that ended first, if there is one. -/
def retireFirst (s : Stage) : Stage × Bool :=
  match s.client.closed, s.client.ended with
  | false, ended :: _ =>
    ({ s.act (.retire stageConn ended) with retired := s.retired + 1 }.settle, true)
  | _, _ => (s.settle, false)

/-- The client stops taking messages, or starts again. -/
def hold (s : Stage) (held : Bool) : Stage := { s with held := held }.settle

/-- Closes the session. As long as one of its tasks is left the closing waits, and the client takes
all messages meanwhile. -/
def closeSession (s : Stage) : Stage :=
  let closed := s.act (.close stageConn)
  if s.client.tasks.isEmpty then closed.settle else closed.receiveAll.settle

end Stage

/-- A stage with a client whose queue holds so many messages. -/
def Stage.start (services : Services) (scripts : Scripts) (capacity : Nat)
    (attendance : Attendance) : Stage :=
  let world : World := { services }
  { world := world.step (.connect stageConn capacity), scripts, attendance }

end Lookout.Rehearsal
