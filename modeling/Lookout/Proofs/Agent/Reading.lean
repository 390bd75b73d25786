import Lookout.Proofs.Agent.Turn

/-!
# A socket's loop retires before it reads

Three things compete for the loop of a socket: that the agent shuts down, the streams that have
ended, and the messages of the client. The loop looks at a message only if no stream waits to be
retired, so that the session decides on it without the streams whose end was reported before.

Messages and ends wait in two queues, and both are served from the front. What came to each of them
is therefore what has left it with what is still in it (`Tracks.unread`, `Tracks.retired`). A stream
whose end was reported is held by the session only while its end waits (`Tracks.held`): the session
starts streams under new numbers, which were never reported, and to retire a stream is to forget it.

* `Chosen` — when the loop makes which choice;
* `Client.Served`, `World.pass_served` — all that a moment means to a client whose session is served
  by its loop alone;
* `Intake` — what came to a socket and what became of it;
* `Intake.Tracks` — how this fits to the client at any moment;
* `Intake.Leaves`, `Intake.leaves_foldl` — a loop that has come to its end does nothing more;
* `Intake.RetiresFirst`, `Intake.retiresFirst_of` — what the loop has handled, and what a session
  holds when it does.
-/

namespace Lookout

/-! ### Choices -/

/-- **When the loop makes which choice.** Each constructor lists what was waiting when the choice
was made, in the order in which it is asked: the shutdown, the ends, the inbox. Two of them end in
`.stop`, and only one of these has looked at a message. -/
inductive Chosen (shutdown : Bool) (ended : List Subscription) (inbox : List Incoming) :
    SocketChoice → Prop where
  | shutdown (h : shutdown = true) : Chosen shutdown ended inbox .stop
  | retire {sub : Subscription} {rest : List Subscription} (going : shutdown = false)
    (queue : ended = sub :: rest) : Chosen shutdown ended inbox (.retire sub)
  | wait (going : shutdown = false) (retired : ended = []) (empty : inbox = []) :
    Chosen shutdown ended inbox .wait
  | handle {m : Incoming} {rest : List Incoming} {frame : List UInt8} (going : shutdown = false)
    (retired : ended = []) (queue : inbox = m :: rest) (content : m.frame? = some frame) :
    Chosen shutdown ended inbox (.handle frame)
  | stop {m : Incoming} {rest : List Incoming} (going : shutdown = false) (retired : ended = [])
    (queue : inbox = m :: rest) (ends : m.ends = true) : Chosen shutdown ended inbox .stop
  | skip {m : Incoming} {rest : List Incoming} (going : shutdown = false) (retired : ended = [])
    (queue : inbox = m :: rest) (content : m.frame? = none) (goesOn : m.ends = false) :
    Chosen shutdown ended inbox .skip

/-- The loop makes no choice without the grounds for it, which `Chosen` names. By cases as
`nextChoice` makes them. -/
theorem chosen_nextChoice (shutdown : Bool) (ended : List Subscription) (inbox : List Incoming) :
    Chosen shutdown ended inbox (nextChoice shutdown ended inbox) := by
  -- In the order in which the choice is made: a shutdown, an end that waits, the first message.
  cases shutdown with
  | true => exact .shutdown rfl
  | false =>
    cases ended with
    | cons sub rest => exact .retire rfl rfl
    | nil =>
      cases inbox with
      | nil => exact .wait rfl rfl rfl
      | cons m rest =>
        cases m with
        | text bytes | binary bytes => exact .handle rfl rfl rfl rfl
        | ping bytes | pong bytes => exact .skip rfl rfl rfl rfl rfl
        | close | failure | finish => exact .stop rfl rfl rfl rfl

/-! ### Moments -/

namespace Client

/-- **What a moment means to a client** whose session is served by the loop of its socket. `handles`
is the only constructor in which a reply becomes pending, and `retires`, `handles` and `skips` are
the only ones in which anything leaves a queue. -/
inductive Served (services : Services) (shutdown : Bool) (c : Client) : Client → Prop where
  /-- Nothing that the loop looks at changes, but that the session may start a stream. -/
  | rests {c' : Client} (inbox : c'.inbox = c.inbox) (ended : c'.ended = c.ended)
    (closed : c'.closed = c.closed)
    (session : c'.session = c.session ∨ ∃ stream, c'.session = c.session.insert stream)
    (undecided : c.pending = none → c'.pending = none) : Served services shutdown c c'
  /-- A message comes in. -/
  | arrives (m : Incoming) : Served services shutdown c { c with inbox := c.inbox ++ [m] }
  /-- The end of a task is reported. -/
  | reports {c' : Client} {sub : Subscription} (running : sub ∈ c.running)
    (inbox : c'.inbox = c.inbox) (ended : c'.ended = c.ended ++ [sub])
    (closed : c'.closed = c.closed) (session : c'.session = c.session)
    (pending : c'.pending = c.pending) : Served services shutdown c c'
  /-- The loop comes to its end. -/
  | stops (reason : shutdown = true ∨ ∃ m rest, c.inbox = m :: rest ∧ m.ends = true) :
    Served services shutdown c { c with closed := true }
  | retires {sub : Subscription} {rest : List Subscription} (going : c.closed = false)
    (queue : c.ended = sub :: rest) :
    Served services shutdown c { c with session := c.session.retire sub, ended := rest }
  /-- The session decides on a frame. -/
  | handles {m : Incoming} {rest : List Incoming} {frame : List UInt8} {session : Session}
    {start : Option (Stream × Option Int64)} (going : c.closed = false)
    (undecided : c.pending = none) (retired : c.ended = []) (queue : c.inbox = m :: rest)
    (content : m.frame? = some frame) (goesOn : m.ends = false)
    (kept : session = c.session ∨ ∃ stream, session = c.session.erase stream) :
    Served services shutdown c { c with
      inbox := rest
      session := session
      pending := some
        { message := (c.session.decideFrame services frame).1.reply
            (c.session.decideFrame services frame).2
          start } }
  | skips {m : Incoming} {rest : List Incoming} (going : c.closed = false)
    (queue : c.inbox = m :: rest) (content : m.frame? = none) (goesOn : m.ends = false) :
    Served services shutdown c { c with inbox := rest }

variable {services : Services} {shutdown : Bool} {c : Client}

/-- Nothing happens to the client, which is a case of `rests`. -/
theorem Served.refl : Served services shutdown c c := .rests rfl rfl rfl (.inl rfl) fun h => h

/-- What happens to its queue is nothing to the loop, as it reads the inbox and not the queue. -/
theorem Served.of_outbox (outbox : Outbox) :
    Served services shutdown c { c with outbox := outbox } :=
  .rests rfl rfl rfl (.inl rfl) fun h => h

end Client

theorem Incoming.ends_of_frame {m : Incoming} {frame : List UInt8} (h : m.frame? = some frame) :
    m.ends = false := by
  cases m <;> first | rfl | cases h

namespace World

variable {w w' : World} {conn : ConnId} {c : Client}

/-- Whether the session of a connection is served other than by the loop of its socket. -/
def Moment.isDirect (conn : ConnId) : Moment → Bool
  | .happens (.act (.frame other _)) | .happens (.act (.dispatch other _)) => other = conn
  | .happens (.act (.retire other _)) | .happens (.act (.close other)) => other = conn
  | _ => false

/-- A session that decides has its reply pending, and may have given up a stream. It has not started
any: that is left to the reply. -/
theorem handle_decides (found : w.client? conn = some c) (idle : c.isIdle)
    (decide : Session → Verdict × Option String) : ∃ session start,
    (w.handle conn decide).client? conn = some { c with
      session := session
      pending := some
        { message := (decide c.session).1.reply (decide c.session).2, start } } ∧
    (session = c.session ∨ ∃ stream, session = c.session.erase stream) := by
  unfold handle
  rw [found]
  simp only [if_pos idle]
  rcases decide c.session with ⟨verdict, id⟩
  -- Only to stop a stream changes the session at once; all else waits for the reply.
  cases verdict with
  | pong
  | reject r
  | start stream interval =>
    exact ⟨_, _, client?_modify _ (fun _ => rfl) found, .inl rfl⟩
  | stop stream name =>
    dsimp only [carryOut]
    split
    · next sub hfind =>
      have hstop := client?_stop sub found
      exact ⟨c.session.erase sub.stream, none, client?_modify
        (fun c => { c with pending := some { message := (Verdict.stop stream name).reply id } })
        (fun _ => rfl) hstop, .inr ⟨sub.stream, rfl⟩⟩
    · exact ⟨_, _, client?_modify _ (fun _ => rfl) found, .inl rfl⟩

/-- The frame of the next message is handed to the session, which decides on it. The message has
left the inbox before the session looks at it, in one step of the agent. -/
theorem handle_next (found : w.client? c.id = some c) (idle : c.isIdle) (frame : List UInt8)
    {m : Incoming} {rest : List Incoming} (queue : c.inbox = m :: rest) : ∃ session start,
    ((w.modify c.id fun c => { c with inbox := c.inbox.tail }).handle c.id
        (·.decideFrame w.services frame)).client? c.id = some { c with
      inbox := rest
      session := session
      pending := some
        { message := (c.session.decideFrame w.services frame).1.reply
            (c.session.decideFrame w.services frame).2
          start } } ∧
    (session = c.session ∨ ∃ stream, session = c.session.erase stream) := by
  have hrest := client?_modify (fun c => { c with inbox := c.inbox.tail }) (fun _ => rfl) found
  rw [queue, List.tail_cons] at hrest
  exact handle_decides hrest idle (·.decideFrame w.services frame)

/-- What the loop does when it chooses a frame is `handle_next`, at the state that `nextChoice` has
looked at. -/
theorem choose_handles (found : w.client? c.id = some c) (idle : c.isIdle) {frame : List UInt8}
    (choice : nextChoice w.isShutDown c.ended c.inbox = .handle frame) {m : Incoming}
    {rest : List Incoming} (queue : c.inbox = m :: rest) : ∃ c' start,
    (w.choose c.id).client? c.id = some c' ∧
    c'.pending = some
      { message := (c.session.decideFrame w.services frame).1.reply
          (c.session.decideFrame w.services frame).2
        start } ∧ c'.inbox = rest := by
  obtain ⟨session, start, hclient, -⟩ := handle_next found idle frame queue
  refine ⟨{ c with inbox := rest, session := session, pending := _ }, start, ?_, rfl, rfl⟩
  unfold choose
  rw [found]
  dsimp only
  rw [if_pos idle, choice]
  exact hclient

/-- When the loop skips a message, that one leaves the inbox, and nothing else is touched. -/
theorem choose_skips (found : w.client? conn = some c) (idle : c.isIdle)
    (choice : nextChoice w.isShutDown c.ended c.inbox = .skip) :
    w.choose conn = w.modify conn fun c => { c with inbox := c.inbox.tail } := by
  unfold choose
  rw [found]
  dsimp only
  rw [if_pos idle, choice]

/-- **Every choice of the loop is one of these moments.** The cases are those of `Chosen`, which say
of each choice what was waiting when it was made. A session that waits for its reply chooses
nothing. -/
theorem choose_served (found : w.client? c.id = some c) :
    ∃ c', (w.choose c.id).client? c.id = some c' ∧
      c.Served w.services w.isShutDown c' := by
  unfold choose
  rw [found]
  dsimp only
  split
  · next idle =>
    -- The choice says what stands first in the inbox and among the ends, and each has its own
    -- constructor.
    have hchosen := chosen_nextChoice w.isShutDown c.ended c.inbox
    split
    · next choice =>
      rw [choice] at hchosen
      refine ⟨_, client?_close found idle, .stops ?_⟩
      cases hchosen with
      | shutdown down => exact .inl down
      | stop _ _ queue ends => exact .inr ⟨_, _, queue, ends⟩
    · next sub choice =>
      rw [choice] at hchosen
      cases hchosen with
      | @retire _ rest _ queue =>
        -- It is the one that has waited longest, so the others are what is left without it.
        have hmem : sub ∈ c.ended := by
          rw [queue]
          exact List.mem_cons_self
        have hrest : c.ended.erase sub = rest := by rw [queue, List.erase_cons_head]
        rw [retire_eq found idle hmem]
        refine ⟨_, client?_modify _ (fun _ => rfl) found, ?_⟩
        rw [hrest]
        exact .retires (Client.closed_of_isIdle idle) queue
    · next frame choice =>
      rw [choice] at hchosen
      cases hchosen with
      | handle _ retired queue content =>
        obtain ⟨session, start, hclient, kept⟩ := handle_next found idle frame queue
        exact ⟨_, hclient, .handles (Client.closed_of_isIdle idle) (Client.pending_of_isIdle idle)
          retired queue content (Incoming.ends_of_frame content) kept⟩
    · next choice =>
      rw [choice] at hchosen
      cases hchosen with
      | skip _ _ queue content goesOn =>
        refine ⟨_, client?_modify _ (fun _ => rfl) found, ?_⟩
        rw [queue]
        exact .skips (Client.closed_of_isIdle idle) queue content goesOn
    · exact ⟨c, found, .refl⟩
  · exact ⟨c, found, .refl⟩

/-- A reply that is sent, or waits on, is nothing to the loop but that a stream may start with
it. -/
theorem reply_served (found : w.client? c.id = some c) (now : Nat) :
    ∃ c', (w.reply c.id now).client? c.id = some c' ∧ c.Served w.services w.isShutDown c' := by
  unfold reply
  rw [found]
  dsimp only
  split
  · exact ⟨c, found, .refl⟩
  · split
    · -- a reply that waits for room keeps the session waiting
      exact ⟨c, found, .refl⟩
    · next outbox sending hsettled hsent =>
      have hmodify := client?_modify (fun c => { c with outbox := outbox, pending := none })
        (fun _ => rfl) found
      split
      · exact ⟨_, hmodify, .rests rfl rfl rfl (.inl rfl) fun _ => rfl⟩
      · next stream interval hstart =>
        exact ⟨_, client?_start hmodify, .rests rfl rfl rfl (.inr ⟨stream, rfl⟩) fun _ => rfl⟩

theorem finish_served {t : StreamTask} (found : w.client? c.id = some c)
    (running : t.subscription ∈ c.running) :
    ∃ c', (w.finish c.id t).client? c.id = some c' ∧ c.Served w.services w.isShutDown c' :=
  ⟨_, client?_finish t found, .reports running rfl rfl rfl rfl rfl⟩

/-- What a task is at is nothing to the loop, which looks at `inbox` and `ended`. -/
theorem updateBody_served (found : w.client? c.id = some c) (generation : Nat)
    (f : TaskBody → TaskBody) : ∃ c', (w.updateBody c.id generation f).client? c.id = some c' ∧
      c.Served w.services w.isShutDown c' :=
  ⟨_, client?_modify _ (fun _ => rfl) found, .rests rfl rfl rfl (.inl rfl) fun h => h⟩

/-- A task that goes on is nothing to the loop, unless it ends and is reported. -/
theorem proceed_served (found : w.client? c.id = some c) (generation now : Nat) :
    ∃ c', (w.proceed c.id generation now).client? c.id = some c' ∧
      c.Served w.services w.isShutDown c' := by
  unfold proceed
  rw [found]
  dsimp only [Option.bind_some]
  split
  · exact ⟨c, found, .refl⟩
  · next c' t htask =>
    obtain ⟨t', task, heq⟩ := Option.map_eq_some_iff.mp htask
    obtain ⟨rfl, rfl⟩ := Prod.mk.inj heq
    split
    · exact ⟨_, found, .refl⟩
    · next hdone =>
      -- Only a task that runs can end, so no end is reported twice.
      rw [Bool.not_eq_true] at hdone
      obtain ⟨hrunning, -⟩ := Client.mem_running_of_task? task hdone
      split
      · exact finish_served found hrunning
      -- Broken down, going on without waiting, and sending: nobody is told in any of them.
      · split
        · exact finish_served found hrunning
        · exact ⟨_, client?_breakDown _ found, .rests rfl rfl rfl (.inl rfl) fun h => h⟩
        · exact updateBody_served found generation _
        · split
          · exact ⟨_, found, .refl⟩
          · exact ⟨_, client?_modify _ (fun _ => rfl) (client?_modify _ (fun _ => rfl) found),
              .rests rfl rfl rfl (.inl rfl) fun h => h⟩
        · exact ⟨_, found, .refl⟩

/-- A task that is ended by others is reported, if it ran. -/
theorem endTask_served (found : w.client? c.id = some c) (generation : Nat) :
    ∃ c', (w.endTask c.id generation).client? c.id = some c' ∧
      c.Served w.services w.isShutDown c' := by
  unfold endTask
  split
  · exact ⟨c, found, .refl⟩
  · next t htask =>
    obtain ⟨c', found', task⟩ := Option.bind_eq_some_iff.mp htask
    obtain rfl := Option.some.inj (found.symm.trans found')
    split
    · exact ⟨c, found, .refl⟩
    · next hdone =>
      rw [Bool.not_eq_true] at hdone
      exact finish_served found (Client.mem_running_of_task? task hdone).1

/-- An action at the connection, if it is not a call of its session. The four that are not the
loop's are ruled out by `indirect`. -/
theorem step_served (found : w.client? c.id = some c) (a : Action) (about : a.conn? = some c.id)
    (indirect : Moment.isDirect c.id (.happens (.act a)) = false) :
    ∃ c', (w.step a).client? c.id = some c' ∧ c.Served w.services w.isShutDown c' := by
  -- By the action; those of the first case are what only the loop itself may do.
  cases a <;> cases about
  case frame | dispatch | retire | close =>
    simp [Moment.isDirect] at indirect
  case connect capacity =>
    refine ⟨c, ?_, .refl⟩
    rw [step, connect, found]
    exact found
  case reply now => exact reply_served found now
  case proceed generation now => exact proceed_served found generation now
  case tell generation notice =>
    rw [step, tell]
    split
    · exact ⟨c, found, .refl⟩
    · split
      · exact ⟨c, found, .refl⟩
      · exact updateBody_served found generation _
  case read generation =>
    rw [step, read]
    split <;> exact updateBody_served found generation _
  case supply generation portion =>
    rw [step, supply]
    split
    · exact ⟨c, found, .refl⟩
    · exact updateBody_served found generation _
  case arrive m => exact ⟨_, client?_modify _ (fun _ => rfl) found, .arrives m⟩
  case choose => exact choose_served found
  case take => exact ⟨_, client?_modify _ (fun _ => rfl) found, .of_outbox _⟩
  case leave => exact ⟨_, client?_modify _ (fun _ => rfl) found, .of_outbox _⟩

/-- Events only enter queues, which is nothing to the loop (`Served.of_outbox`). -/
theorem publish_served (found : w.client? c.id = some c) (event : DaemonEvent) :
    ∃ c', (w.publish event).client? c.id = some c' ∧ c.Served w.services w.isShutDown c' := by
  unfold publish
  split
  · rw [broadcast, client?_updateOutboxes, found]
    exact ⟨_, rfl, .of_outbox _⟩
  · exact ⟨c, found, .refl⟩

/-- An event that is offered in the middle of a broadcast enters a queue as well. -/
theorem offer_served (found : w.client? c.id = some c) (r : Registration) (event : DaemonEvent) :
    ∃ c', (w.offer r event).client? c.id = some c' ∧ c.Served w.services w.isShutDown c' := by
  unfold offer
  split
  · split
    · by_cases heq : c.id = r.conn
      · rw [heq] at found ⊢
        exact ⟨_, client?_modify _ (fun _ => rfl) found, .of_outbox _⟩
      · refine ⟨c, ?_, .refl⟩
        rw [client?_updateOutbox_of_ne w _ heq, found]
    · exact ⟨c, found, .refl⟩
  · exact ⟨c, found, .refl⟩

/-- **Every moment is one of the cases of `Client.Served`,** if the session is served by the loop of
its socket. Moments of other connections leave the client as it is. -/
theorem pass_served (found : w.client? c.id = some c) (m : Moment)
    (indirect : m.isDirect c.id = false) :
    ∃ c', (w.pass m).client? c.id = some c' ∧ c.Served w.services w.isShutDown c' := by
  -- A moment that is about nobody, or about another connection, leaves the client as it is.
  cases m with
  | offers r event => exact offer_served found r event
  | happens h =>
    cases h with
    | act a =>
      cases about : a.conn? with
      | some other =>
        by_cases heq : other = c.id
        · exact step_served found a (by rw [about, heq]) indirect
        · have hsame := (step_changesAt w a about fun _ => trivial).sameAt (Ne.symm heq)
          exact ⟨c, hsame.client.trans found, .refl⟩
      | none =>
        cases a with
        | publish event => exact publish_served found event
        | shutdown => exact ⟨c, found, .refl⟩
        | _ => cases about
    | ends other generation =>
      by_cases heq : other = c.id
      · rw [heq]
        exact endTask_served found generation
      · have hchanges : ChangesAt True other w (w.endTask other generation) :=
          endTask_changes w other generation
        exact ⟨c, (hchanges.sameAt (Ne.symm heq)).client.trans found, .refl⟩

end World

/-! ### What came and what became of it -/

section Queues

variable {α : Type}

/-- What came to a queue between two times, at which it was these. This is right where nothing left
it in between. -/
def cameTo (before after : List α) : List α := after.drop before.length

/-- What left it, from its front. This is right where nothing came in between; no moment does both
to one queue. -/
def leftFrom (before after : List α) : List α := before.take (before.length - after.length)

@[simp] theorem cameTo_append (before new : List α) : cameTo before (before ++ new) = new :=
  List.drop_left

@[simp] theorem cameTo_self (before : List α) : cameTo before before = [] := List.drop_length

@[simp] theorem cameTo_tail (a : α) (rest : List α) : cameTo (a :: rest) rest = [] :=
  List.drop_of_length_le (by simp)

@[simp] theorem leftFrom_append (before new : List α) : leftFrom before (before ++ new) = [] := by
  rw [leftFrom, List.length_append, Nat.sub_eq_zero_of_le (Nat.le_add_right _ _), List.take_zero]

@[simp] theorem leftFrom_self (before : List α) : leftFrom before before = [] := by
  rw [leftFrom, Nat.sub_self, List.take_zero]

@[simp] theorem leftFrom_tail (a : α) (rest : List α) : leftFrom (a :: rest) rest = [a] := by
  simp [leftFrom]

end Queues

/-- **What came to the socket of a connection, and what became of it.** All five lists are read off
the client before and after each moment, so the loop itself keeps no record. -/
structure Intake where
  world : World
  /-- The messages that came in. -/
  arrived : List Incoming := []
  /-- Those that the loop has looked at. -/
  looked : List Incoming := []
  /-- The frames in them on which the session decided. -/
  handled : List (List UInt8) := []
  /-- The streams whose end was reported. -/
  reported : List Subscription := []
  retired : List Subscription := []

namespace Intake

/-- What came and what was done in a moment is written down. The session has decided on a frame if a
reply is pending that was not before. -/
def note (conn : ConnId) (r : Intake) (m : World.Moment) : Intake :=
  let world := r.world.pass m
  match r.world.client? conn, world.client? conn with
  | some c, some c' =>
    let looked := leftFrom c.inbox c'.inbox
    { world
      arrived := r.arrived ++ cameTo c.inbox c'.inbox
      looked := r.looked ++ looked
      handled := r.handled ++
        if c.pending.isNone && c'.pending.isSome then looked.filterMap Incoming.frame? else []
      reported := r.reported ++ cameTo c.ended c'.ended
      retired := r.retired ++ leftFrom c.ended c'.ended }
  | _, _ => { r with world }

/-- What came to a socket from the start of the agent on. -/
def of (services : Services) (conn : ConnId) (moments : List World.Moment) : Intake :=
  moments.foldl (note conn) { world := { services := services } }

variable {services : Services} {conn : ConnId} {r : Intake} {c c' : Client} {m : World.Moment}

/-- The record changes nothing: its world is that in which the moment has passed. -/
theorem world_note (conn : ConnId) (r : Intake) (m : World.Moment) :
    (r.note conn m).world = r.world.pass m := by
  unfold note
  dsimp only
  split <;> rfl

/-- What is written down of a moment, where the client is there before it and after it: what came to
its queues (`cameTo`), and what left them (`leftFrom`). -/
theorem note_of_client (found : r.world.client? conn = some c)
    (found' : (r.world.pass m).client? conn = some c') :
    r.note conn m =
      { world := r.world.pass m
        arrived := r.arrived ++ cameTo c.inbox c'.inbox
        looked := r.looked ++ leftFrom c.inbox c'.inbox
        handled := r.handled ++
          if c.pending.isNone && c'.pending.isSome then
            (leftFrom c.inbox c'.inbox).filterMap Incoming.frame?
          else []
        reported := r.reported ++ cameTo c.ended c'.ended
        retired := r.retired ++ leftFrom c.ended c'.ended } := by
  simp only [note, found, found']

/-- **How the record fits to the client.** `unread` and `retired` say of the two queues that nothing
is lost or reordered. `held` is what retiring first is for, and needs `given`: a stream that starts
later has a number that was not reported. -/
structure Tracks (r : Intake) (c : Client) : Prop where
  unread : r.arrived = r.looked ++ c.inbox
  goesOn : ∀ m ∈ r.looked, m.ends = false
  handled : r.handled = r.looked.filterMap Incoming.frame?
  /-- A loop that has come to its end was shut down, or has before it what ends it. -/
  closed : c.closed = true →
    r.world.isShutDown = true ∨ ∃ m rest, c.inbox = m :: rest ∧ m.ends = true
  retired : r.reported = r.retired ++ c.ended
  given : ∀ sub ∈ r.reported, sub.generation < c.session.nextGeneration
  /-- A stream whose end was reported is held only while its end waits. -/
  held : ∀ sub ∈ c.session.subscriptions, sub ∈ r.reported → sub ∈ c.ended

/-- A session that starts a stream holds none but this that it did not hold, and the end of that was
never reported. -/
theorem Tracks.held_insert (h : r.Tracks c) {session : Session}
    (starts : session = c.session ∨ ∃ stream, session = c.session.insert stream) :
    (∀ sub ∈ r.reported, sub.generation < session.nextGeneration) ∧
      ∀ sub ∈ session.subscriptions, sub ∈ r.reported → sub ∈ c.ended := by
  rcases starts with rfl | ⟨stream, rfl⟩
  · exact ⟨h.given, h.held⟩
  · refine ⟨fun sub hsub => Nat.lt_succ_of_lt (h.given sub hsub), fun sub hsub hreported => ?_⟩
    rcases Session.mem_insert.mp hsub with hold | rfl
    · exact h.held sub hold hreported
    · -- its number is the next
      exact absurd (h.given _ hreported) (Nat.lt_irrefl _)

/-- A session that gives up a stream holds no more than before, and so nothing that was reported and
retired. -/
theorem Tracks.held_erase (h : r.Tracks c) {session : Session}
    (gives : session = c.session ∨ ∃ stream, session = c.session.erase stream) :
    (∀ sub ∈ r.reported, sub.generation < session.nextGeneration) ∧
      ∀ sub ∈ session.subscriptions, sub ∈ r.reported → sub ∈ c.ended := by
  rcases gives with rfl | ⟨stream, rfl⟩
  · exact ⟨h.given, h.held⟩
  · exact ⟨h.given, fun sub hsub => h.held sub (Session.mem_erase.mp hsub).1⟩

/-- A session that retires a stream forgets it; what it holds of the reported ones still waits in
`rest`. -/
theorem Tracks.held_retire (h : r.Tracks c) {sub : Subscription} {rest : List Subscription}
    (queue : c.ended = sub :: rest) :
    ∀ other ∈ (c.session.retire sub).subscriptions, other ∈ r.reported → other ∈ rest := by
  intro other hother hreported
  obtain ⟨hold, hne⟩ := Session.mem_retire.mp hother
  have hended := h.held other hold hreported
  rw [queue] at hended
  exact (List.mem_cons.mp hended).resolve_left hne

/-- The loop looks at the message that is next in the inbox, and the rest stays unread. -/
theorem Tracks.unread_next (h : r.Tracks c) {message : Incoming} {rest : List Incoming}
    (queue : c.inbox = message :: rest) : r.arrived = r.looked ++ [message] ++ rest := by
  rw [h.unread, queue, List.append_cons]

theorem Tracks.goesOn_next (h : r.Tracks c) {message : Incoming} (goesOn : message.ends = false) :
    ∀ m ∈ r.looked ++ [message], m.ends = false := by
  intro m hm
  rcases List.mem_append.mp hm with hold | hnew
  · exact h.goesOn m hold
  · rw [List.mem_singleton.mp hnew]
    exact goesOn

section Cases

/-! Each lemma is about one constructor of `Client.Served`. The record is given with what the moment
writes down in it, and the client with what the moment has changed. Shutting down is the one thing
outside of the client that the record speaks of, and it is never taken back (`down`). -/

variable {world : World} (down : r.world.isShutDown = true → world.isShutDown = true)

include down

/-- Nothing that the loop looks at has changed, but the session may hold a stream more. -/
theorem Tracks.rests (h : r.Tracks c) (inbox : c'.inbox = c.inbox) (ended : c'.ended = c.ended)
    (closed : c'.closed = c.closed)
    (session : c'.session = c.session ∨ ∃ stream, c'.session = c.session.insert stream) :
    ({ r with world } : Intake).Tracks c' := by
  obtain ⟨hgiven, hheld⟩ := h.held_insert session
  exact
    { h with
      unread := by
        rw [inbox]
        exact h.unread
      closed := fun hclosed => by
        rw [inbox]
        exact (h.closed (closed ▸ hclosed)).imp_left down
      retired := by
        rw [ended]
        exact h.retired
      given := hgiven
      held := by
        rw [ended]
        exact hheld }

theorem Tracks.arrives (h : r.Tracks c) (message : Incoming) :
    ({ r with world, arrived := r.arrived ++ [message] } : Intake).Tracks
      { c with inbox := c.inbox ++ [message] } :=
  { h with
    unread := by
      change r.arrived ++ [message] = r.looked ++ (c.inbox ++ [message])
      rw [h.unread, List.append_assoc]
    closed := fun hclosed => by
      refine (h.closed hclosed).imp down fun ⟨m, rest, queue, ends⟩ => ?_
      exact ⟨m, rest ++ [message], by simp [queue], ends⟩ }

/-- A stream has ended. Its task ran, so the session has given out its number (`lt`), and the end
waits behind all that were reported before. -/
theorem Tracks.reports (h : r.Tracks c) {sub : Subscription}
    (lt : sub.generation < c.session.nextGeneration) (inbox : c'.inbox = c.inbox)
    (ended : c'.ended = c.ended ++ [sub]) (closed : c'.closed = c.closed)
    (session : c'.session = c.session) :
    ({ r with world, reported := r.reported ++ [sub] } : Intake).Tracks c' :=
  { h with
    unread := by
      rw [inbox]
      exact h.unread
    closed := fun hclosed => by
      rw [inbox]
      exact (h.closed (closed ▸ hclosed)).imp_left down
    -- What was reported waits behind the ends that are there already.
    retired := by
      change r.reported ++ [sub] = r.retired ++ c'.ended
      rw [h.retired, ended, List.append_assoc]
    given := by
      rw [session]
      intro other hother
      rcases List.mem_append.mp hother with hold | hnew
      · exact h.given other hold
      · rw [List.mem_singleton.mp hnew]
        exact lt
    held := by
      rw [session, ended]
      intro other hother hreported
      rcases List.mem_append.mp hreported with hold | hnew
      · exact List.mem_append_left _ (h.held other hother hold)
      · exact List.mem_append_right _ hnew }

theorem Tracks.stops (h : r.Tracks c)
    (reason : r.world.isShutDown = true ∨ ∃ m rest, c.inbox = m :: rest ∧ m.ends = true) :
    ({ r with world } : Intake).Tracks { c with closed := true } :=
  { h with closed := fun _ => reason.imp_left down }

omit down

/-- The first end of those that wait is retired, and with it goes the stream if the session holds
it. A loop that still makes choices has not come to its end. -/
theorem Tracks.retires (h : r.Tracks c) {sub : Subscription} {rest : List Subscription}
    (going : c.closed = false) (queue : c.ended = sub :: rest) :
    ({ r with world, retired := r.retired ++ [sub] } : Intake).Tracks
      { c with session := c.session.retire sub, ended := rest } :=
  { h with
    closed := fun hclosed => absurd hclosed (Bool.eq_false_iff.mp going)
    retired := by
      change r.reported = r.retired ++ [sub] ++ rest
      rw [h.retired, queue, List.append_cons]
    held := h.held_retire queue }

/-- The next message is a frame, on which the session has decided. It may have given up a stream,
and what it is going to start it does not hold yet. -/
theorem Tracks.handles (h : r.Tracks c) {message : Incoming} {rest : List Incoming}
    {frame : List UInt8} {session : Session} {pending : Option PendingReply}
    (going : c.closed = false) (queue : c.inbox = message :: rest)
    (content : message.frame? = some frame) (goesOn : message.ends = false)
    (kept : session = c.session ∨ ∃ stream, session = c.session.erase stream) :
    ({ r with
        world
        looked := r.looked ++ [message]
        handled := r.handled ++ [frame] } : Intake).Tracks
      { c with inbox := rest, session, pending } := by
  obtain ⟨hgiven, hheld⟩ := h.held_erase kept
  exact
    { h with
      unread := h.unread_next queue
      goesOn := h.goesOn_next goesOn
      handled := by
        change r.handled ++ [frame] = (r.looked ++ [message]).filterMap Incoming.frame?
        rw [List.filterMap_append, ← h.handled]
        simp [content]
      closed := fun hclosed => absurd hclosed (Bool.eq_false_iff.mp going)
      given := hgiven
      held := hheld }

/-- The next message is a sign of life: it was looked at, and nothing was handled. -/
theorem Tracks.skips (h : r.Tracks c) {message : Incoming} {rest : List Incoming}
    (going : c.closed = false) (queue : c.inbox = message :: rest)
    (content : message.frame? = none) (goesOn : message.ends = false) :
    ({ r with world, looked := r.looked ++ [message] } : Intake).Tracks { c with inbox := rest } :=
  { h with
    unread := h.unread_next queue
    goesOn := h.goesOn_next goesOn
    handled := by
      change r.handled = (r.looked ++ [message]).filterMap Incoming.frame?
      rw [List.filterMap_append, ← h.handled]
      simp [content]
    closed := fun hclosed => absurd hclosed (Bool.eq_false_iff.mp going) }

end Cases

/-- **Every moment keeps the record fitting.** In each case of `Client.Served` it is said what
`note_of_client` writes down, and the lemma of the same name says that this fits. -/
theorem Tracks.note (h : r.Tracks c) (books : c.Books) (found : r.world.client? conn = some c)
    (found' : (r.world.pass m).client? conn = some c')
    (served : c.Served r.world.services r.world.isShutDown c') :
    (r.note conn m).Tracks c' := by
  -- `simp` computes what came and what left, by the lemmas about `cameTo` and `leftFrom`.
  have hdown : r.world.isShutDown = true → (r.world.pass m).isShutDown = true :=
    (World.pass_changes r.world m).isCancelled
  have hnote := note_of_client found found'
  -- For each way to be served, what the record looks like afterwards, and the lemma about it.
  cases served with
  | rests inbox ended closed session undecided =>
    have hnothing : r.note conn m = { r with world := r.world.pass m } := by
      rw [hnote, inbox, ended]
      simp
    exact hnothing ▸ h.rests hdown inbox ended closed session
  | arrives message =>
    have harrived : r.note conn m =
        { r with world := r.world.pass m, arrived := r.arrived ++ [message] } := by
      rw [hnote]
      simp
    exact harrived ▸ h.arrives hdown message
  | @reports _ sub running inbox ended closed session pending =>
    have hreported : r.note conn m =
        { r with world := r.world.pass m, reported := r.reported ++ [sub] } := by
      rw [hnote, inbox, ended]
      simp
    have hlt : sub.generation < c.session.nextGeneration :=
      books.owner_lt sub (List.mem_append_left _ running)
    exact hreported ▸ h.reports hdown hlt inbox ended closed session
  | stops reason =>
    have hnothing : r.note conn m = { r with world := r.world.pass m } := by
      rw [hnote]
      simp
    exact hnothing ▸ h.stops hdown reason
  | @retires sub rest going queue =>
    have hretired : r.note conn m =
        { r with world := r.world.pass m, retired := r.retired ++ [sub] } := by
      rw [hnote, queue]
      simp
    exact hretired ▸ h.retires going queue
  | @handles message rest frame session start going undecided retired queue content goesOn kept =>
    have hhandled : r.note conn m =
        { r with
          world := r.world.pass m
          looked := r.looked ++ [message]
          handled := r.handled ++ [frame] } := by
      rw [hnote, queue, undecided]
      simp [content]
    exact hhandled ▸ h.handles going queue content goesOn kept
  | @skips message rest going queue content goesOn =>
    have hskipped : r.note conn m =
        { r with world := r.world.pass m, looked := r.looked ++ [message] } := by
      rw [hnote, queue]
      simp [content]
    exact hskipped ▸ h.skips going queue content goesOn

/-! ### From the start on -/

/-- **The record fits from the start on.** Before the client connects there is nothing to write
down. `books` is kept for `Tracks.reports`, where a task that runs has a number that was given
out. -/
structure Fits (services : Services) (conn : ConnId) (r : Intake) : Prop where
  provided : r.world.services = services
  books : ∀ {other c}, r.world.client? other = some c → c.Books
  tracks : (r.world.client? conn).elim (r = { world := r.world }) r.Tracks

/-- A moment keeps the record fitting, if the session is served by its loop (`indirect`). -/
theorem Fits.note (h : r.Fits services conn) (indirect : m.isDirect conn = false) :
    (r.note conn m).Fits services conn := by
  have hchanges := World.pass_changes r.world m
  have hbooks : ∀ {other c}, (r.world.pass m).client? other = some c → c.Books :=
    hchanges.clients (Client.lasting_books r.world.services True) h.books
  refine ⟨?_, ?_, ?_⟩
  · rw [world_note]
    exact hchanges.services.trans h.provided
  · rw [world_note]
    exact hbooks
  · have htracks := h.tracks
    rw [world_note]
    cases found : r.world.client? conn with
    | none =>
      rw [found, Option.elim_none] at htracks
      have hnote : r.note conn m = { world := r.world.pass m } := by
        simp only [Intake.note, found]
        rw [htracks]
      rcases World.pass_absent found m with hnone | ⟨capacity, hnew⟩
      · rw [hnone, Option.elim_none]
        exact hnote
      · -- a client that has just connected has nothing
        rw [hnew, Option.elim_some, hnote]
        exact ⟨rfl, nofun, rfl, nofun, rfl, nofun, nofun⟩
    | some c =>
      rw [found, Option.elim_some] at htracks
      obtain rfl := World.id_of_client? found
      obtain ⟨c', found', served⟩ := World.pass_served found m indirect
      rw [found', Option.elim_some]
      exact htracks.note (h.books found) found found' served

theorem fits_of (services : Services) {conn : ConnId} {moments : List World.Moment}
    (indirect : ∀ m ∈ moments, m.isDirect conn = false) :
    (of services conn moments).Fits services conn := by
  have hfoldl : ∀ r : Intake, r.Fits services conn →
      (moments.foldl (Intake.note conn) r).Fits services conn := by
    induction moments with
    | nil => exact fun r h => h
    | cons m rest ih =>
      obtain ⟨hm, hrest⟩ := List.forall_mem_cons.mp indirect
      exact fun r h => ih hrest _ (h.note hm)
  exact hfoldl _ ⟨rfl, nofun, rfl⟩

/-! ### When the loop has come to its end -/

/-- Nothing is looked at and nothing retired where the session is closed. Messages and ends may
still come to the two queues. -/
theorem leftFrom_of_closed {shutdown : Bool} (closed : c.closed = true)
    (served : c.Served services shutdown c') : c'.closed = true ∧
      leftFrom c.inbox c'.inbox = [] ∧ leftFrom c.ended c'.ended = [] := by
  cases served with
  | rests inbox ended same => exact ⟨same.trans closed, by simp [inbox], by simp [ended]⟩
  | arrives m => exact ⟨closed, leftFrom_append _ _, leftFrom_self _⟩
  | reports running inbox ended same =>
    exact ⟨same.trans closed, by simp [inbox], by simp [ended]⟩
  | stops reason => exact ⟨rfl, leftFrom_self _, leftFrom_self _⟩
  | retires going | handles going | skips going =>
    rw [going] at closed
    cases closed

/-- Nothing more has become of what came to a socket. What came is not spoken of. -/
structure Leaves (r r' : Intake) : Prop where
  looked : r'.looked = r.looked
  handled : r'.handled = r.handled
  retired : r'.retired = r.retired

/-- In a moment after the end of the loop nothing becomes of what came: `looked`, `handled` and
`retired` stay. -/
theorem leaves_note (found : r.world.client? conn = some c) (closed : c.closed = true)
    (indirect : m.isDirect conn = false) :
    r.Leaves (r.note conn m) ∧
      ∃ c', (r.note conn m).world.client? conn = some c' ∧ c'.closed = true := by
  obtain rfl := World.id_of_client? found
  obtain ⟨c', found', served⟩ := World.pass_served found m indirect
  obtain ⟨hclosed, hinbox, hended⟩ := leftFrom_of_closed closed served
  refine ⟨?_, c', by rw [world_note, found'], hclosed⟩
  rw [note_of_client found found', hinbox, hended]
  exact ⟨List.append_nil _, by simp, List.append_nil _⟩

/-- **A loop that has come to its end does nothing more,** whatever comes. The induction is on the
moments, with the record and the client general; that the client stays `closed` is what carries
it. -/
theorem leaves_foldl (found : r.world.client? conn = some c) (closed : c.closed = true)
    {later : List World.Moment} (indirect : ∀ m ∈ later, m.isDirect conn = false) :
    r.Leaves (later.foldl (Intake.note conn) r) := by
  induction later generalizing r c with
  | nil => exact ⟨rfl, rfl, rfl⟩
  | cons m rest ih =>
    obtain ⟨hm, hrest⟩ := List.forall_mem_cons.mp indirect
    obtain ⟨hfirst, c', found', hclosed⟩ := leaves_note found closed hm
    have hlater := ih found' hclosed hrest
    exact ⟨hlater.looked.trans hfirst.looked, hlater.handled.trans hfirst.handled,
      hlater.retired.trans hfirst.retired⟩

/-! ### What the loop handles -/

/-- A message of the client is what the loop chooses next, be it one that ends the loop. A shutdown
is no message, although it ends the loop as well. -/
def Reads (r : Intake) (c : Client) (choice : SocketChoice) : Prop :=
  c.isIdle = true ∧ choice = nextChoice r.world.isShutDown c.ended c.inbox ∧
    ((∃ frame, choice = .handle frame) ∨ choice = .skip ∨
      choice = .stop ∧ r.world.isShutDown = false)

/-- **What the loop has handled, and what the session holds when it does.** `unread` to `waits` are
about messages, `skips` to `quiet` about the choices that are no frames, `retired` and `first` about
ends, and `decides` about what the two come to: no frame is rejected on account of a stream that has
ended. -/
structure RetiresFirst (services : Services) (conn : ConnId) (r : Intake) (c : Client) : Prop where
  /-- Messages are looked at in the order in which they came in, each once. -/
  unread : r.arrived = r.looked ++ c.inbox
  /-- The session decided on the frames in them, and on nothing else. -/
  handled : r.handled = r.looked.filterMap Incoming.frame?
  /-- None of them ends the loop. -/
  goesOn : ∀ m ∈ r.looked, m.ends = false
  /-- When the loop has come to its end, and was not shut down, they are all before the first that
  does. -/
  ended : c.closed = true → r.world.isShutDown = false →
    r.looked = r.arrived.takeWhile (fun m => !m.ends) ∧ ∃ m ∈ r.arrived, m.ends = true
  /-- When it waits, they are all that came in. -/
  waits : c.isIdle = true → nextChoice r.world.isShutDown c.ended c.inbox = .wait →
    r.looked = r.arrived
  /-- A sign of life has no effect: it is taken from the inbox, and neither the rest of the client
  nor anything else in the agent changes. -/
  skips : c.isIdle = true → nextChoice r.world.isShutDown c.ended c.inbox = .skip →
    (∃ m, c.inbox = m :: c.inbox.tail ∧ m.frame? = none ∧ m.ends = false) ∧
      (r.world.choose conn).client? conn = some { c with inbox := c.inbox.tail } ∧
      r.world.choose conn = r.world.modify conn fun c => { c with inbox := c.inbox.tail }
  /-- A shutdown comes before all that waits: the next choice is to stop, and nothing else happens
  to the client. -/
  stops : c.isIdle = true → r.world.isShutDown = true →
    (r.world.choose conn).client? conn = some { c with closed := true }
  /-- A loop that has come to its end does nothing more, whatever comes. -/
  quiet : c.closed = true → ∀ later : List World.Moment, (∀ m ∈ later, m.isDirect conn = false) →
    r.Leaves (later.foldl (Intake.note conn) r)
  /-- Ends are retired in the order in which they were reported, each once. -/
  retired : r.reported = r.retired ++ c.ended
  /-- When the loop chooses a message all of them are, and the session holds none of the streams
  that ended. -/
  first : ∀ {choice}, r.Reads c choice →
    r.retired = r.reported ∧ ∀ sub ∈ c.session.subscriptions, sub ∉ r.reported
  /-- The session decides on a frame then, and rejects it for what has not ended only. -/
  decides : ∀ {frame}, r.Reads c (.handle frame) →
    (r.note conn (.happens (.act (.choose conn)))).handled = r.handled ++ [frame] ∧
    (∃ c' start, (r.world.choose conn).client? conn = some c' ∧ c'.pending = some
      { message := (c.session.decideFrame services frame).1.reply
          (c.session.decideFrame services frame).2
        start }) ∧
    (∀ stream, (c.session.decideFrame services frame).1 = .reject (.alreadySubscribed stream) →
      ∃ sub ∈ c.session.subscriptions, sub.stream = stream ∧ sub ∉ r.reported) ∧
    ∀ cap label,
      (c.session.decideFrame services frame).1 = .reject (.limitExceeded cap label) →
        ∃ name : StreamName, name.label? = some label ∧
          cap ≤ c.session.subscriptions.countP fun sub =>
            sub.stream.name = name ∧ sub ∉ r.reported

theorem Reads.ended {choice : SocketChoice} (h : r.Reads c choice) : c.ended = [] := by
  obtain ⟨-, rfl, hmessage⟩ := h
  have hchosen := chosen_nextChoice r.world.isShutDown c.ended c.inbox
  generalize nextChoice r.world.isShutDown c.ended c.inbox = choice at hchosen hmessage
  cases hchosen with
  | handle going retired => exact retired
  | skip going retired => exact retired
  | stop going retired => exact retired
  | shutdown down => simp [down] at hmessage
  | retire | wait => simp at hmessage

/-- Where no end waits, all were retired, and the session holds nothing that has ended. -/
theorem Tracks.first (h : r.Tracks c) (ended : c.ended = []) :
    r.retired = r.reported ∧ ∀ sub ∈ c.session.subscriptions, sub ∉ r.reported := by
  refine ⟨by rw [h.retired, ended, List.append_nil], fun sub hsub hreported => ?_⟩
  have hended := h.held sub hsub hreported
  rw [ended] at hended
  cases hended

/-- A loop that was not shut down has come to its end at the first message that ends it: it went on
at all those it looked at, and that one is next in its inbox. -/
theorem Tracks.ended (h : r.Tracks c) (closed : c.closed = true)
    (going : r.world.isShutDown = false) :
    r.looked = r.arrived.takeWhile (fun m => !m.ends) ∧ ∃ m ∈ r.arrived, m.ends = true := by
  rcases h.closed closed with hdown | ⟨m, rest, queue, ends⟩
  · rw [going] at hdown
    cases hdown
  · have hall : ∀ m ∈ r.looked, (!m.ends) = true := fun m hm => by rw [h.goesOn m hm]; rfl
    have harrived : r.arrived = r.looked ++ m :: rest := by rw [h.unread, queue]
    refine ⟨?_, m, by rw [harrived]; simp, ends⟩
    rw [harrived, List.takeWhile_append_of_pos hall, List.takeWhile_cons_of_neg (by simp [ends]),
      List.append_nil]

/-- What the session holds when it decides on a frame bears its rejections out. `Session.Bears` is
what the session had when it rejected, and `Tracks.first` says that none of it has ended. -/
theorem Tracks.rejects (h : r.Tracks c) (ended : c.ended = []) {services : Services}
    {frame : List UInt8} :
    (∀ stream, (c.session.decideFrame services frame).1 = .reject (.alreadySubscribed stream) →
      ∃ sub ∈ c.session.subscriptions, sub.stream = stream ∧ sub ∉ r.reported) ∧
    ∀ cap label,
      (c.session.decideFrame services frame).1 = .reject (.limitExceeded cap label) →
        ∃ name : StreamName, name.label? = some label ∧
          cap ≤ c.session.subscriptions.countP fun sub =>
            sub.stream.name = name ∧ sub ∉ r.reported := by
  obtain ⟨-, hnone⟩ := h.first ended
  refine ⟨fun stream hreject => ?_, fun cap label hreject => ?_⟩
  · have hhas : c.session.has stream = true := Session.bears_of_decideFrame hreject
    obtain ⟨sub, hfind⟩ := Option.isSome_iff_exists.mp hhas
    have hmem := Session.mem_of_find? hfind
    exact ⟨sub, hmem, Session.stream_of_find? hfind, hnone sub hmem⟩
  · obtain ⟨name, hlabel, hcap⟩ : ∃ name : StreamName, name.label? = some label ∧
        cap ≤ c.session.countOf name := Session.bears_of_decideFrame hreject
    refine ⟨name, hlabel, Nat.le_trans hcap (Nat.le_of_eq ?_)⟩
    -- The kind is all that counts, since none of the streams has ended.
    refine List.countP_congr fun sub hsub => ?_
    simp [hnone sub hsub]

/-- **The loop of a socket retires before it reads,** whatever comes in and ends, and whatever else
happens to the agent, if the session is served by that loop alone (`indirect`). Each field of
`RetiresFirst` is one of the lemmas above for the client that is found at the end of the moments. -/
theorem retiresFirst_of (services : Services) {conn : ConnId} {moments : List World.Moment}
    (indirect : ∀ m ∈ moments, m.isDirect conn = false) {c : Client}
    (found : (of services conn moments).world.client? conn = some c) :
    (of services conn moments).RetiresFirst services conn c := by
  have hfits := fits_of services indirect
  generalize of services conn moments = r at hfits found
  -- All that is said of the past are fields of `Tracks`; what is said of the next step is computed
  -- from the choice of the loop.
  have h : r.Tracks c := by
    have htracks := hfits.tracks
    rwa [found] at htracks
  exact
    { unread := h.unread
      handled := h.handled
      goesOn := h.goesOn
      ended := h.ended
      skips := fun idle choice => by
        obtain rfl := World.id_of_client? found
        have hchosen := chosen_nextChoice r.world.isShutDown c.ended c.inbox
        rw [choice] at hchosen
        have hchoose := World.choose_skips found idle choice
        refine ⟨?_, ?_, hchoose⟩
        · cases hchosen with
          | @skip m rest _ _ queue content goesOn =>
            exact ⟨m, by rw [queue, List.tail_cons], content, goesOn⟩
        · rw [hchoose]
          exact World.client?_modify (fun c => { c with inbox := c.inbox.tail }) (fun _ => rfl)
            found
      stops := fun idle shutdown => by
        rw [World.choose, found]
        dsimp only
        rw [if_pos idle, shutdown]
        exact World.client?_close found idle
      quiet := fun closed _ indirect => leaves_foldl found closed indirect
      waits := fun _ choice => by
        have hchosen := chosen_nextChoice r.world.isShutDown c.ended c.inbox
        rw [choice] at hchosen
        cases hchosen with
        | wait _ _ empty => rw [h.unread, empty, List.append_nil]
      retired := h.retired
      first := fun reads => h.first reads.ended
      decides := fun {frame} reads => by
        rw [← and_assoc]
        refine ⟨?_, h.rejects reads.ended⟩
        obtain ⟨idle, choice, -⟩ := reads
        -- The frame is the first message of the inbox, and its session is what decides.
        have hchosen := chosen_nextChoice r.world.isShutDown c.ended c.inbox
        rw [← choice] at hchosen
        obtain rfl := World.id_of_client? found
        cases hchosen with
        | handle _ _ queue content =>
          obtain ⟨c', start, hclient, hpending, hinbox⟩ :=
            World.choose_handles found idle choice.symm queue
          rw [hfits.provided] at hpending
          have hnote := note_of_client (m := .happens (.act (.choose c.id))) found hclient
          refine ⟨?_, c', start, hclient, hpending⟩
          rw [hnote, queue, hinbox]
          simp [Client.pending_of_isIdle idle, hpending, content] }

/-- A client asks for metrics, and once more after they have ended. -/
def metricsTwice : List World.Moment :=
  let act := fun a => World.Moment.happens (.act a)
  let ask := act (.arrive 0 (.text (Utf8.encode "[\"subscribe\",null,[\"metrics\"]]".toList)))
  [act (.connect 0 8), ask, act (.choose 0), act (.reply 0 0), .happens (.ends 0 0), ask,
    act (.choose 0), act (.choose 0), act (.reply 0 0)]

/-- The first stream is retired before the second request is looked at, which is granted. -/
theorem retiresFirst_metricsTwice : ∃ c,
    (of {} 0 metricsTwice).world.client? 0 = some c ∧
    c.session.subscriptions = [⟨.metrics, 1⟩] ∧
    (of {} 0 metricsTwice).handled.length = 2 ∧
    (of {} 0 metricsTwice).retired = [⟨.metrics, 0⟩] ∧
    (of {} 0 metricsTwice).RetiresFirst {} 0 c := by
  have hclient : ((of {} 0 metricsTwice).world.client? 0).map (·.session.subscriptions) =
      some [⟨.metrics, 1⟩] := by decide +kernel
  obtain ⟨c, found, hsubscriptions⟩ := Option.map_eq_some_iff.mp hclient
  exact ⟨c, found, hsubscriptions, by decide +kernel, by decide +kernel,
    retiresFirst_of {} (by decide) found⟩

end Intake

end Lookout
