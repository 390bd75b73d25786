import Lookout.Proofs.Agent.Change
import Lookout.Proofs.Agent.Session

/-!
# Every step is a sequence of changes

`World.step_changes` takes the steps of the agent apart into the changes of `World.ChangeAt`. All
but two kinds of actions are about one connection, and change nothing at another
(`World.step_changesAt`). Tasks break down in two ways only, which `World.breaks` names: a task that
cannot set its ticker breaks down when it goes on, and a sampler of the host without a time between
its ticks as soon as it is started.

The lemmas end in `_changes`, one for each function of a step. Where a function does nothing,
because its guard fails or there is no client, there is no change; where it does something, the
constructor of `World.ChangeAt` has all the facts that the branch has established.
-/

namespace Lookout

/-- Whether a task breaks down when it goes on. -/
def TaskBody.isBroken (body : TaskBody) : Bool :=
  match body.wait with
  | .broken => true
  | _ => false

/-- Only events, and a sampler without a time between its ticks, are started without a task. The
second panics where its ticker is made, which is why such a start is a breakdown and no end. -/
theorem TaskBody.isSome_ofStream {limits : Limits} {stream : Stream} {interval : Option Int64}
    {now : Nat} (hevents : stream ≠ .events)
    (hperiod : stream = .metrics → limits.intervalMillis interval ≠ 0) :
    (TaskBody.ofStream limits stream interval now).isSome := by
  cases stream with
  | metrics => rw [ofStream, if_neg (hperiod rfl), Option.isSome_some]
  | events => exact absurd rfl hevents
  | logs id => rfl
  | containerStats id => rfl

/-- The connection that an action is about, if it is about one. Events and the shutdown are about
all or none. -/
def Action.conn? : Action → Option ConnId
  | connect conn _ | frame conn _ | dispatch conn _ | reply conn _ | retire conn _ | close conn
  | proceed conn _ _ | tell conn _ _ | read conn _ | supply conn _ _ | arrive conn _ | choose conn
  | take conn | leave conn => some conn
  | publish _ | shutdown => none

namespace World

/-- Whether a task breaks down in a step: one that goes on, or one that is started. Both ask whether
the task comes that far: a task that is cancelled ends, and a reply that waits starts nothing. -/
def breaks (w : World) : Action → Bool
  | .proceed conn generation _ =>
    (w.client? conn).any fun c => (c.task? generation).any fun t =>
      !t.done && !w.isCancelled (subscriptionToken conn generation) && t.body.isBroken
  | .reply conn _ =>
    (w.client? conn).any fun c => c.pending.any fun r =>
      (c.outbox.send (w.isCancelled (sessionToken conn)) r.message).2 ≠ .waiting &&
        r.start.any fun (stream, interval) =>
          stream = .metrics && w.services.limits.intervalMillis interval = 0
  | _ => false

variable {broken : Prop} (w : World) (conn : ConnId)

/-! ### Messages and bytes -/

/-- What a task is at can be changed without any book being touched: it is one `adjust`, as
`running` does not look at bodies. -/
theorem updateBody_changes (generation : Nat) (f : TaskBody → TaskBody) :
    ChangesAt broken conn w (w.updateBody conn generation f) :=
  .single (.adjust _ fun c => ⟨rfl, rfl, c.tasks_updateTask_sublist generation fun _ => rfl,
    c.running_updateTask_body generation f, rfl, rfl, rfl⟩)

theorem updateOutbox_changes (f : Outbox → Outbox) :
    ChangesAt broken conn w (w.updateOutbox conn f) :=
  .single (.adjust _ fun _ => ⟨rfl, rfl, .refl _, rfl, rfl, rfl, rfl⟩)

theorem inbox_changes (f : List Incoming → List Incoming) :
    ChangesAt broken conn w (w.modify conn fun c => { c with inbox := f c.inbox }) :=
  .single (.adjust _ fun _ => ⟨rfl, rfl, .refl _, rfl, rfl, rfl, rfl⟩)

/-- An event changes one queue after the other, so a `broadcast` is as many changes as it has
recipients. -/
theorem broadcast_changes (message : Envelope) : Changes broken w (w.broadcast message) := by
  rw [broadcast]
  -- Who is to hear of it is settled before the first queue changes.
  generalize w.hub.recipients w.cancelled = recipients
  induction recipients generalizing w with
  | nil => exact .refl
  | cons conn rest ih => exact (updateOutbox_changes w conn _).changes.trans (ih _)

/-! ### The session -/

/-- A session that decides has its reply in `pending`, and has given up what it acknowledges.
`admitted` is what a grant comes with, and what the constructor `decide` asks for. -/
theorem handle_changes (decide : Session → Verdict × Option String)
    (admitted : ∀ s stream interval, (decide s).1 = .start stream interval →
      s.Admits w.services stream) : ChangesAt broken conn w (w.handle conn decide) := by
  unfold handle
  split
  · exact .refl
  · next c found =>
    split
    · next idle =>
      rcases hdecide : decide c.session with ⟨verdict, id⟩
      cases verdict with
      | pong => exact .single (.decide _ found idle nofun)
      | reject r => exact .single (.decide _ found idle nofun)
      | start stream interval =>
        -- Nothing is started before the reply is sent, but it is granted now.
        refine .single (.decide _ found idle fun stream' interval' hstart => ?_)
        obtain ⟨rfl, rfl⟩ : stream = stream' ∧ interval = interval' := by simpa using hstart
        exact admitted c.session stream interval (by rw [hdecide])
      | stop stream name =>
        -- The subscription is gone before the reply is sent.
        dsimp only [carryOut]
        split
        · next sub hfind =>
          obtain rfl := Session.stream_of_find? hfind
          exact .single (.stop _ found idle hfind rfl)
        · exact .single (.decide _ found idle nofun)
    · exact .refl

/-- What is granted on a frame is admitted, whatever the bytes of the frame are
(`Session.of_decideFrame_start`). -/
theorem handleFrame_changes (frame : List UInt8) :
    ChangesAt broken conn w (w.handle conn (·.decideFrame w.services frame)) :=
  handle_changes w conn _ fun _ _ _ h => (Session.of_decideFrame_start h).2

/-- A reply that is sent is an answer, or a `start` with what it grants. `h` is there for the start
that panics, which counts as a breakdown. -/
theorem reply_changes (now : Nat) (h : w.breaks (.reply conn now) = true → broken) :
    ChangesAt broken conn w (w.reply conn now) := by
  unfold reply
  split
  · exact .refl
  · next c found =>
    split
    · exact .refl
    · next r pending =>
      split
      · exact .refl
      · next outbox sending hsending hsend =>
        split
        · next nothing => exact .single (.answer outbox found pending nothing)
        · next stream interval something =>
          refine .single (.start outbox now found pending something ?_)
          -- A stream without a task is one to events or breaks down.
          by_cases hevents : stream = .events
          · exact Or.inr (Or.inl hevents)
          · by_cases hperiod : stream = .metrics ∧ w.services.limits.intervalMillis interval = 0
            · refine Or.inl (h ?_)
              have hqueued : sending ≠ .waiting := hsending
              simp [breaks, found, pending, something, hsend, hperiod, hqueued]
            · exact Or.inr (Or.inr (TaskBody.isSome_ofStream hevents fun hm hz =>
                hperiod ⟨hm, hz⟩))

/-- An end that waits is retired by an idle session; otherwise `retire` does nothing, which is no
change at all. -/
theorem retire_changes (ended : Subscription) : ChangesAt broken conn w (w.retire conn ended) := by
  cases found : w.client? conn with
  | none => rw [retire, found]
  | some c =>
    by_cases h : c.isIdle ∧ ended ∈ c.ended
    · exact .single (.retire found h.1 h.2)
    · rw [retire, found]
      simp only [if_neg h]
      exact .refl

/-- A session is closed if it is idle, and otherwise `close` leaves the world as it is. -/
theorem close_changes : ChangesAt broken conn w (w.close conn) := by
  cases found : w.client? conn with
  | none => rw [close, found]
  | some c =>
    by_cases h : c.isIdle
    · exact .single (.close found h)
    · rw [close, found]
      simp only [if_neg h]
      exact .refl

/-- A client connects if there is none with the number `conn`. -/
theorem connect_changes (capacity : Nat) : ChangesAt broken conn w (w.connect conn capacity) := by
  cases found : w.client? conn with
  | none => exact .single (.connect capacity found)
  | some c =>
    rw [connect, found]

/-! ### Tasks -/

/-- A task that goes on ends, breaks down, or changes what it is at and perhaps its queue. Which of
them is read off `World.proceed`, branch by branch. -/
theorem proceed_changes (generation now : Nat)
    (h : w.breaks (.proceed conn generation now) = true → broken) :
    ChangesAt broken conn w (w.proceed conn generation now) := by
  unfold proceed
  split
  · exact .refl
  · next c t hfound =>
    -- The client and the task that were found together.
    obtain ⟨c', found, t', task, heq⟩ : ∃ c', w.client? conn = some c' ∧
        ∃ t', c'.task? generation = some t' ∧ (c', t') = (c, t) := by
      simpa [Option.bind_eq_some_iff, Option.map_eq_some_iff] using hfound
    obtain ⟨rfl, rfl⟩ : c' = c ∧ t' = t := by simpa using heq
    split
    · exact .refl
    · next hdone =>
      rw [Bool.not_eq_true] at hdone
      obtain ⟨-, rfl⟩ := Client.mem_running_of_task? task hdone
      split
      · exact .single (.finish found task hdone)
      · next hcancelled =>
        -- Not cancelled, so it does what it waits for.
        rw [Bool.not_eq_true] at hcancelled
        split
        · exact .single (.finish found task hdone)
        · next hwait =>
          refine .single (.breakDown (h ?_) found task hdone)
          simp [breaks, found, task, hdone, hcancelled, TaskBody.isBroken, hwait]
        · exact updateBody_changes w conn _ _
        · split
          · exact .refl
          · next outbox sending _ _ =>
            -- The message is queued, or refused for good, and then the task is told.
            exact (updateOutbox_changes w conn fun _ => outbox).trans
              (updateBody_changes _ conn _ _)
        · exact .refl

/-! ### Steps -/

/-- **A step that is about one connection is a sequence of changes at it.** One case for each
`Action`; only a choice of the loop and a message that is sent are more than one change. -/
theorem step_changesAt (a : Action) {conn : ConnId} (about : a.conn? = some conn)
    (h : w.breaks a = true → broken) : ChangesAt broken conn w (w.step a) := by
  cases a <;> cases about
  case connect capacity => exact connect_changes w conn capacity
  case frame bytes =>
    exact handleFrame_changes w conn bytes
  case dispatch message =>
    exact handle_changes w conn (fun s => (s.decide w.services message, message.id))
      fun _ _ _ h => (Session.of_decide_start h).2
  case reply now => exact reply_changes w conn now h
  case retire ended => exact retire_changes w conn ended
  case close => exact close_changes w conn
  case proceed generation now => exact proceed_changes w conn generation now h
  case tell generation notice =>
    rw [step, tell]
    split
    · exact .refl
    · split
      · exact .refl
      · exact updateBody_changes w conn _ _
  case read generation =>
    rw [step, read]
    split <;> exact updateBody_changes w conn _ _
  case supply generation portion =>
    rw [step, supply]
    split
    · exact .refl
    · exact updateBody_changes w conn _ _
  case arrive message => exact inbox_changes w conn fun inbox => inbox ++ [message]
  case choose =>
    rw [step, choose]
    split
    · exact .refl
    · split
      · dsimp only
        split
        · exact close_changes w conn
        · exact retire_changes w conn _
        · -- the message leaves the inbox first
          exact (inbox_changes w conn List.tail).trans
            (handleFrame_changes (w.modify conn _) conn _)
        · exact inbox_changes w conn List.tail
        · exact .refl
      · exact .refl
  case take => exact updateOutbox_changes w conn fun o => o.receive.1
  case leave => exact updateOutbox_changes w conn Outbox.drop

/-- **Every step is a sequence of changes,** in which tasks break down only if `breaks` says so. -/
theorem step_changes (a : Action) (h : w.breaks a = true → broken) :
    Changes broken w (w.step a) := by
  cases about : a.conn? with
  | some conn => exact (step_changesAt w a about h).changes
  | none =>
    cases a with
    | publish event =>
      rw [step, publish]
      split
      · exact broadcast_changes w _
      · exact .refl
    | shutdown => exact .single .shutdown
    | _ => cases about

/-! ### Runs -/

/-- An action, or a task that ends at any moment, whatever it is at. The second is more than any
step does, and stands for all reasons to end that are not modelled. -/
inductive Happening where
  | act (a : Action)
  | ends (conn : ConnId) (generation : Nat)

/-- A task that ends at any moment is reported as others are. -/
def endTask (w : World) (conn : ConnId) (generation : Nat) : World :=
  match (w.client? conn).bind (·.task? generation) with
  | none => w
  | some t => if t.done then w else w.finish conn t

/-- The world after something has happened. -/
def happen (w : World) : Happening → World
  | .act a => w.step a
  | .ends conn generation => w.endTask conn generation

/-- The world after all of it. -/
def history (w : World) (events : List Happening) : World := events.foldl happen w

/-- A task that ends at any moment has not broken down. -/
def breaksBy (w : World) : Happening → Bool
  | .act a => w.breaks a
  | .ends _ _ => false

/-- Whether a task breaks down at any time. -/
def breaksIn (w : World) : List Happening → Bool
  | [] => false
  | event :: rest => w.breaksBy event || (w.happen event).breaksIn rest

/-- A task that ends is one change, if it ran: `finish` and the constructor of the same name. -/
theorem endTask_changes (generation : Nat) :
    ChangesAt broken conn w (w.endTask conn generation) := by
  unfold endTask
  split
  · exact .refl
  · next t hfound =>
    obtain ⟨c, found, task⟩ := Option.bind_eq_some_iff.mp hfound
    split
    · exact .refl
    · next hdone =>
      rw [Bool.not_eq_true] at hdone
      obtain ⟨-, rfl⟩ := Client.mem_running_of_task? task hdone
      exact .single (.finish found task hdone)

/-- **Whatever happens is a sequence of changes:** an action of the agent (`step_changes`), or
something that comes from outside. -/
theorem happen_changes (event : Happening) (h : w.breaksBy event = true → broken) :
    Changes broken w (w.happen event) := by
  cases event with
  | act a => exact step_changes w a h
  | ends conn generation => exact (endTask_changes w conn generation).changes

/-- A history is a sequence of changes, in which any task may break down. For what needs that none
does, `happen_changes` is used with `breaksIn`. -/
theorem history_changes (events : List Happening) : Changes True w (w.history events) := by
  induction events generalizing w with
  | nil => exact .refl
  | cons event rest ih => exact (happen_changes w event fun _ => trivial).trans (ih _)

end World

end Lookout
