import Lookout.Proofs.Agent.Keys
import Lookout.Proofs.Agent.Turn

/-!
# Frames one after the other

While a client talks to its session the agent does much else: tasks run and end, queues fill and
empty, events are published. None of it is for the session, which only decides on frames, sends its
replies and retires streams, nor does it change who is registered with the hub (`aside_untouched`).
So all that a conversation comes to can be told without the rest of the agent: a session and the hub
are taken from one frame to the next by a function (`Standing.next`), and the replies are read off
on the way (`Conversation.standing`).

* `Happening.isAside` — what is not for a session, and `World.Untouched` — what it leaves alone;
* `World.Conversation` — frames that are handled, one after the other, and the replies to them;
* `Standing` — what a session holds and who is registered;
* `Standing.play` — what becomes of it, and `Standing.replies` — the replies.
-/

namespace Lookout

/-! ### What goes on beside the sessions -/

/-- What happens is not for a session: no client connects, and no session is given a frame, sends
its reply, retires a stream or is closed. Everything else is, also that a task ends or breaks down:
its end only waits until the session retires it. -/
def World.Happening.isAside : Happening → Bool
  | .act (.proceed ..) | .act (.tell ..) | .act (.read ..) | .act (.supply ..) | .act (.arrive ..)
  | .act (.take _) | .act (.leave _) | .act (.publish _) | .act .shutdown | .ends .. => true
  | _ => false

/-- What a session is at: what it holds, the reply it is about to send, and whether it is closed.
Queue, inbox and tasks are left out, which is what happens aside. -/
def Client.desk (c : Client) : Session × Option PendingReply × Bool :=
  (c.session, c.pending, c.closed)

/-- A session is idle by what is on its `desk`. -/
theorem Client.isIdle_of_desk {c c' : Client} (h : c'.desk = c.desk) : c'.isIdle = c.isIdle := by
  obtain ⟨-, h⟩ := Prod.mk.inj h
  obtain ⟨hpending, hclosed⟩ := Prod.mk.inj h
  rw [isIdle, isIdle, hpending, hclosed]

namespace World

/-- **Nothing that is for the sessions differs,** nor do the registrations. `desks` is about all
connections at once, also those without a client: nobody connects aside. -/
structure Untouched (w w' : World) : Prop where
  hub : w'.hub = w.hub
  desks : ∀ conn, (w'.client? conn).map Client.desk = (w.client? conn).map Client.desk

namespace Untouched

variable {w w' w'' : World}

theorem refl : Untouched w w := ⟨rfl, fun _ => rfl⟩

/-- What leaves the sessions alone twice does so: `Untouched` is transitive. -/
theorem trans (h : Untouched w w') (h' : Untouched w' w'') : Untouched w w'' :=
  ⟨h'.hub.trans h.hub, fun conn => (h'.desks conn).trans (h.desks conn)⟩

/-- No session looks at its token; the tasks and the hub do. So to `cancel` one leaves all sessions
untouched. -/
theorem cancel (w : World) (t : Token) : Untouched w (w.cancel t) := ⟨rfl, fun _ => rfl⟩

/-- A change of one client that spares its `desk` spares all desks. -/
theorem modify (w : World) (conn : ConnId) {f : Client → Client} (id : ∀ c, (f c).id = c.id)
    (desk : ∀ c, (f c).desk = c.desk) : Untouched w (w.modify conn f) := by
  refine ⟨rfl, fun other => ?_⟩
  by_cases heq : other = conn
  · subst heq
    rw [client?_modify_self w f id, Option.map_map]
    congr 1
    funext c
    exact desk c
  · rw [client?_modify_of_ne w f heq id]

/-- Queues are not on a desk, so what is done to one leaves the sessions untouched. -/
theorem updateOutbox (w : World) (conn : ConnId) (f : Outbox → Outbox) :
    Untouched w (w.updateOutbox conn f) := .modify w conn (fun _ => rfl) fun _ => rfl

/-- Tasks are not on a desk, so what they are at leaves the sessions untouched. -/
theorem updateBody (w : World) (conn : ConnId) (generation : Nat) (f : TaskBody → TaskBody) :
    Untouched w (w.updateBody conn generation f) := .modify w conn (fun _ => rfl) fun _ => rfl

/-- A task that ends is reported to the session in `ended`, which has not looked yet. -/
theorem finish (w : World) (conn : ConnId) (t : StreamTask) : Untouched w (w.finish conn t) :=
  (cancel w _).trans (.modify _ conn (fun _ => rfl) fun _ => rfl)

theorem breakDown (w : World) (conn : ConnId) (t : StreamTask) :
    Untouched w (w.breakDown conn t) :=
  (cancel w _).trans (.modify _ conn (fun _ => rfl) fun _ => rfl)

/-- However a task goes on, it is no matter of the session: the branches of `World.proceed` are
`updateBody`, `updateOutbox`, `finish` and `breakDown`. -/
theorem proceed (w : World) (conn : ConnId) (generation now : Nat) :
    Untouched w (w.proceed conn generation now) := by
  -- The branches of a turn: over, to be broken off, broken down, ended, refused, accepted.
  unfold World.proceed
  split
  · exact refl
  · split
    · exact refl
    · split
      · exact finish w conn _
      · split
        · exact finish w conn _
        · exact breakDown w conn _
        · exact updateBody w conn _ _
        · split
          · exact refl
          · exact (updateOutbox w conn fun _ => _).trans (updateBody _ conn _ _)
        · exact refl

/-- An event is offered to queues and to nothing else, so `publish` touches no session. -/
theorem publish (w : World) (event : DaemonEvent) : Untouched w (w.publish event) := by
  unfold World.publish
  split
  · rw [broadcast]
    -- One queue after the other.
    generalize w.hub.recipients w.cancelled = recipients
    -- The recipients are settled before the first offer, so the list is fixed and the world varies.
    induction recipients generalizing w with
    | nil => exact refl
    | cons conn rest ih => exact (updateOutbox w conn _).trans (ih _)
  · exact refl

end Untouched

/-- **What is not for a session leaves the sessions alone.** One case for each action that `isAside`
admits; the others have no proof of it. -/
theorem aside_untouched (w : World) {event : Happening} (h : event.isAside = true) :
    Untouched w (w.happen event) := by
  -- All that an event aside does, it does to tasks, inboxes, queues and tokens.
  cases event with
  | ends conn generation =>
    rw [happen, endTask]
    split
    · exact .refl
    · split
      · exact .refl
      · exact .finish w conn _
  | act a =>
    cases a with
    | proceed conn generation now => exact .proceed w conn generation now
    | tell conn generation notice =>
      rw [happen, step, tell]
      split
      · exact .refl
      · split
        · exact .refl
        · exact .updateBody w conn _ _
    | read conn generation =>
      rw [happen, step, read]
      split <;> exact .updateBody w conn _ _
    | supply conn generation portion =>
      rw [happen, step, supply]
      split
      · exact .refl
      · exact .updateBody w conn _ _
    | arrive conn message => exact .modify w conn (fun _ => rfl) fun _ => rfl
    | take conn => exact .updateOutbox w conn fun o => o.receive.1
    | leave conn => exact .updateOutbox w conn Outbox.drop
    | publish event => exact .publish w event
    | shutdown => exact .cancel w .root
    | _ => cases h

/-- No number of such happenings touches the sessions: `aside_untouched` for each, and `Untouched`
is transitive. -/
theorem asides_untouched (w : World) {events : List Happening}
    (h : ∀ event ∈ events, event.isAside = true) : Untouched w (w.history events) := by
  induction events generalizing w with
  | nil => exact .refl
  | cons event rest ih =>
    have hfirst := aside_untouched w (h event List.mem_cons_self)
    exact hfirst.trans (ih _ fun other hother => h other (List.mem_cons_of_mem _ hother))

end World

/-! ### What a session holds and who is registered -/

/-- What a session holds, and the hub. This is all of the agent that the replies of one session and
the registrations depend on. -/
structure Standing where
  session : Session
  hub : Hub

namespace Standing

variable (services : Services) (conn : ConnId)

/-- The reply to a frame, as the session decides on it now. -/
def reply (st : Standing) (frame : List UInt8) : Envelope :=
  (st.session.decideFrame services frame).1.reply (st.session.decideFrame services frame).2

/-- A stream comes, and with that to events the registration. -/
def start (st : Standing) (stream : Stream) : Standing where
  session := st.session.insert stream
  hub :=
    if stream = .events then
      st.hub.subscribe conn (subscriptionToken conn st.session.nextGeneration)
    else st.hub

/-- A stream goes, and with that to events the registration. -/
def stop (st : Standing) (stream : Stream) : Standing where
  session := st.session.erase stream
  hub := if stream = .events then st.hub.unsubscribe conn else st.hub

/-- **What a frame makes of it,** once the reply is sent. A frame that is answered with a pong or
rejected makes nothing of it: `Standing` is what a refusal leaves unchanged. -/
def next (st : Standing) (frame : List UInt8) : Standing :=
  match (st.session.decideFrame services frame).1 with
  | .pong | .reject _ => st
  | .start stream _ => st.start conn stream
  | .stop stream _ => st.stop conn stream

variable {services} in
/-- A stream that is granted comes: the next `Standing` holds it. -/
theorem next_of_start {st : Standing} {frame : List UInt8} {stream : Stream}
    {interval : Option Int64}
    (h : (st.session.decideFrame services frame).1 = .start stream interval) :
    st.next services conn frame = st.start conn stream := by
  rw [next, h]

variable {services} in
/-- A stream that is given up goes: the next `Standing` does not hold it. -/
theorem next_of_stop {st : Standing} {frame : List UInt8} {stream : Stream} {name : String}
    (h : (st.session.decideFrame services frame).1 = .stop stream name) :
    st.next services conn frame = st.stop conn stream := by
  rw [next, h]

/-- What some frames make of it, one after the other. -/
def play (st : Standing) (frames : List (List UInt8)) : Standing :=
  frames.foldl (next services conn) st

/-- The replies to these frames. -/
def replies (st : Standing) : List (List UInt8) → List Envelope
  | [] => []
  | frame :: rest => st.reply services frame :: (st.next services conn frame).replies rest

/-- Every frame has one reply, so `replies` is as long as the list of frames. -/
theorem length_replies (st : Standing) (frames : List (List UInt8)) :
    (st.replies services conn frames).length = frames.length := by
  induction frames generalizing st with
  | nil => rfl
  | cons frame rest ih => rw [replies, List.length_cons, List.length_cons, ih]

/-- The replies to frames behind others are those that the others leave them. With `play_append`
this cuts a conversation at any frame. -/
theorem replies_append (st : Standing) (first second : List (List UInt8)) :
    st.replies services conn (first ++ second) =
      st.replies services conn first ++
        (st.play services conn first).replies services conn second := by
  induction first generalizing st with
  | nil => rfl
  | cons frame rest ih =>
    rw [List.cons_append, replies, replies, ih, List.cons_append]
    rfl

theorem play_append (st : Standing) (first second : List (List UInt8)) :
    st.play services conn (first ++ second) =
      (st.play services conn first).play services conn second := List.foldl_append

end Standing

/-! ### Conversations -/

namespace World

/-- The world in which the reply to a frame is about to be sent: before the frame and while the
reply waits something may have happened. -/
def awaiting (w : World) (conn : ConnId) (before : List Happening) (frame : List UInt8)
    (meanwhile : List Happening) : World :=
  ((w.history before).step (.frame conn frame)).history meanwhile

/-- **Frames that a session handles, one after the other, and the replies to them.** Each reply is
sent, or given up, before the next frame comes. Whatever is not for a session may happen before a
frame and while a reply waits: `before` and `meanwhile` are any lists of happenings that are aside.
`sent` says that the moment in which the reply goes out finds room for it or a client that has
left. -/
inductive Conversation (conn : ConnId) : World → List (List UInt8 × Envelope) → World → Prop where
  | silence {w : World} {before : List Happening}
    (aside : ∀ event ∈ before, event.isAside = true) : Conversation conn w [] (w.history before)
  | exchange {w w' : World} {before meanwhile : List Happening} {frame : List UInt8} {now : Nat}
    {c c' : Client} {r : PendingReply} {rest : List (List UInt8 × Envelope)}
    (aside : ∀ event ∈ before, event.isAside = true)
    (beside : ∀ event ∈ meanwhile, event.isAside = true)
    (waiting : (w.awaiting conn before frame meanwhile).client? conn = some c)
    (pending : c.pending = some r)
    (answered : ((w.awaiting conn before frame meanwhile).step (.reply conn now)).client? conn =
      some c')
    (sent : c'.pending = none)
    (tail : Conversation conn ((w.awaiting conn before frame meanwhile).step (.reply conn now))
      rest w') :
    Conversation conn w ((frame, r.message) :: rest) w'

variable {w w' : World} {conn : ConnId} {c c' : Client}

theorem services_history (w : World) (events : List Happening) :
    (w.history events).services = w.services := (history_changes w events).services

/-- A single action does not change `services`: it is a history of length one. -/
theorem services_step (w : World) (a : Action) : (w.step a).services = w.services :=
  services_history w [.act a]

/-- What a client's session holds, and the hub. -/
def standing (w : World) (c : Client) : Standing := ⟨c.session, w.hub⟩

theorem Untouched.found (h : Untouched w w') (found : w.client? conn = some c) :
    ∃ c', w'.client? conn = some c' ∧ c'.desk = c.desk ∧ w'.standing c' = w.standing c := by
  have hdesks := h.desks conn
  rw [found, Option.map_some] at hdesks
  obtain ⟨c', found', hdesk⟩ := Option.map_eq_some_iff.mp hdesks
  have hsession : c'.session = c.session := congrArg Prod.fst hdesk
  exact ⟨c', found', hdesk, by rw [standing, standing, hsession, h.hub]⟩

/-- An idle session decides: it is about to send the reply, and what it gives up is gone. What it
grants has still to come, and comes with the reply (`reply_standing`); so `Standing.next` is what is
there now, or that with the stream of `r.start` started. -/
theorem frame_standing (found : w.client? conn = some c) (idle : c.isIdle = true)
    (frame : List UInt8) : ∃ c' r, (w.step (.frame conn frame)).client? conn = some c' ∧
      c'.pending = some r ∧ c'.closed = false ∧ r.message = (w.standing c).reply w.services frame ∧
      (w.standing c).next w.services conn frame =
        r.start.elim ((w.step (.frame conn frame)).standing c') fun start =>
          ((w.step (.frame conn frame)).standing c').start conn start.1 := by
  have hclosed : c.closed = false := Client.closed_of_isIdle idle
  have hstep : w.step (.frame conn frame) = w.carryOut conn c.session
      (c.session.decideFrame w.services frame).1 (c.session.decideFrame w.services frame).2 := by
    rw [step, handle, found]
    exact if_pos idle
  have hfound := fun r =>
    client?_modify (fun c => { c with pending := some r }) (fun _ => rfl) found
  -- What is granted is not started before the reply is sent, what is given up goes at once.
  have hsession : (w.standing c).session = c.session := rfl
  rw [hstep, Standing.next, Standing.reply, hsession]
  cases hverdict : (c.session.decideFrame w.services frame).1 with
  | pong => exact ⟨_, _, hfound _, rfl, hclosed, rfl, rfl⟩
  | reject rejection => exact ⟨_, _, hfound _, rfl, hclosed, rfl, rfl⟩
  | start stream interval => exact ⟨_, _, hfound _, rfl, hclosed, rfl, rfl⟩
  | stop stream name =>
    -- Only what is subscribed to is given up.
    obtain ⟨sub, hfind⟩ := Option.isSome_iff_exists.mp (Session.of_decideFrame_stop hverdict).2
    obtain rfl := Session.stream_of_find? hfind
    simp only [carryOut, hfind]
    refine ⟨_, _, client?_modify _ (fun _ => rfl) (client?_stop sub found), rfl, hclosed, rfl, ?_⟩
    dsimp only [Option.elim_none, standing, Standing.stop]
    rw [hub_modify, hub_stop]

/-- A session sends its reply: what was granted is started. `sent` rules out the case in which the
queue is full and the reply waits on. -/
theorem reply_standing {r : PendingReply} (found : w.client? conn = some c)
    (awaited : c.pending = some r) (now : Nat)
    (found' : (w.step (.reply conn now)).client? conn = some c') (sent : c'.pending = none) :
    c'.closed = c.closed ∧ (w.step (.reply conn now)).standing c' =
      r.start.elim (w.standing c) fun start => (w.standing c).start conn start.1 := by
  rw [step, reply, found] at found' ⊢
  simp only [awaited] at found' ⊢
  -- A reply that was sent starts what it announces, and with `none` there is nothing to start.
  split at found'
  · -- a reply that waits for room is not sent
    obtain rfl := Option.some.inj (found.symm.trans found')
    rw [awaited] at sent
    cases sent
  · next outbox sending hsettled hsent =>
    have hmodify := client?_modify (fun c => { c with outbox := outbox, pending := none })
      (fun _ => rfl) found
    split at found'
    · next hstart =>
      obtain rfl := Option.some.inj (hmodify.symm.trans found')
      rw [hstart]
      exact ⟨rfl, rfl⟩
    · next stream interval hstart =>
      obtain rfl := Option.some.inj ((client?_start hmodify).symm.trans found')
      rw [hstart]
      refine ⟨rfl, ?_⟩
      dsimp only [Option.elim_some, standing, Standing.start]
      rw [hub_start, hub_modify]

/-- **One exchange** takes what the session holds, and who is registered, to what the frame makes of
it, and leaves the session idle. The four stretches of it are `before`, the frame, `meanwhile` and
the reply; the first and the third are `asides_untouched`. -/
theorem exchange_standing {before meanwhile : List Happening} {frame : List UInt8} {now : Nat}
    {waiting answered : Client} {r : PendingReply}
    (aside : ∀ event ∈ before, event.isAside = true)
    (beside : ∀ event ∈ meanwhile, event.isAside = true)
    (found : w.client? conn = some c) (idle : c.isIdle = true)
    (hwaiting : (w.awaiting conn before frame meanwhile).client? conn = some waiting)
    (pending : waiting.pending = some r)
    (hanswered : ((w.awaiting conn before frame meanwhile).step (.reply conn now)).client? conn =
      some answered)
    (sent : answered.pending = none) :
    answered.isIdle = true ∧ r.message = (w.standing c).reply w.services frame ∧
      ((w.awaiting conn before frame meanwhile).step (.reply conn now)).standing answered =
        (w.standing c).next w.services conn frame := by
  -- `c₁` is the client when the frame comes, `c₂` when it is decided on, `waiting` when the reply
  -- goes out.
  obtain ⟨c₁, found₁, hdesk₁, hstanding₁⟩ := (asides_untouched w aside).found found
  have hservices := services_history w before
  have idle₁ : c₁.isIdle = true := (Client.isIdle_of_desk hdesk₁).trans idle
  obtain ⟨c₂, r', found₂, hpending, hclosed, hmessage, hnext⟩ := frame_standing found₁ idle₁ frame
  -- While the reply waits the session stays where it is.
  rw [awaiting] at hwaiting hanswered ⊢
  obtain ⟨c₃, found₃, hdesk₃, hstanding₃⟩ := (asides_untouched _ beside).found found₂
  obtain rfl := Option.some.inj (hwaiting.symm.trans found₃)
  obtain ⟨hpending₃, hclosed₃⟩ := Prod.mk.inj (Prod.mk.inj hdesk₃).2
  obtain rfl := Option.some.inj (pending.symm.trans (hpending₃.trans hpending))
  obtain ⟨hclosed₄, hstanding₄⟩ := reply_standing hwaiting pending now hanswered sent
  refine ⟨?_, ?_, ?_⟩
  · rw [Client.isIdle, hclosed₄, hclosed₃, hclosed, sent]
    rfl
  · rw [hmessage, hstanding₁, hservices]
  · rw [hstanding₄, hstanding₃, ← hstanding₁, ← hservices, hnext]

/-- **What a conversation comes to** is what its frames make of what the session holds, and its
replies are those that are read off on the way. By induction on the conversation:
`exchange_standing` is one step of it, and leaves the session idle for the next. -/
theorem Conversation.standing {exchanges : List (List UInt8 × Envelope)} {services : Services}
    (h : Conversation conn w exchanges w') (hservices : w.services = services)
    (found : w.client? conn = some c) (idle : c.isIdle = true) :
    ∃ c', w'.services = services ∧ w'.client? conn = some c' ∧ c'.isIdle = true ∧
      exchanges.map Prod.snd = (w.standing c).replies services conn (exchanges.map Prod.fst) ∧
      w'.standing c' = (w.standing c).play services conn (exchanges.map Prod.fst) := by
  induction h generalizing c with
  -- What happens aside leaves both the session and what it replies.
  | @silence w before aside =>
    obtain ⟨c', found', hdesk, hstanding⟩ := (asides_untouched w aside).found found
    exact ⟨c', (services_history w before).trans hservices, found',
      (Client.isIdle_of_desk hdesk).trans idle, rfl, hstanding⟩
  | @exchange w w' before meanwhile frame now waiting answered r rest aside beside hwaiting pending
      hanswered sent _ ih =>
    -- One exchange is one move of the standing, and the rest goes on from there.
    obtain ⟨hidle, hmessage, hstanding⟩ :=
      exchange_standing aside beside found idle hwaiting pending hanswered sent
    have hkept : ((w.awaiting conn before frame meanwhile).step (.reply conn now)).services =
        services := by
      rw [services_step, awaiting, services_history, services_step, services_history, hservices]
    obtain ⟨c', hservices', found', hidle', hreplies, hplay⟩ := ih hkept hanswered hidle
    rw [hstanding, hservices] at hreplies hplay
    rw [hservices] at hmessage
    refine ⟨c', hservices', found', hidle', ?_, hplay⟩
    rw [List.map_cons, List.map_cons, Standing.replies, ← hreplies, hmessage]

end World

end Lookout
