import Lookout.Proofs.Agent.Push
import Lookout.Proofs.Agent.Registrations

/-!
# What a moment means for a client

The agent's tasks and the hub run beside its sessions, and a moment is the least that can happen: a
step of the agent, the end of a task, or the offer of an event to one of the hub's registrations, of
which publishing an event is made up. `World.Turn` says what becomes in one moment of the queue of a
client, of the reply that its session is about to send, and of its subscriptions. Everything else
that a client has may change as well, and is not spoken of here.

* `World.Moment`, `World.pass` — a moment, and the world after it;
* `World.publish_eq_offers` — publishing an event, moment by moment;
* `World.source?` — under which token a message would be pushed in a moment;
* `World.pass_turn` — every moment means one of six things for a client;
* `World.pass_absent` — nobody is there who has not connected.

Two kinds of lemmas lead to `World.pass_turn`. Those that end in `_turn` take one function of a step
for the client that it is about; what goes on at other connections is none of its business
(`World.SameAt.turn`). For the hub the world is taken apart into offers first, as an event that is
published reaches many clients in one step.
-/

namespace Lookout

/-! ### Replies -/

/-- A reply is no push, and its type tells whether something was granted: a stream that is started
after it was. -/
structure PendingReply.Fits (r : PendingReply) : Prop where
  granted : r.start.isSome = true → r.message.type? = some .subscribed
  other : r.start = none → r.message.type? = some .pong ∨ r.message.type? = some .error
  reply : ¬r.message.IsPush

namespace World

/-! ### Moments -/

/-- **A moment:** something happens, or an event is offered to one of the hub's registrations. The
second is a part of what `publish` does in one go; with it a history may break off a broadcast and
go on with something else. -/
inductive Moment where
  | happens (h : Happening)
  | offers (r : Registration) (event : DaemonEvent)

/-- An event is offered to a connection under a registration, if the hub holds it and it is not
cancelled. -/
def offer (w : World) (r : Registration) (event : DaemonEvent) : World :=
  match eventMessage? event with
  | some message =>
    if r ∈ w.hub.registrations ∧ w.isCancelled r.token = false then
      w.updateOutbox r.conn fun o => (o.offer message).1
    else w
  | none => w

/-- The world after a moment. -/
def pass (w : World) : Moment → World
  | .happens h => w.happen h
  | .offers r event => w.offer r event

/-- The token under which a message would be pushed to a connection in a moment: that of the task
that goes on, or that of the registration to which an event is offered. It is a matter of the moment
and of the hub, whether a message is pushed or not. For an event that is published the first
registration is asked, since no connection has two. -/
def source? (w : World) (conn : ConnId) : Moment → Option Token
  | .happens (.act (.proceed other generation _)) =>
    if other = conn then some (subscriptionToken conn generation) else none
  | .happens (.act (.publish _)) => (w.hub.of conn).head?.map (·.token)
  | .offers r _ => if r.conn = conn then some r.token else none
  | _ => none

/-- Events are offered one registration after the other, which changes neither the hub nor what is
cancelled. So it does not matter whether the tokens are asked before the first offer, as a broadcast
does, or before each. -/
theorem broadcast_eq_offers {w : World} {event : DaemonEvent} {message : Envelope}
    (h : eventMessage? event = some message) {registrations : List Registration}
    (held : ∀ r ∈ registrations, r ∈ w.hub.registrations) :
    ((registrations.filter fun r => !w.isCancelled r.token).map (·.conn)).foldl
        (fun w conn => w.updateOutbox conn fun o => (o.offer message).1) w =
      registrations.foldl (fun w r => w.offer r event) w := by
  induction registrations generalizing w with
  | nil => rfl
  | cons r rest ih =>
    -- The induction is on the registrations that are left, all of which the hub still holds.
    have hrest : ∀ r ∈ rest, r ∈ w.hub.registrations := fun r hr =>
      held r (List.mem_cons_of_mem _ hr)
    rw [List.foldl_cons, offer, h]
    dsimp only
    cases hlive : w.isCancelled r.token with
    | true =>
      rw [List.filter_cons_of_neg (by simp [hlive]), if_neg (by simp)]
      exact ih hrest
    | false =>
      rw [List.filter_cons_of_pos (by simp [hlive]), if_pos ⟨held r List.mem_cons_self, rfl⟩]
      exact ih (w := w.updateOutbox r.conn fun o => (o.offer message).1) hrest

/-- **To `publish` an event is to `offer` it to every registration.** If clients do not hear of the
event, none of the offers does anything. -/
theorem publish_eq_offers (w : World) (event : DaemonEvent) :
    w.publish event = w.hub.registrations.foldl (fun w r => w.offer r event) w := by
  unfold publish
  split
  · next message h => exact broadcast_eq_offers h fun _ hr => hr
  · next h =>
    have hoffer : ∀ (w : World) (r : Registration), w.offer r event = w := fun w r => by
      rw [offer, h]
    simp only [hoffer]
    induction w.hub.registrations with
    | nil => rfl
    | cons r rest ih => exact ih

/-! ### Turns -/

/-- **What a moment means for a client.** The constructors say of the queue, of the reply that is
awaited and of the session what they are afterwards, and why. `pushes` and `answers` are the only
ones in which something enters the queue. -/
inductive Turn (w w' : World) (m : Moment) (c c' : Client) : Prop where
  /-- Nothing, but that messages may leave its queue. -/
  | rests (session : c'.session = c.session) (pending : c'.pending = c.pending)
    (outbox : c.outbox.Fades c'.outbox)
  /-- A message is pushed under a token that is not cancelled, that of one of its tasks or of a
  registration. -/
  | pushes {token : Token} {message : Envelope} (session : c'.session = c.session)
    (pending : c'.pending = c.pending) (source : w.source? c.id m = some token)
    (live : w.isCancelled token = false)
    (owned : (∃ sub ∈ c.running, token = subscriptionToken c.id sub.generation) ∨
      ⟨c.id, token⟩ ∈ w.hub.of c.id)
    (listening : c.outbox.isOpen = true) (outbox : c'.outbox = c.outbox.push message)
    (push : message.IsPush) (anonymous : message.id = none)
  /-- Its session decides on a reply, and keeps what it has. -/
  | decides {r : PendingReply} (idle : c.isIdle) (session : c'.session = c.session)
    (pending : c'.pending = some r) (outbox : c'.outbox = c.outbox) (fits : r.Fits)
  /-- Its session ends a subscription, which is cancelled, and will acknowledge that. -/
  | stops {sub : Subscription} {message : Envelope} (idle : c.isIdle)
    (held : c.session.find? sub.stream = some sub)
    (session : c'.session = c.session.erase sub.stream)
    (pending : c'.pending = some { message }) (outbox : c'.outbox = c.outbox)
    (granted : message.type? = some .subscribed) (reply : ¬message.IsPush)
    (cancelled : w'.isCancelled (subscriptionToken c.id sub.generation) = true)
  /-- Its session retires a stream that has ended. -/
  | retires {ended : Subscription} (idle : c.isIdle) (session : c'.session = c.session.retire ended)
    (pending : c'.pending = none) (outbox : c'.outbox = c.outbox)
  /-- Its session sends its reply, or gives it up, and starts what it granted. -/
  | answers {r : PendingReply} {now : Nat} {sending : Sending}
    (event : m = .happens (.act (.reply c.id now))) (awaited : c.pending = some r)
    (pending : c'.pending = none)
    (sent : c.outbox.send (w.isCancelled (sessionToken c.id)) r.message = (c'.outbox, sending))
    (settled : sending ≠ .waiting)
    (session : c'.session = r.start.elim c.session fun start => c.session.insert start.1)

variable {w w' : World} {m : Moment} {c : Client}

theorem Turn.refl (w w' : World) (m : Moment) (c : Client) : Turn w w' m c c :=
  .rests rfl rfl (.refl _)

/-! ### The session -/

/-- A reply fits what its verdict starts. A stream that is given up is left out: nothing is started
for it, and it is acknowledged all the same. -/
theorem fits_reply (verdict : Verdict) (id : Option String)
    (keeps : ∀ stream name, verdict ≠ .stop stream name) :
    PendingReply.Fits ⟨verdict.reply id, match verdict with
      | .start stream interval => some (stream, interval)
      | _ => none⟩ := by
  have hreply := verdict.not_isPush_reply id
  cases verdict with
  | pong => exact ⟨nofun, fun _ => Or.inl (MessageType.ofName?_name .pong), hreply⟩
  | reject r => exact ⟨nofun, fun _ => Or.inr (MessageType.ofName?_name .error), hreply⟩
  | start stream interval => exact ⟨fun _ => MessageType.ofName?_name .subscribed, nofun, hreply⟩
  | stop stream name => exact absurd rfl (keeps stream name)

/-- A session decides, or is busy. What came in at its socket before it does does not matter:
`inbox` is what the loop has left in it, and `w₀` the world before it was taken off. -/
theorem handle_turn {w₀ : World} {inbox : List Incoming}
    (decide : Session → Verdict × Option String)
    (stops : ∀ s stream name, (decide s).1 = .stop stream name → s.has stream = true)
    (found : w.client? c.id = some { c with inbox := inbox }) :
    ∃ c', (w.handle c.id decide).client? c.id = some c' ∧
      Turn w₀ (w.handle c.id decide) m c c' := by
  unfold handle
  rw [found]
  dsimp only
  split
  · next idle =>
    have hidle : c.isIdle = true := idle
    -- Three of the verdicts leave the session as it is until the reply is sent.
    rcases hdecide : decide c.session with ⟨verdict, id⟩
    cases verdict with
    | pong =>
      exact ⟨_, client?_modify _ (fun _ => rfl) found,
        .decides hidle rfl rfl rfl (fits_reply .pong id nofun)⟩
    | reject r =>
      exact ⟨_, client?_modify _ (fun _ => rfl) found,
        .decides hidle rfl rfl rfl (fits_reply (.reject r) id nofun)⟩
    | start stream interval =>
      exact ⟨_, client?_modify _ (fun _ => rfl) found,
        .decides hidle rfl rfl rfl (fits_reply (.start stream interval) id nofun)⟩
    | stop stream name =>
      -- The session only gives up what it holds.
      have hhas := stops c.session stream name (by rw [hdecide])
      obtain ⟨sub, hfind⟩ := Option.isSome_iff_exists.mp hhas
      obtain rfl := Session.stream_of_find? hfind
      dsimp only [carryOut]
      rw [hfind]
      refine ⟨_, client?_modify _ (fun _ => rfl) (client?_stop sub found),
        .stops hidle hfind rfl rfl rfl (MessageType.ofName?_name .subscribed)
          (Verdict.not_isPush_reply _ _) ?_⟩
      rw [isCancelled_modify, isCancelled_stop, Token.isWithin_self, Bool.true_or]
  · exact ⟨_, found, .rests rfl rfl (.refl _)⟩

/-- A frame that is handled is decided on by what the session holds: `handle_turn` for
`Session.decideFrame`. -/
theorem handleFrame_turn {w₀ : World} {inbox : List Incoming} (frame : List UInt8)
    (found : w.client? c.id = some { c with inbox := inbox }) :
    ∃ c', (w.handle c.id (·.decideFrame w.services frame)).client? c.id = some c' ∧
      Turn w₀ (w.handle c.id (·.decideFrame w.services frame)) m c c' :=
  handle_turn _ (fun _ _ _ h => (Session.of_decideFrame_stop h).2) found

/-- A reply is sent, or given up, and what it grants is started. One that waits for room means
nothing. -/
theorem reply_turn (found : w.client? c.id = some c) (now : Nat) :
    ∃ c', (w.reply c.id now).client? c.id = some c' ∧
      Turn w (w.reply c.id now) (.happens (.act (.reply c.id now))) c c' := by
  unfold reply
  rw [found]
  dsimp only
  split
  · exact ⟨c, found, .refl _ _ _ c⟩
  · next r hawaited =>
    split
    · exact ⟨c, found, .refl _ _ _ c⟩
    · next outbox sending hsettled hsent =>
      -- What was announced is started along with the reply, or there was nothing to start.
      have hmodify := client?_modify (fun c => { c with outbox := outbox, pending := none })
        (fun _ => rfl) found
      split
      · next hstart =>
        refine ⟨_, hmodify, .answers rfl hawaited rfl hsent hsettled ?_⟩
        rw [hstart]
        rfl
      · next stream interval hstart =>
        refine ⟨_, client?_start hmodify, .answers rfl hawaited rfl hsent hsettled ?_⟩
        rw [hstart]
        rfl

/-- An end that waits is retired by an idle session, and otherwise `retire` means nothing. -/
theorem retire_turn {w₀ : World} (found : w.client? c.id = some c) (ended : Subscription) :
    ∃ c', (w.retire c.id ended).client? c.id = some c' ∧
      Turn w₀ (w.retire c.id ended) m c c' := by
  by_cases h : c.isIdle ∧ ended ∈ c.ended
  · rw [retire_eq found h.1 h.2]
    exact ⟨_, client?_modify _ (fun _ => rfl) found,
      .retires h.1 rfl (Client.pending_of_isIdle h.1) rfl⟩
  · rw [retire, found]
    simp only [if_neg h]
    exact ⟨c, found, .refl _ _ _ c⟩

theorem close_turn {w₀ : World} (found : w.client? c.id = some c) :
    ∃ c', (w.close c.id).client? c.id = some c' ∧ Turn w₀ (w.close c.id) m c c' := by
  by_cases idle : c.isIdle
  · exact ⟨_, client?_close found idle, .rests rfl rfl (.refl _)⟩
  · rw [close, found]
    simp only [if_neg idle]
    exact ⟨c, found, .refl _ _ _ c⟩

/-! ### Tasks and the hub -/

/-- A task that goes on pushes its message, or means nothing for the queue. -/
theorem proceed_turn (found : w.client? c.id = some c) (generation now : Nat) :
    ∃ c', (w.proceed c.id generation now).client? c.id = some c' ∧
      Turn w (w.proceed c.id generation now)
        (.happens (.act (.proceed c.id generation now))) c c' := by
  unfold proceed
  rw [found]
  dsimp only [Option.bind_some]
  split
  · exact ⟨c, found, .refl _ _ _ c⟩
  · next c' t htask =>
    obtain ⟨t', task, heq⟩ := Option.map_eq_some_iff.mp htask
    obtain ⟨rfl, rfl⟩ := Prod.mk.inj heq
    -- In the order in which `proceed` asks: is it done, is it cancelled, what does it wait for?
    split
    · exact ⟨_, found, .refl _ _ _ _⟩
    · next hdone =>
      rw [Bool.not_eq_true] at hdone
      obtain ⟨hrunning, rfl⟩ := Client.mem_running_of_task? task hdone
      split
      · exact ⟨_, client?_finish _ found, .rests rfl rfl (.refl _)⟩
      · next hlive =>
        rw [Bool.not_eq_true] at hlive
        split
        · exact ⟨_, client?_finish _ found, .rests rfl rfl (.refl _)⟩
        · exact ⟨_, client?_breakDown _ found, .rests rfl rfl (.refl _)⟩
        · exact ⟨_, client?_modify _ (fun _ => rfl) found, .rests rfl rfl (.refl _)⟩
        · next message hwait =>
          split
          · exact ⟨_, found, .refl _ _ _ _⟩
          · next outbox sending hsettled hsent =>
            refine ⟨_, client?_modify _ (fun _ => rfl) (client?_modify _ (fun _ => rfl) found), ?_⟩
            -- Only a message that was queued is a push; one that was refused is gone.
            rcases Outbox.send_cases hsent hsettled with
              ⟨-, -, hopen, hpush⟩ | ⟨-, -, hsame⟩
            · obtain ⟨push, anonymous⟩ := TaskBody.isPush_of_wait hwait
              exact .pushes rfl rfl (if_pos rfl) hlive (Or.inl ⟨_, hrunning, rfl⟩) hopen hpush push
                anonymous
            · exact .rests rfl rfl (.of_eq hsame)
        · exact ⟨_, found, .refl _ _ _ _⟩

/-- What an offer means for the client that it is made to: a push under the token of the
registration. Without room for it, nothing. -/
theorem Turn.offered {token : Token} {message : Envelope}
    (source : w.source? c.id m = some token) (live : w.isCancelled token = false)
    (registered : ⟨c.id, token⟩ ∈ w.hub.of c.id) {event : DaemonEvent}
    (message_eq : eventMessage? event = some message) :
    Turn w w' m c { c with outbox := (c.outbox.offer message).1 } := by
  obtain ⟨push, anonymous⟩ := isPush_of_eventMessage? message_eq
  rcases c.outbox.offer_cases message with ⟨hopen, hpush⟩ | hsame
  · exact .pushes rfl rfl source live (Or.inr registered) hopen hpush push anonymous
  · rw [hsame]
    exact .refl _ _ _ c

/-- An offer means something for the client that has the registration, and for no other. -/
theorem offer_turn (found : w.client? c.id = some c) (r : Registration) (event : DaemonEvent) :
    ∃ c', (w.offer r event).client? c.id = some c' ∧
      Turn w (w.offer r event) (.offers r event) c c' := by
  unfold offer
  split
  · next message hmessage =>
    split
    · next h =>
      obtain ⟨hmem, live⟩ := h
      -- The registration is this client's, which is a push, or another's, which is nothing to it.
      by_cases heq : r.conn = c.id
      · have hregistered : ⟨c.id, r.token⟩ ∈ w.hub.of c.id := by
          rw [← heq]
          exact List.mem_filter.mpr ⟨hmem, decide_eq_true rfl⟩
        rw [heq]
        exact ⟨_, client?_modify _ (fun _ => rfl) found,
          .offered (if_pos heq) live hregistered hmessage⟩
      · refine ⟨c, ?_, .refl _ _ _ c⟩
        rw [client?_updateOutbox_of_ne w _ (Ne.symm heq), found]
    · exact ⟨c, found, .refl _ _ _ c⟩
  · exact ⟨c, found, .refl _ _ _ c⟩

/-- Who is offered a message once gets it at most once, and nobody else does. `once` holds where the
hub and the sessions agree. -/
theorem client?_offers {conn : ConnId} (message : Envelope) {recipients : List ConnId}
    (once : recipients.count conn ≤ 1) :
    (recipients.foldl (fun w conn => w.updateOutbox conn fun o => (o.offer message).1) w).client?
        conn = (w.client? conn).map fun c =>
      if conn ∈ recipients then { c with outbox := (c.outbox.offer message).1 } else c := by
  rw [client?_updateOutboxes]
  congr 1
  funext c
  by_cases hmem : conn ∈ recipients
  · have hcount : recipients.count conn = 1 :=
      Nat.le_antisymm once (List.count_pos_iff.mpr hmem)
    rw [if_pos hmem, hcount, Function.iterate_one]
  · rw [if_neg hmem, List.count_eq_zero.mpr hmem, Function.iterate_zero, id_eq]

/-- To publish an event changes clients only. Stated as an equation of worlds, from which the fields
that stay can be read off. -/
theorem publish_eq (w : World) (event : DaemonEvent) :
    ∃ clients, w.publish event = { w with clients := clients } := by
  unfold publish
  split
  · next message _ =>
    rw [broadcast]
    generalize w.hub.recipients w.cancelled = recipients
    induction recipients generalizing w with
    | nil => exact ⟨w.clients, rfl⟩
    | cons conn rest ih =>
      obtain ⟨clients, heq⟩ := ih (w.updateOutbox conn fun o => (o.offer message).1)
      exact ⟨clients, heq⟩
  · exact ⟨w.clients, rfl⟩

/-- No registration comes or goes when an event is published, by `publish_eq`. -/
@[simp] theorem hub_publish (w : World) (event : DaemonEvent) : (w.publish event).hub = w.hub := by
  obtain ⟨clients, heq⟩ := w.publish_eq event
  rw [heq]

@[simp] theorem isCancelled_publish (w : World) (event : DaemonEvent) (t : Token) :
    (w.publish event).isCancelled t = w.isCancelled t := by
  obtain ⟨clients, heq⟩ := w.publish_eq event
  rw [heq]
  rfl

/-- A connection is offered an event if it has a registration that is not cancelled. Whether it has
a client does not matter here. -/
theorem mem_recipients {conn : ConnId} : conn ∈ w.hub.recipients w.cancelled ↔
    ∃ token, ⟨conn, token⟩ ∈ w.hub.of conn ∧ w.isCancelled token = false := by
  rw [Hub.recipients, List.mem_map]
  constructor
  · rintro ⟨r, hr, rfl⟩
    obtain ⟨hmem, hlive⟩ := List.mem_filter.mp hr
    rw [Bool.not_eq_true'] at hlive
    exact ⟨r.token, List.mem_filter.mpr ⟨hmem, decide_eq_true rfl⟩, hlive⟩
  · rintro ⟨token, hregistered, hlive⟩
    refine ⟨⟨conn, token⟩, List.mem_filter.mpr ⟨List.mem_of_mem_filter hregistered, ?_⟩, rfl⟩
    rw [Bool.not_eq_true']
    exact hlive

/-- An event that is published is pushed to a client that is registered, or means nothing for it.
`once` makes the push a single one. -/
theorem publish_turn (found : w.client? c.id = some c) (once : (w.hub.of c.id).length ≤ 1)
    (event : DaemonEvent) : ∃ c', (w.publish event).client? c.id = some c' ∧
      Turn w (w.publish event) (.happens (.act (.publish event))) c c' := by
  unfold publish
  split
  · next message hmessage =>
    rw [broadcast, client?_offers message (Nat.le_trans (Hub.count_recipients_le _ _) once), found]
    refine ⟨_, rfl, ?_⟩
    split
    · next hmem =>
      obtain ⟨token, hregistered, live⟩ := mem_recipients.mp hmem
      -- The registration is the only one of the connection.
      have hof : w.hub.of c.id = [⟨c.id, token⟩] := by
        obtain ⟨r, hr⟩ := List.length_eq_one_iff.mp
          (Nat.le_antisymm once (List.length_pos_of_mem hregistered))
        rw [hr, List.mem_singleton] at hregistered
        rw [hr, hregistered]
      refine .offered ?_ live hregistered hmessage
      change (w.hub.of c.id).head?.map (·.token) = some token
      rw [hof]
      rfl
    · exact .refl _ _ _ c
  · exact ⟨c, found, .refl _ _ _ c⟩

/-! ### All moments -/

/-- Whatever the loop of a socket chooses with `choose` means what the call of the session would
mean. -/
theorem choose_turn (found : w.client? c.id = some c) :
    ∃ c', (w.choose c.id).client? c.id = some c' ∧
      Turn w (w.choose c.id) (.happens (.act (.choose c.id))) c c' := by
  unfold choose
  rw [found]
  dsimp only
  split
  -- Whatever is chosen is what it would be as an action of its own.
  · have hrest := client?_modify (fun c => { c with inbox := c.inbox.tail }) (fun _ => rfl) found
    split
    · exact close_turn found
    · exact retire_turn found _
    · exact handleFrame_turn _ hrest
    · exact ⟨_, hrest, .rests rfl rfl (.refl _)⟩
    · exact ⟨c, found, .refl _ _ _ c⟩
  · exact ⟨c, found, .refl _ _ _ c⟩

/-- What is done to the body of a task does not matter: turns are about queue, reply and session. -/
theorem updateBody_turn (found : w.client? c.id = some c) (generation : Nat)
    (f : TaskBody → TaskBody) : ∃ c', (w.updateBody c.id generation f).client? c.id = some c' ∧
      Turn w (w.updateBody c.id generation f) m c c' :=
  ⟨_, client?_modify _ (fun _ => rfl) found, .rests rfl rfl (.refl _)⟩

/-- An action that is about the connection of a client. One case for each `Action`, by the lemma of
the operation. -/
theorem step_turn (found : w.client? c.id = some c) (a : Action) (about : a.conn? = some c.id) :
    ∃ c', (w.step a).client? c.id = some c' ∧ Turn w (w.step a) (.happens (.act a)) c c' := by
  -- By the action, each with its own lemma; those without one only touch a task, the inbox or the
  -- queue.
  cases a <;> cases about
  case connect capacity =>
    refine ⟨c, ?_, .refl _ _ _ c⟩
    rw [step, connect, found]
    exact found
  case frame bytes => exact handleFrame_turn bytes found
  case dispatch message =>
    exact handle_turn (fun s => (s.decide w.services message, message.id))
      (fun _ _ _ h => (Session.of_decide_stop h).2) found
  case reply now => exact reply_turn found now
  case retire ended => exact retire_turn found ended
  case close => exact close_turn found
  case proceed generation now => exact proceed_turn found generation now
  case tell generation notice =>
    rw [step, tell]
    split
    · exact ⟨c, found, .refl _ _ _ c⟩
    · split
      · exact ⟨c, found, .refl _ _ _ c⟩
      · exact updateBody_turn found generation _
  case read generation =>
    rw [step, read]
    split <;> exact updateBody_turn found generation _
  case supply generation portion =>
    rw [step, supply]
    split
    · exact ⟨c, found, .refl _ _ _ c⟩
    · exact updateBody_turn found generation _
  case arrive message =>
    exact ⟨_, client?_modify _ (fun _ => rfl) found, .rests rfl rfl (.refl _)⟩
  case choose => exact choose_turn found
  case take =>
    exact ⟨_, client?_modify _ (fun _ => rfl) found, .rests rfl rfl (Outbox.fades_receive _)⟩
  case leave =>
    exact ⟨_, client?_modify _ (fun _ => rfl) found, .rests rfl rfl (Outbox.fades_drop _)⟩

theorem endTask_turn (found : w.client? c.id = some c) (generation : Nat) :
    ∃ c', (w.endTask c.id generation).client? c.id = some c' ∧
      Turn w (w.endTask c.id generation) m c c' := by
  unfold endTask
  split
  · exact ⟨c, found, .refl _ _ _ c⟩
  · split
    · exact ⟨c, found, .refl _ _ _ c⟩
    · exact ⟨_, client?_finish _ found, .rests rfl rfl (.refl _)⟩

/-- What leaves a connection alone means nothing for its client (`Turn.refl`). -/
theorem SameAt.turn (h : SameAt c.id w w') (found : w.client? c.id = some c) :
    ∃ c', w'.client? c.id = some c' ∧ Turn w w' m c c' :=
  ⟨c, h.client.trans found, .refl _ _ _ c⟩

/-- **Every moment is a turn,** at every connection that is registered with the hub no more than
once. What is about the connection is `step_turn`, what is about another is `SameAt.turn`, and the
hub has two lemmas of its own. -/
theorem pass_turn (found : w.client? c.id = some c) (once : (w.hub.of c.id).length ≤ 1)
    (m : Moment) : ∃ c', (w.pass m).client? c.id = some c' ∧ Turn w (w.pass m) m c c' := by
  cases m with
  | offers r event => exact offer_turn found r event
  | happens h =>
    cases h with
    | act a =>
      -- An action that is about nobody concerns all clients: an event is published, or the agent
      -- shut down.
      cases about : a.conn? with
      | some conn =>
        by_cases heq : conn = c.id
        · exact step_turn found a (by rw [about, heq])
        · have hsame := (step_changesAt w a about fun _ => trivial).sameAt (Ne.symm heq)
          exact hsame.turn found
      | none =>
        cases a with
        | publish event => exact publish_turn found once event
        | shutdown => exact ⟨c, found, .refl _ _ _ c⟩
        | _ => cases about
    | ends conn generation =>
      by_cases heq : conn = c.id
      · subst heq
        exact endTask_turn found generation
      · have hchanges : ChangesAt True conn w (w.endTask conn generation) :=
          endTask_changes w conn generation
        exact (hchanges.sameAt (Ne.symm heq)).turn found

/-! ### Clients to come -/

variable {conn : ConnId}

/-- What is done to a client that is not there does not make one: `modify` only maps over the
clients. -/
theorem client?_modify_none (f : Client → Client) (keeps : ∀ c, (f c).id = c.id)
    (absent : w.client? conn = none) : (w.modify conn f).client? conn = none := by
  rw [client?_modify_self w f keeps, absent, Option.map_none]

/-- Nothing but connecting makes a client. Actions that look for the client find none, and those
that do not have nobody to change. -/
theorem step_absent (absent : w.client? conn = none) (a : Action) (about : a.conn? = some conn) :
    (w.step a).client? conn = none ∨
      ∃ capacity, (w.step a).client? conn = some { id := conn, outbox := { capacity } } := by
  cases a <;> cases about
  case connect capacity => exact Or.inr ⟨capacity, client?_connect capacity absent⟩
  all_goals left
  -- Most look for the client first.
  case frame | dispatch | reply | retire | close | proceed | tell | choose =>
    simp only [step, handle, reply, retire, close, proceed, tell, choose, absent, Option.bind_none]
  -- And the others have nobody to do anything to.
  case read generation =>
    rw [step, read]
    split <;> exact client?_modify_none _ (fun _ => rfl) absent
  case supply generation portion =>
    rw [step, supply]
    split
    · exact absent
    · exact client?_modify_none _ (fun _ => rfl) absent
  case arrive | take | leave => exact client?_modify_none _ (fun _ => rfl) absent

/-- An `offer` makes no client. -/
theorem offer_absent (absent : w.client? conn = none) (r : Registration) (event : DaemonEvent) :
    (w.offer r event).client? conn = none := by
  rw [offer]
  split
  · split
    · by_cases heq : conn = r.conn
      · subst heq
        exact client?_modify_none _ (fun _ => rfl) absent
      · rw [client?_updateOutbox_of_ne w _ heq, absent]
    · exact absent
  · exact absent

/-- An event makes no client either, to however many registrations it is offered. -/
theorem publish_absent (absent : w.client? conn = none) (event : DaemonEvent) :
    (w.publish event).client? conn = none := by
  rw [publish_eq_offers]
  generalize w.hub.registrations = registrations
  induction registrations generalizing w with
  | nil => exact absent
  | cons r rest ih => exact ih (offer_absent absent r event)

/-- Where there is no client yet, there is none after a moment either, or one that has just
connected. -/
theorem pass_absent (absent : w.client? conn = none) (m : Moment) :
    (w.pass m).client? conn = none ∨
      ∃ capacity, (w.pass m).client? conn = some { id := conn, outbox := { capacity } } := by
  -- Nobody is there unless somebody connects.
  cases m with
  | offers r event => exact Or.inl (offer_absent absent r event)
  | happens h =>
    cases h with
    | act a =>
      cases about : a.conn? with
      | some other =>
        by_cases heq : other = conn
        · exact step_absent absent a (by rw [about, heq])
        · have hsame := (step_changesAt w a about fun _ => trivial).sameAt (Ne.symm heq)
          exact Or.inl (hsame.client.trans absent)
      | none =>
        cases a with
        | publish event => exact Or.inl (publish_absent absent event)
        | shutdown => exact Or.inl absent
        | _ => cases about
    | ends other generation =>
      left
      by_cases heq : other = conn
      · rw [pass, happen, endTask, heq, absent]
        exact absent
      · have hchanges : ChangesAt True other w (w.endTask other generation) :=
          endTask_changes w other generation
        exact (hchanges.sameAt (Ne.symm heq)).client.trans absent

/-- A moment is a sequence of changes as well. An offer is one change, of the queue that it is made
to. -/
theorem pass_changes (w : World) (m : Moment) : Changes True w (w.pass m) := by
  cases m with
  | happens h => exact happen_changes w h fun _ => trivial
  | offers r event =>
    rw [pass, offer]
    split
    · split
      · exact (updateOutbox_changes w r.conn _).changes
      · exact .refl
    · exact .refl

/-- Any number of moments, one after the other, is a sequence of changes. This is what carries
`World.Sound`, `World.Agrees` and all that is `Client.Lasting` over a history. -/
theorem passes_changes (w : World) (moments : List Moment) :
    Changes True w (moments.foldl pass w) := by
  induction moments generalizing w with
  | nil => exact .refl
  | cons m rest ih => exact (pass_changes w m).trans (ih _)

end World

end Lookout
