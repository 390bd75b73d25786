import Lookout.Proofs.Agent.Turn

/-!
# One frame, one change

A session that is given a frame changes nothing but the one subscription that it acknowledges. A
subscription that is given up goes when the session decides on its reply, together with its token
and its registration; one that is granted comes when the reply is sent, together with its task or
its registration. Between the two others may go on, but nothing happens to the session. If the reply
is no acknowledgement, then nothing happens at all. A stream that has ended is retired if and only
if the session holds the very subscription.

* `Registry`, `World.registry` — what is kept of the subscriptions of a client;
* `Registry.Effect` — the effect of a frame, told by its reply;
* `World.Call`, `World.Handled` — a call that handles a frame, and what it does;
* `World.Exact` — what a session that is idle does to its registry;
* `World.exact_history` — it does no more and no less on every history.
-/

namespace Lookout

/-! ### What is kept -/

/-- **What is kept of the subscriptions of a client:** in its session, by its tasks, in the tokens
that were cancelled and in the hub; and, to tell that they stay what they are, the other clients.
Queue, inbox and the reply that waits are left out. An equation between two registries therefore is
a frame condition on the whole agent, with no field for what did not change. -/
structure Registry where
  session : Session
  tasks : List StreamTask
  /-- The streams that have ended and are not retired yet. -/
  ended : List Subscription
  cancelled : Token → Bool
  hub : Hub
  others : ConnId → Option Client

/-- What is kept of a client in a world. `others` is nothing at the client's own connection, so that
it does not repeat what the other fields tell. -/
def World.registry (w : World) (c : Client) : Registry where
  session := c.session
  tasks := c.tasks
  ended := c.ended
  cancelled := w.isCancelled
  hub := w.hub
  others other := if other = c.id then none else w.client? other

/-- **The effect of a frame,** told by its reply: on what is kept before it, after the session has
decided on the reply, when the reply is about to be sent, and after it was. Four registries are
needed since two things happen at different times: what is given up goes when the session decides,
between `before` and `decided`, and what is granted comes with the reply, between `waiting` and
`answered`. From `decided` to `waiting` the rest of the agent goes on, which only `kept` speaks
of. -/
structure Registry.Effect (conn : ConnId) (frame : List UInt8) (reply : Envelope)
    (before decided waiting answered : Registry) : Prop where
  /-- While the reply waits, the session does nothing. -/
  kept : waiting.session = decided.session
  /-- An error, or a sign of life, leaves everything as it is. -/
  rejected : reply.type? = some .error ∨ reply.type? = some .pong →
    decided = before ∧ answered = waiting
  /-- Only requests for or against a stream are acknowledged. -/
  asked : reply.type? = some .subscribed →
    ∃ stream, FrameAsks frame .subscribe stream ∨ FrameAsks frame .unsubscribe stream
  /-- The stream was not subscribed to. It is added under the next number, with one task at most and
  with the registration of the connection if the stream is that to events. -/
  subscribed : reply.type? = some .subscribed → ∀ stream, FrameAsks frame .subscribe stream →
    before.session.has stream = false ∧ decided = before ∧
      ∃ task : Option StreamTask,
        (∀ t ∈ task, t.subscription = ⟨stream, before.session.nextGeneration⟩) ∧
        answered = { waiting with
          session :=
            { subscriptions :=
                before.session.subscriptions ++ [⟨stream, before.session.nextGeneration⟩]
              nextGeneration := before.session.nextGeneration + 1 }
          tasks := waiting.tasks ++ task.toList
          hub :=
            if stream = .events then
              waiting.hub.subscribe conn (subscriptionToken conn before.session.nextGeneration)
            else waiting.hub }
  /-- The stream was subscribed to. It is taken away, its token is cancelled, and the registration
  of the connection goes if the stream is that to events. -/
  unsubscribed : reply.type? = some .subscribed → ∀ stream, FrameAsks frame .unsubscribe stream →
    ∃ sub ∈ before.session.subscriptions, sub.stream = stream ∧
      (stream = .events →
        before.hub.of conn = [⟨conn, subscriptionToken conn sub.generation⟩]) ∧
      decided = { before with
        session := { before.session with
          subscriptions := before.session.subscriptions.filter fun other => other.stream ≠ stream }
        cancelled := fun t =>
          t.isWithin (subscriptionToken conn sub.generation) || before.cancelled t
        hub := if stream = .events then before.hub.unsubscribe conn else before.hub } ∧
      answered = waiting

/-- What is no acknowledgement leaves everything as it is. Three of the fields speak of
acknowledgements and are vacuous then. -/
theorem Registry.Effect.unchanged {conn : ConnId} {frame : List UInt8} {reply : Envelope}
    {before decided waiting answered : Registry} {type : MessageType}
    (kept : waiting.session = decided.session) (is : reply.type? = some type)
    (other : type ≠ .subscribed) (decides : decided = before) (answers : answered = waiting) :
    Registry.Effect conn frame reply before decided waiting answered := by
  have hne : reply.type? ≠ some .subscribed := fun h =>
    other (Option.some.inj (is.symm.trans h))
  exact ⟨kept, fun _ => ⟨decides, answers⟩, fun h => absurd h hne, fun h => absurd h hne,
    fun h => absurd h hne⟩

namespace World

variable {w w' : World} {c c' : Client}

/-- Where only one connection is concerned, the other clients stay what they are. What is left to
show of an effect are the fields that `Registry` lists, and the hub and the tokens are asked for as
equations so that callers can use the lemma of the operation. -/
theorem registry_eq (h : ChangesAt True c.id w w') (found' : w'.client? c.id = some c')
    {cancelled : Token → Bool} (hcancelled : ∀ t, w'.isCancelled t = cancelled t) {hub : Hub}
    (hhub : w'.hub = hub) :
    w'.registry c' = { w.registry c with
      session := c'.session
      tasks := c'.tasks
      ended := c'.ended
      cancelled
      hub } := by
  -- No change at one connection is seen at the others.
  have hothers : (w'.registry c').others = (w.registry c).others := by
    funext other
    simp only [registry, id_of_client? found']
    split
    · rfl
    · next hne => exact (h.sameAt hne).client
  rw [registry] at hothers ⊢
  rw [Registry.mk.injEq]
  exact ⟨rfl, rfl, rfl, funext hcancelled, hhub, hothers⟩

/-! ### The two halves of a call -/

/-- **What a decision changes:** nothing, or the session gives up a subscription that it holds. The
stream that is to be started is the one that was granted. The indices are the verdict, what is left
to be started, and the registry afterwards, so cases on it in `Call.handled` settle all three. -/
inductive Decided (conn : ConnId) (before : Registry) :
    Verdict → Option (Stream × Option Int64) → Registry → Prop where
  | pong : Decided conn before .pong none before
  | reject (r : Rejection) : Decided conn before (.reject r) none before
  | start (stream : Stream) (interval : Option Int64) :
    Decided conn before (.start stream interval) (some (stream, interval)) before
  | stop {sub : Subscription} (name : String)
    (held : before.session.find? sub.stream = some sub) :
    Decided conn before (.stop sub.stream name) none { before with
      session := before.session.erase sub.stream
      cancelled := fun t =>
        t.isWithin (subscriptionToken conn sub.generation) || before.cancelled t
      hub := if sub.stream = .events then before.hub.unsubscribe conn else before.hub }

/-- A verdict to `start` a stream leaves that stream to be started, and changes nothing yet. -/
theorem Decided.of_start {conn : ConnId} {before after : Registry} {stream : Stream}
    {interval : Option Int64} {start : Option (Stream × Option Int64)}
    (h : Decided conn before (.start stream interval) start after) :
    start = some (stream, interval) ∧ after = before := by
  cases h
  exact ⟨rfl, rfl⟩

/-- **What a frame changes** before its reply is sent: the reply waits in `Client.pending`, and the
registry is what `Decided` makes of the verdict. Together with `reply_effect` this is the whole
effect; the two are stated apart as anything may happen between them. -/
theorem frame_effect (found : w.client? c.id = some c) (idle : c.isIdle) (frame : List UInt8) :
    ∃ c' r, (w.step (.frame c.id frame)).client? c.id = some c' ∧ c'.pending = some r ∧
      r.message = (c.session.decideFrame w.services frame).1.reply
        (c.session.decideFrame w.services frame).2 ∧
      Decided c.id (w.registry c) (c.session.decideFrame w.services frame).1 r.start
        ((w.step (.frame c.id frame)).registry c') := by
  have hchanges : ChangesAt True c.id w (w.step (.frame c.id frame)) :=
    step_changesAt w (.frame c.id frame) rfl fun _ => trivial
  have hstep : w.step (.frame c.id frame) = w.carryOut c.id c.session
      (c.session.decideFrame w.services frame).1 (c.session.decideFrame w.services frame).2 := by
    rw [step, handle, found]
    exact if_pos idle
  rw [hstep] at hchanges ⊢
  generalize (c.session.decideFrame w.services frame).2 = id at hchanges ⊢
  cases hverdict : (c.session.decideFrame w.services frame).1 with
  | pong
  | reject r
  | start stream interval =>
    rw [hverdict] at hchanges
    have hfound := fun r =>
      client?_modify (fun c => { c with pending := some r }) (fun _ => rfl) found
    refine ⟨_, _, hfound _, rfl, rfl, ?_⟩
    -- The registry does not show the reply.
    rw [registry_eq hchanges (hfound _) (fun _ => rfl) rfl]
    constructor
  -- A stream is given up only if it is held, so there is a subscription whose token is cancelled.
  | stop stream name =>
    have hhas := (Session.of_decideFrame_stop hverdict).2
    obtain ⟨sub, hfind⟩ := Option.isSome_iff_exists.mp hhas
    obtain rfl := Session.stream_of_find? hfind
    rw [hverdict] at hchanges
    simp only [carryOut, hfind] at hchanges ⊢
    have hfound := fun r => client?_modify (fun c => { c with pending := some r }) (fun _ => rfl)
      (client?_stop sub found)
    refine ⟨_, _, hfound _, rfl, rfl, ?_⟩
    rw [registry_eq hchanges (hfound _) (isCancelled_stop w c.id sub) (hub_stop w c.id sub)]
    exact .stop name hfind

/-- **What a reply changes** once it is queued, or never will be: nothing, or the session starts
what it has granted, under its next number and with the task that `TaskBody.ofStream` makes of the
interval that was granted with it. -/
theorem reply_effect {conn : ConnId} {r : PendingReply} (found : w.client? conn = some c)
    (awaited : c.pending = some r) (now : Nat) :
    ∃ c', (w.step (.reply conn now)).client? conn = some c' ∧ (c'.pending = none →
      (c'.outbox = c.outbox.push r.message ∨ c'.outbox = c.outbox) ∧
      match r.start with
      | none => (w.step (.reply conn now)).registry c' = w.registry c
      | some (stream, interval) => ∃ task : Option StreamTask,
          task = ((TaskBody.ofStream w.services.limits stream interval now).map fun body =>
            { subscription := ⟨stream, c.session.nextGeneration⟩, body : StreamTask }) ∧
          (w.step (.reply conn now)).registry c' = { w.registry c with
            session := c.session.insert stream
            tasks := c.tasks ++ task.toList
            hub :=
              if stream = .events then
                w.hub.subscribe conn (subscriptionToken conn c.session.nextGeneration)
              else w.hub }) := by
  obtain rfl := id_of_client? found
  have hchanges : ChangesAt True c.id w (w.step (.reply c.id now)) :=
    step_changesAt w (.reply c.id now) rfl fun _ => trivial
  rw [step, reply, found] at hchanges ⊢
  simp only [awaited] at hchanges ⊢
  cases hsent : c.outbox.send (w.isCancelled (sessionToken c.id)) r.message with
  | mk outbox sending =>
    simp only [hsent] at hchanges ⊢
    have hmodify := client?_modify (fun c => { c with outbox := outbox, pending := none })
      (fun _ => rfl) found
    -- A reply that waits is still pending, of which nothing is said here. Sent or not, it is over,
    -- and what it announces is started.
    cases sending with
    | waiting =>
      refine ⟨c, found, fun hnone => ?_⟩
      rw [awaited] at hnone
      cases hnone
    | queued
    | failed error =>
      dsimp only at hchanges ⊢
      have houtbox : outbox = c.outbox.push r.message ∨ outbox = c.outbox :=
        (Outbox.send_cases hsent fun h => by cases h).imp (fun h => h.2.2.2) fun h => h.2.2
      cases hstart : r.start with
      | none =>
        rw [hstart] at hchanges
        exact ⟨_, hmodify, fun _ => ⟨houtbox, registry_eq hchanges hmodify (fun _ => rfl) rfl⟩⟩
      | some start =>
        obtain ⟨stream, interval⟩ := start
        rw [hstart] at hchanges
        exact ⟨_, client?_start hmodify, fun _ => ⟨houtbox, _, rfl,
          registry_eq hchanges (client?_start hmodify)
            (isCancelled_start _ c.id c.session stream interval now)
            (hub_start _ c.id c.session stream interval now)⟩⟩

/-- **A session waits until its reply is sent,** whatever happens meanwhile. The induction is on the
happenings; in each the turn of the client is one that a busy session can take (`pass_turn`), and
`silent` rules out the one that would answer. -/
theorem waits_history {conn : ConnId} {r : PendingReply} (hsound : w.Sound True)
    (hagrees : w.Agrees) (found : w.client? conn = some c) (awaited : c.pending = some r)
    {events : List Happening} (silent : ∀ now, .act (.reply conn now) ∉ events) :
    ∃ c', (w.history events).client? conn = some c' ∧ c'.pending = some r ∧
      c'.session = c.session := by
  induction events generalizing w c with
  | nil => exact ⟨c, found, awaited, rfl⟩
  | cons event rest ih =>
    obtain rfl := id_of_client? found
    obtain ⟨c', found', turn⟩ := pass_turn found (hagrees.once _) (.happens event)
    -- A session that waits to reply is not idle, and whatever takes an idle one is out of the
    -- question.
    have hbusy : ¬c.isIdle := fun idle => by
      rw [Client.pending_of_isIdle idle] at awaited
      cases awaited
    have hsame : c'.pending = some r ∧ c'.session = c.session := by
      cases turn with
      | rests session pending outbox => exact ⟨pending.trans awaited, session⟩
      | pushes session pending => exact ⟨pending.trans awaited, session⟩
      | decides idle
      | stops idle
      | retires idle => exact absurd idle hbusy
      | answers event =>
        cases event
        exact absurd List.mem_cons_self (silent _)
    have hchanges : Changes True w (w.happen event) := happen_changes w event fun _ => trivial
    obtain ⟨c'', found'', awaited'', session''⟩ := ih (hchanges.sound hsound)
      (hchanges.agrees hsound hagrees) found' hsame.1
      fun now hmem => silent now (List.mem_cons_of_mem _ hmem)
    exact ⟨c'', found'', awaited'', session''.trans hsame.2⟩

/-! ### The whole call -/

/-- **A call:** a session decides on a frame, its reply waits whatever happens, and then it is sent,
or still has to wait. -/
structure Call (w : World) (conn : ConnId) (frame : List UInt8) (decided waiting answered : World) :
    Prop where
  decides : decided = w.step (.frame conn frame)
  waits : ∃ meanwhile, waiting = decided.history meanwhile ∧
    ∀ now, .act (.reply conn now) ∉ meanwhile
  answers : ∃ now, answered = waiting.step (.reply conn now)

/-- A call may go through without anything between its two halves: `waiting` is then the world in
which it was decided. -/
theorem Call.at_once (w : World) (conn : ConnId) (frame : List UInt8) (now : Nat) :
    w.Call conn frame (w.step (.frame conn frame)) (w.step (.frame conn frame))
      ((w.step (.frame conn frame)).step (.reply conn now)) where
  decides := rfl
  waits := ⟨[], rfl, nofun⟩
  answers := ⟨now, rfl⟩

/-- **What a call does:** the session decides on a reply, which stays the same until it is queued,
or never will be; and then the frame has had its effect. -/
def Handled (w : World) (c : Client) (frame : List UInt8) (decided waiting answered : World) :
    Prop :=
  ∃ r c₁ c₂ c₃, decided.client? c.id = some c₁ ∧ c₁.pending = some r ∧
    waiting.client? c.id = some c₂ ∧ c₂.pending = some r ∧
    answered.client? c.id = some c₃ ∧ (c₃.pending = none →
      (c₃.outbox = c₂.outbox.push r.message ∨ c₃.outbox = c₂.outbox) ∧
      Registry.Effect c.id frame r.message (w.registry c) (decided.registry c₁)
        (waiting.registry c₂) (answered.registry c₃))

/-- **What a session that is idle does to its registry is exact:** what it does with a frame, and
how it retires a stream. `frame` is about whole calls, and `Call` leaves open what happens between
their halves. -/
structure Exact (w : World) (c : Client) : Prop where
  frame : ∀ frame decided waiting answered, w.Call c.id frame decided waiting answered →
    w.Handled c frame decided waiting answered
  /-- A stream is given up if and only if the subscription that has ended is the one to it. -/
  ended : ∀ ended : Subscription, ended ∈ c.session.subscriptions ↔
    c.session.has ended.stream = true ∧ (c.session.retire ended).has ended.stream = false
  /-- The end of an older one is ignored. -/
  outdated : ∀ ended ∉ c.session.subscriptions, c.session.retire ended = c.session
  /-- Nothing else is touched. -/
  retire : ∀ ended ∈ c.ended, ∃ c', (w.step (.retire c.id ended)).client? c.id = some c' ∧
    (w.step (.retire c.id ended)).registry c' = { w.registry c with
      session := { c.session with
        subscriptions := c.session.subscriptions.filter fun sub => sub ≠ ended }
      ended := c.ended.erase ended }

/-- What `retire` changes: the subscription goes, if it is held, and the end waits no more. Hub,
tokens and all other clients stay as they are. -/
theorem retire_effect (found : w.client? c.id = some c) (idle : c.isIdle) {ended : Subscription}
    (waiting : ended ∈ c.ended) : ∃ c', (w.step (.retire c.id ended)).client? c.id = some c' ∧
      (w.step (.retire c.id ended)).registry c' = { w.registry c with
        session := c.session.retire ended
        ended := c.ended.erase ended } := by
  have hchanges : ChangesAt True c.id w (w.step (.retire c.id ended)) :=
    step_changesAt w (.retire c.id ended) rfl fun _ => trivial
  rw [step, retire_eq found idle waiting] at hchanges ⊢
  have hfound := client?_modify (fun c =>
    { c with session := c.session.retire ended, ended := c.ended.erase ended }) (fun _ => rfl) found
  exact ⟨_, hfound, registry_eq hchanges hfound (fun _ => rfl) rfl⟩

/-- No other subscription to the stream is left when the one that it holds is retired. From left to
right since no stream is subscribed to twice (`Books.streams`); from right to left since the
retirement of another subscription does nothing. -/
theorem mem_iff_retire (hbooks : c.Books) (ended : Subscription) :
    ended ∈ c.session.subscriptions ↔
      c.session.has ended.stream = true ∧ (c.session.retire ended).has ended.stream = false := by
  rw [← Bool.not_eq_false, Session.has_eq_false_iff, Session.has_eq_false_iff]
  constructor
  · intro hheld
    refine ⟨fun hnone => hnone ended hheld rfl, fun sub hsub heq => ?_⟩
    obtain ⟨hmem, hne⟩ := Session.mem_retire.mp hsub
    exact hne (hbooks.eq_of_stream hmem hheld heq)
  · rintro ⟨hhas, hgone⟩
    by_contra hnot
    rw [Session.retire_eq_self hnot] at hgone
    exact hhas hgone

/-- The registration of a session that is subscribed to events: one, and under the token of the
subscription that is held. An earlier subscription to events has left none behind. -/
theorem hub_of_events (hagrees : w.Agrees) (found : w.client? c.id = some c) (idle : c.isIdle)
    {sub : Subscription} (held : c.session.find? .events = some sub) :
    w.hub.of c.id = [⟨c.id, subscriptionToken c.id sub.generation⟩] := by
  rw [hagrees.of_client found, Client.registrations, Client.closed_of_isIdle idle, held]
  rfl

/-- What is acknowledged is neither an error nor a sign of life, so two of the clauses of
`Registry.Effect` do not apply. -/
theorem acknowledged_ne {type : Option MessageType} (h : type = some .subscribed) :
    type ≠ some .error ∧ type ≠ some .pong := by
  rw [h]
  exact ⟨nofun, nofun⟩

/-- **The two halves of a call make up the effect of the frame.** `frame_effect` gives the world
after the decision, `waits_history` carries the reply over what happens meanwhile, and
`reply_effect` gives the world after it. What is left is to read `Registry.Effect` off the verdict,
case by case. -/
theorem Call.handled {frame : List UInt8} {decided waiting answered : World}
    (h : w.Call c.id frame decided waiting answered) (hsound : w.Sound True) (hagrees : w.Agrees)
    (found : w.client? c.id = some c) (idle : c.isIdle) :
    w.Handled c frame decided waiting answered := by
  obtain ⟨rfl, ⟨meanwhile, rfl, silent⟩, now, rfl⟩ := h
  have hframe : Changes True w (w.step (.frame c.id frame)) :=
    step_changes w (.frame c.id frame) fun _ => trivial
  obtain ⟨c₁, r, hdecided, hpending, hmessage, heffect⟩ := frame_effect found idle frame
  obtain ⟨c₂, hwaiting, hawaited, hkept⟩ := waits_history (hframe.sound hsound)
    (hframe.agrees hsound hagrees) hdecided hpending silent
  obtain ⟨c₃, hanswered, hreply⟩ := reply_effect hwaiting hawaited now
  refine ⟨r, c₁, c₂, c₃, hdecided, hpending, hwaiting, hawaited, hanswered, fun done => ?_⟩
  obtain ⟨houtbox, hanswer⟩ := hreply done
  refine ⟨houtbox, ?_⟩
  -- The type of the reply tells the verdicts apart, except that both a grant and a release are
  -- acknowledged; those differ in what the frame asks for.
  have htype : r.message.type? = _ := congrArg Envelope.type? hmessage
  have hsession : c₂.session = ((w.step (.frame c.id frame)).registry c₁).session := hkept
  generalize (w.step (.frame c.id frame)).history meanwhile = waiting at *
  generalize hverdict : (c.session.decideFrame w.services frame).1 = verdict at heffect htype
  generalize (w.step (.frame c.id frame)).registry c₁ = decided at *
  generalize r.start = start at *
  cases heffect with
  | pong =>
    exact .unchanged hsession (htype.trans (MessageType.ofName?_name .pong)) nofun rfl hanswer
  | reject rejection =>
    exact .unchanged hsession (htype.trans (MessageType.ofName?_name .error)) nofun rfl hanswer
  | start stream interval =>
    have hack := htype.trans (MessageType.ofName?_name .subscribed)
    obtain ⟨hasked, hadmits⟩ := Session.of_decideFrame_start hverdict
    refine ⟨hsession, fun h => absurd h (not_or.mpr (acknowledged_ne hack)),
      fun _ => ⟨stream, Or.inl hasked⟩, fun _ stream' hother => ?_,
      fun _ _ hother => (by cases (hasked.unique hother).1)⟩
    obtain ⟨-, rfl⟩ := hasked.unique hother
    -- What is started is added to what the session held when it decided.
    rw [hsession] at hanswer
    obtain ⟨task, rfl, hregistry⟩ := hanswer
    refine ⟨hadmits.absent, rfl, _, fun t ht => ?_, hregistry⟩
    obtain ⟨body, -, rfl⟩ := Option.map_eq_some_iff.mp ht
    rfl
  | @stop sub name held =>
    have hack := htype.trans (MessageType.ofName?_name .subscribed)
    have hasked := (Session.of_decideFrame_stop hverdict).1
    refine ⟨hsession, fun h => absurd h (not_or.mpr (acknowledged_ne hack)),
      fun _ => ⟨sub.stream, Or.inr hasked⟩,
      fun _ _ hother => (by cases (hasked.unique hother).1), fun _ stream' hother => ?_⟩
    obtain ⟨-, rfl⟩ := hasked.unique hother
    refine ⟨sub, Session.mem_of_find? held, rfl, fun hevents => ?_, rfl, hanswer⟩
    exact hub_of_events hagrees found idle (hevents ▸ held)

/-- **A session does to its registry what it says, and no more,** whatever happened to the agent
before. `World.Sound` gives the books of the client and `World.Agrees` what the hub knows of it;
both hold in every world that can be reached. -/
theorem exact_history (services : Services) (events : List Happening) {conn : ConnId} {c : Client}
    (found : (({ services := services } : World).history events).client? conn = some c)
    (idle : c.isIdle) : (({ services := services } : World).history events).Exact c := by
  obtain rfl := id_of_client? found
  have hchanges := history_changes { services := services } events
  have hsound := hchanges.sound (.services services)
  have hagrees := hchanges.agrees (.services services) (.services services)
  exact ⟨fun _ _ _ _ hcall => hcall.handled hsound hagrees found idle,
    mem_iff_retire (hsound.client found).books, fun _ hnot => Session.retire_eq_self hnot,
    fun ended hended => retire_effect found idle hended⟩

/-- The session of a client that is subscribed to events for the second time does what it says,
too. -/
theorem exact_eventsTwice : ∃ c,
    (({ services := {} } : World).history eventsTwice).client? 0 = some c ∧
    c.session.subscriptions = [⟨.events, 1⟩] ∧ c.isIdle = true ∧
    (({ services := {} } : World).history eventsTwice).Exact c := by
  have hclient : ((({ services := {} } : World).history eventsTwice).client? 0).map
      (fun c => (c.session.subscriptions, c.isIdle)) = some ([⟨.events, 1⟩], true) := by decide
  obtain ⟨c, found, heq⟩ := Option.map_eq_some_iff.mp hclient
  obtain ⟨hsubscriptions, idle⟩ := by simpa only [Prod.mk.injEq] using heq
  exact ⟨c, found, hsubscriptions, idle, exact_history {} eventsTwice found idle⟩

/-- When that client gives events up, its subscription and its registration go, and no other. -/
example :
    let frame := Utf8.encode "[\"unsubscribe\",\"7\",[\"events\",null,null]]".toList
    let w := ((({ services := {} } : World).history eventsTwice).step (.frame 0 frame)).step
      (.reply 0 0)
    (w.client? 0).map (fun c => (c.session, c.pending.isNone)) = some (⟨[], 2⟩, true) ∧
      w.hub.registrations = [⟨1, subscriptionToken 1 0⟩] := by decide +kernel

end World

end Lookout
