import Lookout.Proofs.Agent.Journal

/-!
# Connections do not disturb each other

All connections share one agent, and with it one hub. What a client sees depends on its own doings
and on the events that are published, and on nothing that other clients do: if everything another
connection ever did is taken out of a history, the first one has the same subscriptions, the same
registrations and the same messages queued in the same order.

Two worlds look alike to a connection if its client, the tokens of its session, its registrations
and what its session may use are the same in both (`World.Alike`). There are two sides to the proof.
A moment of another connection leaves a world looking as it did (`ChangesAt.sameAt`); and any moment
that comes to two worlds that look alike leaves them looking alike (`World.Alike.pass`), because
every part of a step reads and writes no more than what belongs to its connection.

* `World.SameAt.step` — a step of the connection in two worlds;
* `World.Alike`, `World.Alike.pass` — looking alike, and that it lasts;
* `Journal.note_of_sameAt`, `Journal.Alike.note` — the same for what is queued;
* `World.alike_filter` — a connection does not see another one.

The lemmas of the first part end in `_both`: one part of a step, taken in two worlds that are the
same at a connection, leaves them so. Each unfolds its operation once, rewrites what it looks up by
`h.client`, `h.token` or `h.root`, and then follows its branches, in which both worlds go the same
way. A step that read anything else of the world would have a branch that could not be closed.
-/

namespace Lookout

namespace World

/-! ### The parts of a step, in two worlds -/

namespace SameAt

variable {w w' w'' : World} {conn : ConnId}

theorem refl (conn : ConnId) (w : World) : SameAt conn w w := ⟨rfl, fun _ _ => rfl, rfl⟩

section Two

variable (h : SameAt conn w w')
include h

/-- Which of two worlds comes first does not matter: `SameAt` is symmetric. -/
theorem symm : SameAt conn w' w where
  client := h.client.symm
  token t ht := (h.token t ht).symm
  root := h.root.symm

/-- The tokens of subscriptions are below that of the session, and so is what a task asks of them;
by `SameAt.token`. -/
theorem isCancelled_subscription (generation : Nat) :
    w'.isCancelled (subscriptionToken conn generation) =
      w.isCancelled (subscriptionToken conn generation) :=
  h.token _ (subscription_isWithin_session conn generation)

theorem isCancelled_reader (generation : Nat) :
    w'.isCancelled (readerToken conn generation) = w.isCancelled (readerToken conn generation) :=
  h.token _ (reader_isWithin_session conn generation)

/-- A change `f` of the client, made in both worlds. -/
theorem modify_both (f : Client → Client) (keeps : ∀ c, (f c).id = c.id) :
    SameAt conn (w.modify conn f) (w'.modify conn f) where
  client := by rw [client?_modify_self _ f keeps, client?_modify_self _ f keeps, h.client]
  token := h.token
  root := h.root

theorem cancel_both (t : Token) : SameAt conn (w.cancel t) (w'.cancel t) where
  client := h.client
  token other hother := by rw [isCancelled_cancel, isCancelled_cancel, h.token other hother]
  root := by rw [isCancelled_cancel, isCancelled_cancel, h.root]

/-- The hub is not looked at, and so each world may keep its own. That the registrations of the
connection are the same is shown afterwards, from the sessions (`SameAt.alike`). -/
theorem hub_both (first second : Hub) :
    SameAt conn { w with hub := first } { w' with hub := second } :=
  ((SameAt.hub w first).symm.trans h).trans (.hub w' second)

/-! The session. -/

/-- A subscription that is given up: `stop` is a cancellation, a change of the session, and one of
the hub, which is not looked at. -/
theorem stop_both (sub : Subscription) : SameAt conn (w.stop conn sub) (w'.stop conn sub) := by
  have herase := (h.cancel_both (subscriptionToken conn sub.generation)).modify_both
    (fun c => { c with session := c.session.erase sub.stream }) fun _ => rfl
  unfold World.stop
  split
  · exact herase.hub_both _ _
  · exact herase

/-- A frame that is handled, or one that was decoded. `decide` is given what the session holds, and
that is the same in both worlds. -/
theorem handle_both (decide : Session → Verdict × Option String) :
    SameAt conn (w.handle conn decide) (w'.handle conn decide) := by
  have hpending : ∀ {v v' : World} (r : PendingReply), SameAt conn v v' →
      SameAt conn (v.modify conn fun c => { c with pending := some r })
        (v'.modify conn fun c => { c with pending := some r }) :=
    fun r h => h.modify_both (fun c => { c with pending := some r }) fun _ => rfl
  unfold handle
  rw [h.client]
  cases w.client? conn with
  | none => exact h
  | some c =>
    dsimp only
    split
    -- The verdict is one of the session, which is the same in both worlds.
    · rcases decide c.session with ⟨verdict, id⟩
      cases verdict with
      | pong => exact hpending _ h
      | reject r => exact hpending _ h
      | start stream interval => exact hpending _ h
      | stop stream name =>
        dsimp only [carryOut]
        cases c.session.find? stream with
        | none => exact hpending _ h
        | some sub => exact hpending _ (h.stop_both sub)
    · exact h

/-- A stream that is started. The limits are taken from what the session may use, so that has to be
the same as well. -/
theorem start_both (services : w'.services = w.services) (session : Session) (stream : Stream)
    (interval : Option Int64) (now : Nat) :
    SameAt conn (w.start conn session stream interval now)
      (w'.start conn session stream interval now) := by
  have hstart := h.modify_both (fun c => { c with
    session := c.session.insert stream
    tasks := c.tasks ++
      ((TaskBody.ofStream w.services.limits stream interval now).map fun body =>
        { subscription := ⟨stream, session.nextGeneration⟩, body : StreamTask }).toList })
    fun _ => rfl
  unfold World.start
  rw [services]
  split
  · exact hstart.hub_both _ _
  · exact hstart

/-- A reply that is sent, and what is started with it. Whether it can be sent is asked of the queue
and of the `sessionToken`. -/
theorem reply_both (services : w'.services = w.services) (now : Nat) :
    SameAt conn (w.reply conn now) (w'.reply conn now) := by
  unfold reply
  -- The queue is that of the client, and whether to wait for it is asked of the token of the
  -- session.
  rw [h.client, h.token _ (Token.isWithin_self _)]
  cases w.client? conn with
  | none => exact h
  | some c =>
    dsimp only
    cases c.pending with
    | none => exact h
    | some r =>
      dsimp only
      split
      · exact h
      · next outbox sending _ _ =>
        have hsent := h.modify_both (fun c => { c with outbox := outbox, pending := none })
          fun _ => rfl
        cases r.start with
        | none => exact hsent
        | some start => exact hsent.start_both services _ _ _ now

/-- A stream that is retired, if its end waits: both worlds have the same `ended`. -/
theorem retire_both (ended : Subscription) :
    SameAt conn (w.retire conn ended) (w'.retire conn ended) := by
  unfold retire
  rw [h.client]
  cases w.client? conn with
  | none => exact h
  | some c =>
    dsimp only
    split
    · exact h.modify_both (fun c =>
        { c with session := c.session.retire ended, ended := c.ended.erase ended }) fun _ => rfl
    · exact h

/-- A session that is closed, if it is idle in both worlds or in neither. -/
theorem close_both : SameAt conn (w.close conn) (w'.close conn) := by
  -- To close is to cancel, to mark the client, and to tell the hub, each of which is done in both.
  have hclosed := (h.cancel_both (sessionToken conn)).modify_both
    (fun c => { c with closed := true }) fun _ => rfl
  unfold World.close
  rw [h.client]
  cases w.client? conn with
  | none => exact h
  | some c =>
    dsimp only
    split
    · split
      · exact hclosed.hub_both _ _
      · exact hclosed
    · exact h

/-! The tasks. -/

theorem finish_both (t : StreamTask) : SameAt conn (w.finish conn t) (w'.finish conn t) :=
  (h.cancel_both (readerToken conn t.subscription.generation)).modify_both _ fun _ => rfl

theorem breakDown_both (t : StreamTask) :
    SameAt conn (w.breakDown conn t) (w'.breakDown conn t) :=
  (h.cancel_both (readerToken conn t.subscription.generation)).modify_both _ fun _ => rfl

theorem updateBody_both (generation : Nat) (f : TaskBody → TaskBody) :
    SameAt conn (w.updateBody conn generation f) (w'.updateBody conn generation f) :=
  h.modify_both _ fun _ => rfl

theorem updateOutbox_both (f : Outbox → Outbox) :
    SameAt conn (w.updateOutbox conn f) (w'.updateOutbox conn f) :=
  h.modify_both _ fun _ => rfl

theorem endTask_both (generation : Nat) :
    SameAt conn (w.endTask conn generation) (w'.endTask conn generation) := by
  unfold endTask
  rw [h.client]
  cases (w.client? conn).bind (·.task? generation) with
  | none => exact h
  | some t =>
    dsimp only
    split
    · exact h
    · exact h.finish_both t

/-- A task whose turn it is. What it does depends on its token, its body and the room in the queue,
which are the same in both worlds. -/
theorem proceed_both (generation now : Nat) :
    SameAt conn (w.proceed conn generation now) (w'.proceed conn generation now) := by
  unfold proceed
  -- The clock comes with the action, so that it is the same in both worlds as well.
  rw [h.client, h.isCancelled_subscription]
  split
  · exact h
  · next c t _ =>
    split
    · exact h
    · split
      · exact h.finish_both t
      · split
        · exact h.finish_both t
        · exact h.breakDown_both t
        · exact h.updateBody_both generation _
        · split
          · exact h
          · next outbox _ _ _ =>
            have hqueued := h.modify_both (fun c => { c with outbox := outbox }) fun _ => rfl
            exact hqueued.updateBody_both generation _
        · exact h

/-- A task that is told a `Notice`, unless it is cancelled. -/
theorem tell_both (generation : Nat) (notice : Notice) :
    SameAt conn (w.tell conn generation notice) (w'.tell conn generation notice) := by
  unfold tell
  rw [h.client, h.isCancelled_subscription]
  split
  · exact h
  · split
    · exact h
    · exact h.updateBody_both generation _

/-- A reader that goes on: it takes what there is, or stops as its token is cancelled. -/
theorem read_both (generation : Nat) :
    SameAt conn (w.read conn generation) (w'.read conn generation) := by
  unfold World.read
  rw [h.isCancelled_reader]
  split <;> exact h.updateBody_both generation _

/-- A reader that gets a `Portion`, unless its token is cancelled. -/
theorem supply_both (generation : Nat) (portion : Portion) :
    SameAt conn (w.supply conn generation portion) (w'.supply conn generation portion) := by
  unfold supply
  rw [h.isCancelled_reader]
  split
  · exact h
  · exact h.updateBody_both generation _

/-! The socket. -/

theorem connect_both (capacity : Nat) :
    SameAt conn (w.connect conn capacity) (w'.connect conn capacity) := by
  refine ⟨?_, fun t ht => ?_, ?_⟩
  · cases found : w.client? conn with
    | none => rw [client?_connect capacity found, client?_connect capacity (h.client.trans found)]
    | some c =>
      have found' := h.client.trans found
      rw [World.connect, World.connect, found, found']
      exact h.client
  · rw [isCancelled_connect, isCancelled_connect, h.token t ht]
  · rw [isCancelled_connect, isCancelled_connect, h.root]

/-- A frame, which is decided on by what the session may use: `services` has to be the same. -/
theorem handleFrame_both (services : w'.services = w.services) (frame : List UInt8) :
    SameAt conn (w.handle conn (·.decideFrame w.services frame))
      (w'.handle conn (·.decideFrame w'.services frame)) := by
  rw [services]
  exact h.handle_both _

/-- What a session takes on next. Whether the agent has shut down is asked of the root, which is why
`SameAt` speaks of it. -/
theorem choose_both (services : w'.services = w.services) :
    SameAt conn (w.choose conn) (w'.choose conn) := by
  -- What the session takes is the same in both worlds, since inbox and ends are.
  have hrest := h.modify_both (fun c => { c with inbox := c.inbox.tail }) fun _ => rfl
  unfold choose
  rw [h.client, isShutDown, isShutDown, h.root]
  cases w.client? conn with
  | none => exact h
  | some c =>
    dsimp only
    split
    · split
      · exact h.close_both
      · exact h.retire_both _
      · exact hrest.handleFrame_both services _
      · exact hrest
      · exact h
    · exact h

/-- **A step of the connection is the same in both worlds.** One case for each action of the
connection; events and the shutdown are about none and are left to `Alike.pass`. -/
theorem step_both (services : w'.services = w.services) (a : Action) (about : a.conn? = some conn) :
    SameAt conn (w.step a) (w'.step a) := by
  -- By the action; an inbox and a queue are the client's own, so there is nothing to compare.
  cases a <;> cases about
  case connect capacity => exact h.connect_both capacity
  case frame bytes => exact h.handleFrame_both services bytes
  case dispatch message =>
    rw [step, step, services]
    exact h.handle_both _
  case reply now => exact h.reply_both services now
  case retire ended => exact h.retire_both ended
  case close => exact h.close_both
  case proceed generation now => exact h.proceed_both generation now
  case tell generation notice => exact h.tell_both generation notice
  case read generation => exact h.read_both generation
  case supply generation portion => exact h.supply_both generation portion
  case arrive message =>
    exact h.modify_both (fun c => { c with inbox := c.inbox ++ [message] }) fun _ => rfl
  case choose => exact h.choose_both services
  case take => exact h.updateOutbox_both fun o => o.receive.1
  case leave => exact h.updateOutbox_both Outbox.drop

end Two

end SameAt

/-! ### Looking alike -/

/-- What every world has that the agent comes to. `agrees` is the one that is used: what the hub
knows of a connection follows from its client. -/
structure Reached (w : World) : Prop where
  sound : w.Sound True
  agrees : w.Agrees

/-- The agent starts in a world that is `Reached`: without clients there is nothing to be sound or
agreed about. -/
theorem Reached.services (services : Services) : ({ services := services } : World).Reached :=
  ⟨.services services, .services services⟩

/-- The agent comes to no other worlds: a moment keeps `World.Sound` and `World.Agrees`. -/
theorem Reached.pass {w : World} (h : w.Reached) (m : Moment) : (w.pass m).Reached where
  sound := (pass_changes w m).sound h.sound
  agrees := (pass_changes w m).agrees h.sound h.agrees

/-- **Two worlds look alike to a connection.** `SameAt` is about the client and its tokens; what its
session may use, and what the hub knows of it, are all else that it can notice. -/
structure Alike (conn : ConnId) (w w' : World) : Prop extends SameAt conn w w' where
  services : w'.services = w.services
  registrations : w'.hub.of conn = w.hub.of conn

/-- Where the hub and the sessions agree, it is enough to look at the client: in both worlds its
registrations are those of its session (`World.Agrees`). -/
theorem SameAt.alike {conn : ConnId} {w w' : World} (h : SameAt conn w w')
    (services : w'.services = w.services) (hagrees : w.Agrees) (hagrees' : w'.Agrees) :
    Alike conn w w' where
  toSameAt := h
  services := services
  registrations := by rw [hagrees, hagrees', h.client]

/-- The connection that a moment is about. Events are published and offered by the hub, to whomever,
so they are about none and are kept when another connection is taken out of a history. -/
def Moment.conn? : Moment → Option ConnId
  | .happens (.act a) => a.conn?
  | .happens (.ends conn _) => some conn
  | .offers _ _ => none

/-- **A moment of another connection is not seen,** by `ChangesAt.sameAt`: whatever happens in it is
a sequence of changes at that connection. -/
theorem pass_sameAt (w : World) {m : Moment} {conn other : ConnId} (about : m.conn? = some other)
    (ne : conn ≠ other) : SameAt conn w (w.pass m) := by
  cases m with
  | offers r event => cases about
  | happens h =>
    cases h with
    | act a => exact (step_changesAt w a about fun _ => trivial).sameAt ne
    | ends _ generation =>
      cases about
      have hchanges : ChangesAt True other w (w.endTask other generation) :=
        endTask_changes w other generation
      exact hchanges.sameAt ne

theorem services_pass (w : World) (m : Moment) : (w.pass m).services = w.services :=
  (pass_changes w m).services

namespace Alike

variable {conn : ConnId} {w w' : World} (h : Alike conn w w') (hagrees : w.Agrees)
include h hagrees

/-- A registration of the connection can be offered an event in the one world as well as in the
other: its token is below that of the session, of which `SameAt` speaks. -/
theorem live_iff {r : Registration} (hr : r ∈ w.hub.of conn) :
    w'.isCancelled r.token = w.isCancelled r.token :=
  h.token _ (hagrees.token_isWithin hr)

/-- An event that is published to everyone, in one go. As the live registrations of the connection
are the same, so is the number of offers to it. -/
theorem publish_both (hagrees' : w'.Agrees) (event : DaemonEvent) :
    SameAt conn (w.publish event) (w'.publish event) := by
  have hrecipients : conn ∈ w'.hub.recipients w'.cancelled ↔
      conn ∈ w.hub.recipients w.cancelled := by
    rw [mem_recipients, mem_recipients, h.registrations]
    refine exists_congr fun token => and_congr_right fun hr => ?_
    rw [h.live_iff hagrees hr]
  refine ⟨?_, fun t ht => ?_, ?_⟩
  · rw [publish, publish]
    split
    · next message _ =>
      -- The connection is offered the event once or never, in each of the worlds; how many others
      -- there are does not matter.
      have honce := Nat.le_trans (w.hub.count_recipients_le w.cancelled) (hagrees.once conn)
      have honce' := Nat.le_trans (w'.hub.count_recipients_le w'.cancelled)
        (hagrees'.once conn)
      rw [broadcast, broadcast, client?_offers message honce, client?_offers message honce',
        h.client]
      simp only [hrecipients]
    · exact h.client
  · rw [isCancelled_publish, isCancelled_publish, h.token t ht]
  · rw [isCancelled_publish, isCancelled_publish, h.root]

/-- An event that is offered to one registration, in the middle of a broadcast. The registration may
be of the connection or of another one. -/
theorem offer_both (r : Registration) (event : DaemonEvent) :
    SameAt conn (w.offer r event) (w'.offer r event) := by
  by_cases heq : r.conn = conn
  · -- the registration is there in both worlds or in neither
    have hmem : ∀ v : World, r ∈ v.hub.registrations ↔ r ∈ v.hub.of conn := fun v => by
      rw [Hub.of, List.mem_filter, decide_eq_true heq, and_iff_left rfl]
    have hoffered : (r ∈ w'.hub.registrations ∧ w'.isCancelled r.token = false) ↔
        r ∈ w.hub.registrations ∧ w.isCancelled r.token = false := by
      rw [hmem, hmem, h.registrations]
      refine and_congr_right fun hr => ?_
      rw [h.live_iff hagrees hr]
    unfold offer
    simp only [hoffered]
    split
    · split
      · rw [heq]
        exact h.updateOutbox_both _
      · exact h.toSameAt
    · exact h.toSameAt
  -- An offer to another connection may happen in one world and not in the other, and is not seen.
  · have hother : ∀ v : World, SameAt conn v (v.offer r event) := fun v => by
      unfold offer
      split
      · split
        · exact .modify v _ (fun _ => rfl) (Ne.symm heq)
        · exact .refl conn v
      · exact .refl conn v
    exact ((hother w).symm.trans h.toSameAt).trans (hother w')

end Alike

/-- **Two worlds go on to look alike,** whatever happens in both. A moment of the connection itself
is `SameAt.step_both`, one of another is seen in neither world, and one of the hub is
`Alike.publish_both` or `Alike.offer_both`. -/
theorem Alike.pass {conn : ConnId} {w w' : World} (h : Alike conn w w') (hreached : w.Reached)
    (hreached' : w'.Reached) (m : Moment) : Alike conn (w.pass m) (w'.pass m) := by
  refine SameAt.alike ?_ ?_ (hreached.pass m).agrees (hreached'.pass m).agrees
  -- A moment is about this connection, about another, or about none.
  · cases about : m.conn? with
    | some other =>
      by_cases heq : conn = other
      · subst heq
        cases m with
        | offers r event => cases about
        | happens event =>
          cases event with
          | act a => exact h.step_both h.services a about
          | ends _ generation =>
            cases about
            exact h.endTask_both generation
      · exact ((pass_sameAt w about heq).symm.trans h.toSameAt).trans (pass_sameAt w' about heq)
    | none =>
      cases m with
      | offers r event => exact h.offer_both hreached.agrees r event
      | happens event =>
        cases event with
        | act a =>
          cases a with
          | publish event => exact h.publish_both hreached.agrees hreached'.agrees event
          | shutdown => exact h.cancel_both .root
          | _ => cases about
        | ends => cases about
  · rw [services_pass, services_pass, h.services]

end World

/-! ### Journals -/

namespace Journal

open World

variable {conn : ConnId} {j j' : Journal} {m : Moment}

/-- **What another connection does is not written down.** By `SameAt` the client is the same before
and after, so nothing is new in its queue and no reply was lost. -/
theorem note_of_sameAt (hfits : j.Fits conn) (h : SameAt conn j.world (j.world.pass m)) :
    j.note conn m = { j with world := j.world.pass m } := by
  rw [note, h.client]
  cases found : j.world.client? conn with
  | none => rfl
  | some c =>
    have hclient := hfits.client
    rw [found, Option.elim_some] at hclient
    have hnew : c.outbox.queue.drop c.outbox.queue.length = [] := List.drop_length
    -- What is awaited stays so, and the reason for it.
    have hending : (if c.pending.isSome then (c.lost? c).or j.ending else none) = j.ending := by
      rw [Client.lost?_eq_none rfl, Option.none_or]
      cases hpending : c.pending with
      | none => exact (hclient.idle hpending).symm
      | some r => rfl
    dsimp only
    rw [hnew, hending, List.map_nil, List.append_nil]

/-- **Two journals are alike** if their worlds look alike and the same was written down. `ending` is
the reason that the next reply will be noted with, and so has to be the same as well. -/
structure Alike (conn : ConnId) (j j' : Journal) : Prop where
  world : World.Alike conn j.world j'.world
  entries : j'.entries = j.entries
  ending : j'.ending = j.ending

/-- A message is pushed under the same token: which token that is, is looked up among the
registrations. -/
theorem source?_congr {w w' : World} (h : World.Alike conn w w') (m : Moment) :
    w'.source? conn m = w.source? conn m := by
  unfold source?
  rw [h.registrations]

/-- **Two journals go on alike.** What `Journal.note` writes down is read off the client before and
after the moment, and both are the same in both worlds. -/
theorem Alike.note (h : Alike conn j j') (hfits : j.Fits conn) (hfits' : j'.Fits conn)
    (m : Moment) : Alike conn (j.note conn m) (j'.note conn m) := by
  have hworld : World.Alike conn (j.world.pass m) (j'.world.pass m) :=
    h.world.pass ⟨hfits.sound, hfits.agrees⟩ ⟨hfits'.sound, hfits'.agrees⟩ m
  refine ⟨?_, ?_, ?_⟩
  · rw [world_note, world_note]
    exact hworld
  all_goals
    unfold Journal.note
    dsimp only
    rw [h.world.client, hworld.client, source?_congr h.world, h.entries, h.ending]
    split <;> rfl

/-- What is left of a history without another connection is written down alike. The induction is on
the moments: one of the other connection happens to `j` only and is not seen (`pass_sameAt`), any
other happens to both (`Alike.note`). -/
theorem alike_filter {other : ConnId} (ne : conn ≠ other) {moments : List Moment}
    (h : Alike conn j j') (hfits : j.Fits conn) (hfits' : j'.Fits conn) :
    Alike conn (moments.foldl (note conn) j)
      ((moments.filter fun m => m.conn? ≠ some other).foldl (note conn) j') := by
  induction moments generalizing j j' with
  | nil => exact h
  | cons m rest ih =>
    rw [List.foldl_cons]
    by_cases about : m.conn? = some other
    · -- the moment happens on one side only
      rw [List.filter_cons_of_neg (by simpa using about)]
      have hsame := pass_sameAt j.world about ne
      have hnote := note_of_sameAt hfits hsame
      have hreached := hfits.note m
      rw [hnote] at hreached ⊢
      have hservices : j'.world.services = (j.world.pass m).services := by
        rw [services_pass, h.world.services]
      have hworld := (hsame.symm.trans h.world.toSameAt).alike hservices hreached.agrees
        hfits'.agrees
      exact ih ⟨hworld, h.entries, h.ending⟩ hreached hfits'
    · rw [List.filter_cons_of_pos (by simpa using about), List.foldl_cons]
      exact ih (h.note hfits hfits' m) (hfits.note m) (hfits'.note m)

end Journal

namespace World

/-- **A connection is not disturbed by another one.** Take everything that `other` ever did out of a
history, its end included, and keep the rest with the events that are published: the client is the
same with its subscriptions, its tasks and its queue, the hub holds the same registrations of it,
and the same messages were queued for it, for the same reasons and in the same order. By
`Journal.alike_filter`, from the start of the agent on. -/
theorem alike_without (services : Services) {conn other : ConnId} (ne : conn ≠ other)
    (moments : List Moment) :
    let rest := moments.filter fun m => m.conn? ≠ some other
    Alike conn (moments.foldl pass { services := services })
        (rest.foldl pass { services := services }) ∧
      (Journal.of services conn rest).entries = (Journal.of services conn moments).entries := by
  intro rest
  -- The two journals begin alike, and what is about the other connection is noted in neither.
  have hstart : Journal.Fits conn { world := { services := services } } :=
    Journal.fits_of services conn []
  have halike : Journal.Alike conn (Journal.of services conn moments)
      (Journal.of services conn rest) :=
    Journal.alike_filter ne ⟨⟨.refl conn _, rfl, rfl⟩, rfl, rfl⟩ hstart hstart
  have hworld := halike.world
  rw [Journal.of, Journal.of, Journal.world_foldl, Journal.world_foldl] at hworld
  exact ⟨hworld, halike.entries⟩

/-- Two clients hear of containers; the queue of the second one holds one message, and is full when
the second event comes. Then the second client gives its subscription up and is closed. -/
def neighbours : List Moment :=
  let act := fun a => Moment.happens (.act a)
  let say := fun conn type =>
    [act (.dispatch conn (.of type Stream.events.ack.toJson)), act (.reply conn 0)]
  let event := act (.publish { kind := "container", action := "start" })
  [act (.connect 1 1)] ++ say 1 .subscribe ++ [act (.connect 0 8)] ++ say 0 .subscribe ++
    [act (.take 1), event, event] ++ say 1 .unsubscribe ++
    [event, act (.leave 1), act (.close 1)] ++ say 0 .unsubscribe

/-- The first client does not notice its neighbour, which subscribes, is told of an event and
leaves. -/
theorem alike_without_neighbour :
    (0 : ConnId) ≠ 1 ∧
    (Journal.of {} 0 neighbours).entries.map (·.cause) =
      [.granted 0, .pushed (subscriptionToken 0 0), .pushed (subscriptionToken 0 0),
        .pushed (subscriptionToken 0 0), .ended 0] ∧
    Alike 0 (neighbours.foldl pass { services := {} })
      ((neighbours.filter fun m => m.conn? ≠ some 1).foldl pass { services := {} }) ∧
    (Journal.of {} 0 (neighbours.filter fun m => m.conn? ≠ some 1)).entries =
      (Journal.of {} 0 neighbours).entries := by
  have hne : (0 : ConnId) ≠ 1 := by decide
  exact ⟨hne, by decide, alike_without {} hne neighbours⟩

end World

end Lookout
