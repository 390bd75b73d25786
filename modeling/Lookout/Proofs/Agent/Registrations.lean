import Lookout.Proofs.Agent.Sound

/-!
# The hub and the sessions agree

That a connection wants to hear of containers is kept twice: its session holds a subscription to
events, and the hub holds a registration. The two are made together and go together, by the end of
the subscription and by that of the session. No task is started for events, so none ends, and no
session retires such a subscription without the hub hearing of it.

* `Hub.of` — the registrations of a connection, and `Client.registrations` — those that it should
  have;
* `World.Agrees` — they are the same;
* `World.registered_history` — the hub and the open sessions agree on every history.
-/

namespace Lookout

namespace Hub

variable (h : Hub) (conn : ConnId) (token : Token)

/-- The registrations of a connection, the oldest first. -/
def of : List Registration := h.registrations.filter fun r => r.conn = conn

/-- Who registers is registered behind all registrations it had: `subscribe` appends. -/
@[simp] theorem of_subscribe_self :
    (h.subscribe conn token).of conn = h.of conn ++ [⟨conn, token⟩] := by
  simp [of, subscribe]

/-- Who is withdrawn is registered no more, however often it was: `unsubscribe` goes by the
connection. -/
@[simp] theorem of_unsubscribe_self : (h.unsubscribe conn).of conn = [] := by
  simp [of, unsubscribe]

variable {conn} {other : ConnId}

/-- Who registers does so for itself, and adds nothing to what `of` lists for others. -/
theorem of_subscribe_of_ne (ne : other ≠ conn) :
    (h.subscribe conn token).of other = h.of other := by
  simp [of, subscribe, ne.symm]

theorem of_unsubscribe_of_ne (ne : other ≠ conn) : (h.unsubscribe conn).of other = h.of other := by
  rw [of, unsubscribe, List.filter_filter]
  apply List.filter_congr
  intro r _
  by_cases heq : r.conn = other
  · simp [heq, ne]
  · simp [heq]

/-- A connection is offered an event no more often than it is registered. It is less often if some
of its registrations are under tokens that are cancelled. -/
theorem count_recipients_le (cancelled : Cancellations) :
    (h.recipients cancelled).count conn ≤ (h.of conn).length := by
  rw [recipients, of, List.count_eq_countP, List.countP_map, ← List.countP_eq_length_filter]
  calc _ ≤ h.registrations.countP ((· == conn) ∘ Registration.conn) :=
        List.filter_sublist.countP_le
    _ ≤ h.registrations.countP fun r => decide (r.conn = conn) :=
        List.countP_mono_left fun r _ heq => by simpa using heq

end Hub

namespace Client

/-- The registrations that the connection of a client should have: one under the token of its
subscription to events, if it has one and is open. `find?` is asked, so one subscription is enough
to know them. -/
def registrations (c : Client) : List Registration :=
  if c.closed then []
  else (c.session.find? .events).toList.map fun sub =>
    ⟨c.id, subscriptionToken c.id sub.generation⟩

/-- `registrations` depends on the number of the client, on whether it is closed and on its
subscription to events, and on nothing else that a change may touch. -/
theorem registrations_congr {c c' : Client} (id : c'.id = c.id) (closed : c'.closed = c.closed)
    (session : c'.session.find? .events = c.session.find? .events) :
    c'.registrations = c.registrations := by
  rw [registrations, id, closed, session, registrations]

theorem registrations_eq_nil {c : Client} (h : c.session.find? .events = none) :
    c.registrations = [] := by
  rw [registrations, h]
  split <;> rfl

/-- A connection should have one registration at most, as it has one subscription to events at
most. -/
theorem length_registrations_le (c : Client) : c.registrations.length ≤ 1 := by
  rw [registrations]
  split
  · exact Nat.zero_le _
  · rw [List.length_map]
    cases c.session.find? .events <;> simp

end Client

namespace World

/-- **The hub and the sessions agree** on who wants to hear of containers, and under which token.
Who has no client should not be registered. Order matters only within a connection, and there is one
at most. -/
def Agrees (w : World) : Prop :=
  ∀ conn, w.hub.of conn = (w.client? conn).elim [] Client.registrations

/-- At the start there is nobody on either side: no client, and no registration in the hub. -/
theorem Agrees.services (services : Services) : ({ services := services } : World).Agrees :=
  fun _ => rfl

/-- What the hub holds of a client that is there is what the client should have,
`Client.registrations`. -/
theorem Agrees.of_client {w : World} (h : w.Agrees) {c : Client}
    (found : w.client? c.id = some c) : w.hub.of c.id = c.registrations := by
  rw [h, found, Option.elim_some]

/-- No connection is registered twice, be its client there or not: what is not there has no
registration at all. -/
theorem Agrees.once {w : World} (h : w.Agrees) (conn : ConnId) : (w.hub.of conn).length ≤ 1 := by
  rw [h]
  cases w.client? conn with
  | none => exact Nat.zero_le 1
  | some c => exact c.length_registrations_le

/-- The registrations of a connection are under tokens of its session, so they are cancelled with it
when its `sessionToken` is. -/
theorem Agrees.token_isWithin {w : World} (h : w.Agrees) {conn : ConnId} {r : Registration}
    (hr : r ∈ w.hub.of conn) : r.token.isWithin (sessionToken conn) = true := by
  rw [h] at hr
  cases found : w.client? conn with
  | none =>
    rw [found] at hr
    cases hr
  | some c =>
    obtain rfl := id_of_client? found
    rw [found, Option.elim_some, Client.registrations] at hr
    -- A closed session has no registrations, and those of an open one are its subscriptions.
    split at hr
    · cases hr
    · obtain ⟨sub, -, rfl⟩ := List.mem_map.mp hr
      exact subscription_isWithin_session c.id sub.generation

/-- A change at one connection leaves the registrations of all others alone. Only three kinds of
changes touch the hub, and each of them registers or withdraws the connection itself. -/
theorem ChangeAt.hub_of_ne {broken : Prop} {w w' : World} {conn other : ConnId}
    (h : ChangeAt broken w other w') (ne : conn ≠ other) : w'.hub.of conn = w.hub.of conn := by
  -- Only to stop, to start and to close may touch the hub, and each touches what is of its own
  -- connection.
  cases h with
  | connect capacity absent => rw [World.connect, absent]
  | adjust f same => rfl
  | decide r => rfl
  | stop r =>
    rw [hub_modify, hub_stop]
    split
    · exact w.hub.of_unsubscribe_of_ne ne
    · rfl
  | answer outbox => rfl
  | start outbox now =>
    rw [hub_start, hub_modify]
    split
    · exact w.hub.of_subscribe_of_ne _ ne
    · rfl
  | retire found idle waiting => rw [retire_eq found idle waiting, hub_modify]
  | close found idle =>
    rw [hub_close found idle]
    split
    · exact w.hub.of_unsubscribe_of_ne ne
    · rfl
  | finish => rfl
  | breakDown => rfl

/-- Several changes at one connection leave the registrations of others alone, by
`ChangeAt.hub_of_ne` for each. -/
theorem ChangesAt.hub_of_ne {broken : Prop} {w w' : World} {conn other : ConnId}
    (h : ChangesAt broken other w w') (ne : conn ≠ other) : w'.hub.of conn = w.hub.of conn := by
  induction h with
  | refl => rfl
  | tail _ last ih => exact (last.hub_of_ne ne).trans ih

/-- A change leaves a connection with the registrations that its client should have. `hbooks` is
needed where a stream starts, which must not be subscribed to yet, and where an end is retired,
which must not be that of events. -/
theorem ChangeAt.hub_of {broken : Prop} {w w' : World} {conn : ConnId} {c : Client}
    (h : ChangeAt broken w conn w') (found : w.client? conn = some c) (hbooks : c.Books)
    (hagrees : w.hub.of conn = c.registrations) :
    ∃ c', w'.client? conn = some c' ∧ w'.hub.of conn = c'.registrations := by
  obtain rfl := id_of_client? found
  cases h with
  | connect capacity absent =>
    rw [absent] at found
    cases found
  | adjust f same =>
    refine ⟨f c, client?_modify f (fun c => (same c).id) found, ?_⟩
    rw [hub_modify, hagrees, Client.registrations_congr (same c).id (same c).closed]
    rw [(same c).session]
  | decide r => exact ⟨_, client?_modify _ (fun _ => rfl) found, hagrees⟩
  | @stop _ sub r found' idle held =>
    obtain rfl := Option.some.inj (found.symm.trans found')
    refine ⟨_, client?_modify _ (fun _ => rfl) (client?_stop sub found), ?_⟩
    rw [hub_modify, hub_stop]
    by_cases hevents : sub.stream = .events
    · -- the registration goes with the subscription
      rw [if_pos hevents, Hub.of_unsubscribe_self, Client.registrations_eq_nil]
      exact hevents ▸ Session.find?_erase_self
    · rw [if_neg hevents, hagrees]
      symm
      exact Client.registrations_congr rfl rfl (Session.find?_erase (Ne.symm hevents))
  | answer outbox => exact ⟨_, client?_modify _ (fun _ => rfl) found, hagrees⟩
  | @start _ r stream interval outbox now found' pending something =>
    obtain rfl := Option.some.inj (found.symm.trans found')
    refine ⟨_, client?_start (client?_modify _ (fun _ => rfl) found), ?_⟩
    have habsent := hbooks.absent r stream interval pending something
    have hopen : c.closed = false := by
      -- A session that is closed has nothing left to send.
      rw [Bool.eq_false_iff]
      intro hclosed
      rw [hbooks.closed hclosed] at pending
      cases pending
    rw [hub_start, hub_modify]
    by_cases hevents : stream = .events
    · subst hevents
      have hnone : c.session.find? .events = none := by
        simpa [Session.has] using habsent
      rw [if_pos rfl, Hub.of_subscribe_self, hagrees, Client.registrations_eq_nil hnone]
      simp [Client.registrations, hopen, Session.find?_insert habsent]
    · rw [if_neg hevents, hagrees]
      symm
      refine Client.registrations_congr rfl rfl ?_
      rw [Session.find?_insert habsent, if_neg hevents]
  | @retire _ ended found' idle waiting =>
    obtain rfl := Option.some.inj (found.symm.trans found')
    rw [retire_eq found idle waiting]
    refine ⟨_, client?_modify _ (fun _ => rfl) found, ?_⟩
    rw [hub_modify, hagrees]
    -- What has ended was fed by a task, which events are not.
    have hne := hbooks.owner_stream ended (List.mem_append_right _ waiting)
    symm
    exact Client.registrations_congr rfl rfl (Session.find?_retire hne)
  | close found' idle =>
    obtain rfl := Option.some.inj (found.symm.trans found')
    refine ⟨_, client?_close found idle, ?_⟩
    rw [hub_close found idle, show ({ c with closed := true } : Client).registrations = [] from rfl]
    cases hhas : c.session.has .events with
    | true => rw [if_pos rfl, Hub.of_unsubscribe_self]
    | false =>
      rw [if_neg Bool.false_ne_true, hagrees, Client.registrations_eq_nil]
      simpa [Session.has] using hhas
  | @finish _ t => exact ⟨_, client?_finish t found, hagrees⟩
  | @breakDown _ t => exact ⟨_, client?_breakDown t found, hagrees⟩

/-- **Every change keeps the hub and the sessions agreed.** `World.Agrees` asks only that the books
of the clients are in order, whatever was cancelled: a registration stays under a token that is
cancelled, until it is withdrawn. -/
theorem Change.agrees {broken : Prop} {w w' : World} (h : Change broken w w')
    (hbooks : ∀ {conn c}, w.client? conn = some c → c.Books) (hagrees : w.Agrees) : w'.Agrees := by
  cases h with
  | «at» conn h =>
    intro other
    by_cases heq : other = conn
    · subst heq
      cases found : w.client? other with
      | none =>
        have hnone : w.hub.of other = [] := by rw [hagrees, found, Option.elim_none]
        -- The connection was unknown to the hub, and still is.
        rcases h.connected found with ⟨capacity, rfl⟩ | ⟨absent', -, hhub⟩
        · -- a new client is subscribed to nothing
          rw [client?_connect capacity found, World.connect, found]
          exact hnone
        · rw [hhub, absent', Option.elim_none]
          exact hnone
      | some c =>
        have hof : w.hub.of other = c.registrations := by rw [hagrees, found, Option.elim_some]
        obtain ⟨c', found', hof'⟩ := h.hub_of found (hbooks found) hof
        rw [hof', found', Option.elim_some]
    · rw [h.hub_of_ne heq, hagrees, (h.sameAt heq).client]
  | shutdown => exact hagrees

/-- Several changes keep the hub and the sessions agreed. The `hbooks` are those of the clients
before the first of them, as `Change.books` carries them on. -/
theorem Changes.agrees_of_books {broken : Prop} {w w' : World} (h : Changes broken w w')
    (hbooks : ∀ {conn c}, w.client? conn = some c → c.Books) (hagrees : w.Agrees) : w'.Agrees := by
  induction h with
  | refl => exact hagrees
  | tail before last ih =>
    exact last.agrees (Changes.clients before (Client.lasting_books w.services broken) hbooks) ih

/-- The hub and the sessions keep agreeing wherever the world is `Sound`, which includes that the
books are in order. -/
theorem Changes.agrees {broken : Prop} {w w' : World} (h : Changes broken w w')
    (hsound : w.Sound broken) (hagrees : w.Agrees) : w'.Agrees :=
  h.agrees_of_books (fun found => (hsound.client found).books) hagrees

/-- **The registration of an open session.** There is one if it is subscribed to events, under the
token of that subscription, and none if it is not. `once` says how many, `token` which one. -/
structure Registered (w : World) (c : Client) : Prop where
  once : (w.hub.of c.id).length = 1 ↔ c.session.has .events = true
  none : c.session.has .events = false → w.hub.of c.id = []
  token : ∀ sub ∈ c.session.subscriptions, sub.stream = .events →
    w.hub.of c.id = [⟨c.id, subscriptionToken c.id sub.generation⟩]
  /-- The end of no task is that of a subscription to events. -/
  ended : ∀ sub ∈ c.ended, sub.stream ≠ .events
  /-- An event that is published is offered to the connection once, or not at all. -/
  offered : (w.hub.recipients w.cancelled).count c.id ≤ 1

/-- **The hub and the open sessions agree,** whatever happened to the agent before and to how many
connections. All fields but `ended` are `World.Agrees` for a client that is open. -/
theorem registered_history (services : Services) (events : List Happening) {conn : ConnId}
    {c : Client}
    (found : (({ services := services } : World).history events).client? conn = some c)
    (opened : c.closed = false) :
    (({ services := services } : World).history events).Registered c := by
  obtain rfl := id_of_client? found
  have hchanges := history_changes { services := services } events
  have hbooks := ((hchanges.sound (.services services)).client found).books
  have hagrees := hchanges.agrees (.services services) (.services services)
  have hlength := hagrees.once c.id
  have hof := hagrees.of_client found
  rw [Client.registrations, opened, if_neg Bool.false_ne_true] at hof
  -- In the order of the fields: the number of registrations, none without a subscription, the one
  -- of a subscription, no end that speaks of events, and one offer at most.
  refine ⟨?_, fun habsent => ?_, fun sub hsub hevents => ?_, fun sub hsub => ?_, ?_⟩
  · rw [hof, List.length_map, Session.has]
    cases c.session.find? .events <;> simp
  · have hnone : c.session.find? .events = none := by simpa [Session.has] using habsent
    rw [hof, hnone]
    rfl
  · -- the session holds one subscription to events at most, so it is the one that is found
    cases hfind : c.session.find? .events with
    | none =>
      have hhas : c.session.has .events = false := by rw [Session.has, hfind, Option.isSome_none]
      exact absurd hevents (Session.has_eq_false_iff.mp hhas sub hsub)
    | some other =>
      have heq : other = sub := by
        refine hbooks.eq_of_stream (Session.mem_of_find? hfind) hsub ?_
        rw [Session.stream_of_find? hfind, hevents]
      rw [hof, hfind, heq]
      rfl
  · exact hbooks.owner_stream sub (List.mem_append_right _ hsub)
  · exact Nat.le_trans (Hub.count_recipients_le _ _) hlength

/-- Two clients subscribe to events, and one of them gives them up and subscribes again. -/
def eventsTwice : List Happening :=
  let say := fun conn type => Happening.act (.dispatch conn (.of type Stream.events.ack.toJson))
  let reply := fun conn => Happening.act (.reply conn 0)
  [.act (.connect 0 8), .act (.connect 1 8), say 0 .subscribe, reply 0, say 1 .subscribe, reply 1,
    say 0 .unsubscribe, reply 0, say 0 .subscribe, reply 0]

/-- The first client is registered under its second subscription, behind the second client, whose
registration was made in between. -/
theorem registered_eventsTwice : ∃ c,
    (({ services := {} } : World).history eventsTwice).client? 0 = some c ∧
    c.session.subscriptions = [⟨.events, 1⟩] ∧
    (({ services := {} } : World).history eventsTwice).hub.registrations =
      [⟨1, subscriptionToken 1 0⟩, ⟨0, subscriptionToken 0 1⟩] ∧
    (({ services := {} } : World).history eventsTwice).Registered c := by
  have hclient : ((({ services := {} } : World).history eventsTwice).client? 0).map
      (fun c => (c.session.subscriptions, c.closed)) = some ([⟨.events, 1⟩], false) := by decide
  obtain ⟨c, found, heq⟩ := Option.map_eq_some_iff.mp hclient
  obtain ⟨hsubscriptions, opened⟩ := by simpa only [Prod.mk.injEq] using heq
  exact ⟨c, found, hsubscriptions, by decide, registered_history {} eventsTwice found opened⟩

end World

end Lookout
