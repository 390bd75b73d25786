import Lookout.Proofs.Agent.Parts
import Lookout.Proofs.Agent.Session
import Mathlib.Logic.Relation

/-!
# What a step can change

`World.step` knows sixteen actions, and most of them only move messages and bytes about. What counts
for the subscriptions of a connection are the changes of `World.ChangeAt`, of which each says all
that it needs to happen and all that it does. A fact about subscriptions is proved once for each of
them: at the connection itself they are the changes of a client (`World.ChangeAt.client`), and at
another they are none (`World.ChangeAt.sameAt`).

* `Client.SameBooks` — two clients that differ only in messages and bytes;
* `Client.Change` — a change of a client, with the token that is cancelled in it;
* `World.ChangeAt` — a change at one connection, and `World.Change` — a change anywhere;
* `World.ChangesAt`, `World.Changes` — several of them, one after the other;
* `World.Changes.clients` — what every change keeps, all clients have.
-/

namespace Lookout

/-! ### Changes of a client -/

namespace Client

/-- Two clients that differ only in messages and bytes: in their queues, their inboxes and what
their tasks are at. A task of which nothing is left may be dropped, so `tasks` is a sublist while
`running` is an equation: what is dropped did not run any more. -/
structure SameBooks (c c' : Client) : Prop where
  id : c'.id = c.id
  session : c'.session = c.session
  tasks : (c'.tasks.map (·.subscription)).Sublist (c.tasks.map (·.subscription))
  running : c'.running = c.running
  ended : c'.ended = c.ended
  pending : c'.pending = c.pending
  closed : c'.closed = c.closed

/-- **A change of a client,** with the token that is cancelled in it. `services` is what a stream
may be started with, and `broken` says whether tasks may break down. Every constructor lists all
that it needs to happen: what the session was at, what it holds, and for `decide` that the stream is
one it admits. Invariants are proved by cases on it and unfold no step of the agent. -/
inductive Change (services : Services) (broken : Prop) (c : Client) :
    Option Token → Client → Prop where
  /-- Messages or bytes move. -/
  | adjust {c' : Client} (same : c.SameBooks c') : Change services broken c none c'
  /-- The session has decided on its reply, and on the stream that it starts after it. -/
  | decide (r : PendingReply) (idle : c.isIdle) (admitted : ∀ stream interval,
      r.start = some (stream, interval) → c.session.Admits services stream) :
    Change services broken c none { c with pending := some r }
  /-- The session has ended a subscription, and decided on its reply. -/
  | stop {sub : Subscription} (r : PendingReply) (idle : c.isIdle)
    (held : c.session.find? sub.stream = some sub) (nothing : r.start = none) :
    Change services broken c (some (subscriptionToken c.id sub.generation))
      { c with session := c.session.erase sub.stream, pending := some r }
  /-- The session has sent its reply, or never will. -/
  | answer {r : PendingReply} (outbox : Outbox) (pending : c.pending = some r)
    (nothing : r.start = none) :
    Change services broken c none { c with outbox := outbox, pending := none }
  /-- The same, and it starts a stream, with a task unless the stream is that to events. -/
  | start {r : PendingReply} {stream : Stream} {interval : Option Int64} (outbox : Outbox)
    (body : Option TaskBody) (pending : c.pending = some r)
    (something : r.start = some (stream, interval))
    (runs : broken ∨ stream = .events ∨ body.isSome) (nobody : stream = .events → body = none) :
    Change services broken c none { c with
      outbox := outbox
      pending := none
      session := c.session.insert stream
      tasks := c.tasks ++ (body.map fun body =>
        { subscription := ⟨stream, c.session.nextGeneration⟩, body : StreamTask }).toList }
  /-- The session retires a stream that has ended. -/
  | retire {ended : Subscription} (idle : c.isIdle) (waiting : ended ∈ c.ended) :
    Change services broken c none
      { c with session := c.session.retire ended, ended := c.ended.erase ended }
  /-- The session is closed. -/
  | close (idle : c.isIdle) :
    Change services broken c (some (sessionToken c.id)) { c with closed := true }
  /-- A task ends and is reported. -/
  | finish {t : StreamTask} (task : c.task? t.subscription.generation = some t)
    (runs : t.done = false) :
    Change services broken c (some (readerToken c.id t.subscription.generation))
      { c.updateTask t.subscription.generation fun t => { t with done := true } with
        ended := c.ended ++ [t.subscription] }
  /-- A task breaks down. -/
  | breakDown {t : StreamTask} (breaks : broken)
    (task : c.task? t.subscription.generation = some t) (runs : t.done = false) :
    Change services broken c (some (readerToken c.id t.subscription.generation))
      (c.updateTask t.subscription.generation fun t => { t with done := true })

/-- What a client has when it connects, and keeps in every change. `Changes.clients` turns such a
property into one of all clients of all worlds that can be reached. -/
structure Lasting (services : Services) (broken : Prop) (P : Client → Prop) : Prop where
  connected : ∀ conn outbox, P { id := conn, outbox := outbox }
  kept : ∀ {c c' : Client} {cancels : Option Token}, c.Change services broken cancels c' →
    P c → P c'

end Client

/-! ### Changes of a world -/

namespace World

/-- **A change at one connection.** A client connects, or its client changes in the way of the same
name. `broken` says whether tasks may break down in it. The constructors name the very operations of
the agent that do it, so `hub`, tokens and other clients can be told from them as well; what
`Client.Change` says is the part of it that the client itself sees. -/
inductive ChangeAt (broken : Prop) (w : World) (conn : ConnId) : World → Prop where
  | connect (capacity : Nat) (absent : w.client? conn = none) :
    ChangeAt broken w conn (w.connect conn capacity)
  | adjust (f : Client → Client) (same : ∀ c : Client, c.SameBooks (f c)) :
    ChangeAt broken w conn (w.modify conn f)
  | decide {c : Client} (r : PendingReply) (found : w.client? conn = some c) (idle : c.isIdle)
    (admitted : ∀ stream interval, r.start = some (stream, interval) →
      c.session.Admits w.services stream) :
    ChangeAt broken w conn (w.modify conn fun c => { c with pending := some r })
  | stop {c : Client} {sub : Subscription} (r : PendingReply) (found : w.client? conn = some c)
    (idle : c.isIdle) (held : c.session.find? sub.stream = some sub) (nothing : r.start = none) :
    ChangeAt broken w conn
      ((w.stop conn sub).modify conn fun c => { c with pending := some r })
  | answer {c : Client} {r : PendingReply} (outbox : Outbox) (found : w.client? conn = some c)
    (pending : c.pending = some r) (nothing : r.start = none) :
    ChangeAt broken w conn (w.modify conn fun c => { c with outbox := outbox, pending := none })
  | start {c : Client} {r : PendingReply} {stream : Stream} {interval : Option Int64}
    (outbox : Outbox) (now : Nat) (found : w.client? conn = some c) (pending : c.pending = some r)
    (something : r.start = some (stream, interval))
    (runs : broken ∨ stream = .events ∨
      (TaskBody.ofStream w.services.limits stream interval now).isSome) :
    ChangeAt broken w conn
      ((w.modify conn fun c => { c with outbox := outbox, pending := none }).start conn c.session
        stream interval now)
  | retire {c : Client} {ended : Subscription} (found : w.client? conn = some c) (idle : c.isIdle)
    (waiting : ended ∈ c.ended) : ChangeAt broken w conn (w.retire conn ended)
  | close {c : Client} (found : w.client? conn = some c) (idle : c.isIdle) :
    ChangeAt broken w conn (w.close conn)
  | finish {c : Client} {t : StreamTask} (found : w.client? conn = some c)
    (task : c.task? t.subscription.generation = some t) (runs : t.done = false) :
    ChangeAt broken w conn (w.finish conn t)
  | breakDown {c : Client} {t : StreamTask} (breaks : broken) (found : w.client? conn = some c)
    (task : c.task? t.subscription.generation = some t) (runs : t.done = false) :
    ChangeAt broken w conn (w.breakDown conn t)

/-- A change anywhere: at one connection, or the agent shuts down. -/
inductive Change (broken : Prop) (w : World) : World → Prop where
  | at (conn : ConnId) {w' : World} (h : ChangeAt broken w conn w') : Change broken w w'
  | shutdown : Change broken w (w.cancel .root)

abbrev Changes (broken : Prop) : World → World → Prop := Relation.ReflTransGen (Change broken)

/-- Changes at one connection, one after the other. -/
abbrev ChangesAt (broken : Prop) (conn : ConnId) : World → World → Prop :=
  Relation.ReflTransGen fun w w' => ChangeAt broken w conn w'

/-- Changes at one connection are changes anywhere: `Changes` has them as `«at» conn`. -/
theorem ChangesAt.changes {broken : Prop} {w w' : World} {conn : ConnId}
    (h : ChangesAt broken conn w w') : Changes broken w w' := by
  induction h with
  | refl => exact .refl
  | tail _ last ih => exact ih.tail (.at conn last)

/-! ### What a change means for the connections -/

/-- A change at a connection without a client is that one connects, or none. All constructors but
the first two ask for a client. -/
theorem ChangeAt.connected {broken : Prop} {w w' : World} {conn : ConnId}
    (h : ChangeAt broken w conn w') (absent : w.client? conn = none) :
    (∃ capacity, w' = w.connect conn capacity) ∨
      w'.client? conn = none ∧ (∀ t, w'.isCancelled t = w.isCancelled t) ∧ w'.hub = w.hub := by
  cases h with
  | connect capacity => exact Or.inl ⟨capacity, rfl⟩
  | adjust f same =>
    -- There is nobody whose messages could move.
    refine Or.inr ⟨?_, fun _ => rfl, rfl⟩
    rw [client?_modify_self w f fun c => (same c).id, absent, Option.map_none]
  | decide r found
  | stop r found
  | answer outbox found
  | start outbox now found
  | retire found
  | close found
  | finish found
  | breakDown breaks found =>
    rw [absent] at found
    cases found

/-- **A change at a connection is one of its client,** and cancels no more than the token that goes
with it. This is the half that invariants of the client itself need; for all other connections there
is `ChangeAt.sameAt`. -/
theorem ChangeAt.client {broken : Prop} {w w' : World} {conn : ConnId} {c : Client}
    (h : ChangeAt broken w conn w') (found : w.client? conn = some c) :
    ∃ cancels c', c.Change w.services broken cancels c' ∧ w'.client? conn = some c' ∧
      ∀ t, w'.isCancelled t = (cancels.any (fun other => t.isWithin other) || w.isCancelled t) := by
  obtain rfl := id_of_client? found
  -- In each case the client that the constructor found is `c`, and `client?_modify` or the lemma of
  -- the operation finds what it has become.
  cases h with
  | connect capacity absent =>
    -- The number is taken.
    rw [absent] at found
    cases found
  | adjust f same =>
    exact ⟨none, f c, .adjust (same c), client?_modify f (fun c => (same c).id) found, fun _ => rfl⟩
  | decide r found' idle admitted =>
    obtain rfl := Option.some.inj (found.symm.trans found')
    exact ⟨none, _, .decide r idle admitted,
      client?_modify (fun c => { c with pending := some r }) (fun _ => rfl) found, fun _ => rfl⟩
  | @stop _ sub r found' idle held nothing =>
    obtain rfl := Option.some.inj (found.symm.trans found')
    refine ⟨some (subscriptionToken c.id sub.generation), _, .stop r idle held nothing,
      client?_modify (fun c => { c with pending := some r }) (fun _ => rfl)
        (client?_stop sub found), fun t => ?_⟩
    rw [isCancelled_modify, isCancelled_stop, Option.any_some]
  -- What is said of the client is said of `c`, and its tokens stay as they are.
  | answer outbox found' pending nothing =>
    obtain rfl := Option.some.inj (found.symm.trans found')
    exact ⟨none, _, .answer outbox pending nothing,
      client?_modify (fun c => { c with outbox := outbox, pending := none }) (fun _ => rfl) found,
      fun _ => rfl⟩
  | start outbox now found' pending something runs =>
    obtain rfl := Option.some.inj (found.symm.trans found')
    refine ⟨none, _, .start outbox _ pending something runs TaskBody.ofStream_eq_none,
      client?_start (client?_modify (fun c => { c with outbox := outbox, pending := none })
        (fun _ => rfl) found), fun t => ?_⟩
    rw [isCancelled_start]
    rfl
  | @retire _ ended found' idle waiting =>
    obtain rfl := Option.some.inj (found.symm.trans found')
    rw [retire_eq found idle waiting]
    exact ⟨none, _, .retire idle waiting, client?_modify (fun c => { c with
      session := c.session.retire ended, ended := c.ended.erase ended }) (fun _ => rfl) found,
      fun _ => rfl⟩
  | close found' idle =>
    obtain rfl := Option.some.inj (found.symm.trans found')
    exact ⟨some (sessionToken c.id), _, .close idle, client?_close found idle,
      isCancelled_close found idle⟩
  -- The reader of a task goes with it, whether it is reported or not.
  | @finish _ t found' task runs =>
    obtain rfl := Option.some.inj (found.symm.trans found')
    exact ⟨some (readerToken c.id t.subscription.generation), _, .finish task runs,
      client?_finish t found, isCancelled_finish w c.id t⟩
  | @breakDown _ t breaks found' task runs =>
    obtain rfl := Option.some.inj (found.symm.trans found')
    exact ⟨some (readerToken c.id t.subscription.generation), _, .breakDown breaks task runs,
      client?_breakDown t found, isCancelled_breakDown w c.id t⟩

/-- Clients do not go away, so where there is none after a change there was none before it. -/
theorem ChangeAt.absent {broken : Prop} {w w' : World} {conn : ConnId}
    (h : ChangeAt broken w conn w') (absent' : w'.client? conn = none) :
    w.client? conn = none ∧ ∀ t, w'.isCancelled t = w.isCancelled t := by
  cases found : w.client? conn with
  | none =>
    rcases h.connected found with ⟨capacity, rfl⟩ | ⟨-, hcancelled, -⟩
    · rw [client?_connect capacity found] at absent'
      cases absent'
    · exact ⟨rfl, hcancelled⟩
  | some c =>
    obtain ⟨_, c', -, found', -⟩ := h.client found
    rw [absent'] at found'
    cases found'

/-- **A change at one connection is none at another.** Clients are looked up by their number, and
the tokens that a change cancels are below the session of its own connection. -/
theorem ChangeAt.sameAt {broken : Prop} {w w' : World} {conn other : ConnId}
    (h : ChangeAt broken w other w') (ne : conn ≠ other) : SameAt conn w w' := by
  cases h with
  | connect capacity absent => exact .connect w capacity ne
  | adjust f same => exact .modify w f (fun c => (same c).id) ne
  | decide r => exact .modify w (fun c => { c with pending := some r }) (fun _ => rfl) ne
  | stop r =>
    exact (SameAt.stop w _ ne).trans
      (.modify _ (fun c => { c with pending := some r }) (fun _ => rfl) ne)
  | answer outbox =>
    exact .modify w (fun c => { c with outbox := outbox, pending := none }) (fun _ => rfl) ne
  | start outbox now =>
    exact (SameAt.modify w (fun c => { c with outbox := outbox, pending := none })
      (fun _ => rfl) ne).trans (.start _ _ _ _ now ne)
  | retire found idle waiting =>
    rw [retire_eq found idle waiting]
    exact .modify w _ (fun _ => rfl) ne
  | close found idle => exact .close w ne
  -- A reader's token is below that of its session.
  | @finish c t =>
    exact (SameAt.cancel w (reader_isWithin_session other t.subscription.generation) ne).trans
      (.modify _ _ (fun _ => rfl) ne)
  | @breakDown c t =>
    exact (SameAt.cancel w (reader_isWithin_session other t.subscription.generation) ne).trans
      (.modify _ _ (fun _ => rfl) ne)

/-- Several changes at one connection are none at another either, since `SameAt` is transitive. -/
theorem ChangesAt.sameAt {broken : Prop} {w w' : World} {conn other : ConnId}
    (h : ChangesAt broken other w w') (ne : conn ≠ other) : SameAt conn w w' := by
  induction h with
  | refl => exact ⟨rfl, fun _ _ => rfl, rfl⟩
  | tail _ last ih => exact ih.trans (last.sameAt ne)

/-- What was cancelled stays so: `ChangeAt.client` gives the tokens after a change as those before
and one more. -/
theorem ChangeAt.isCancelled {broken : Prop} {w w' : World} {conn : ConnId}
    (h : ChangeAt broken w conn w') {t : Token} (hc : w.isCancelled t = true) :
    w'.isCancelled t = true := by
  cases found : w.client? conn with
  | none =>
    rcases h.connected found with ⟨capacity, rfl⟩ | ⟨-, hcancelled, -⟩
    · rw [isCancelled_connect, hc]
    · rw [hcancelled, hc]
  | some c =>
    obtain ⟨_, _, -, -, hcancelled⟩ := h.client found
    rw [hcancelled, hc, Bool.or_true]

/-- What was cancelled stays so, whatever happens after. By `ChangeAt.isCancelled` for each change;
a shutdown cancels everything. -/
theorem Changes.isCancelled {broken : Prop} {w w' : World} (h : Changes broken w w') {t : Token}
    (hc : w.isCancelled t = true) : w'.isCancelled t = true := by
  induction h with
  | refl => exact hc
  | tail _ last ih =>
    cases last with
    | «at» conn h => exact h.isCancelled ih
    | shutdown => rw [isCancelled_cancel, Token.isWithin_root, Bool.true_or]

/-- What a session may use stays what it was: no operation of the agent sets `services`. -/
theorem ChangeAt.services {broken : Prop} {w w' : World} {conn : ConnId}
    (h : ChangeAt broken w conn w') : w'.services = w.services := by
  cases h with
  | connect capacity absent =>
    rw [World.connect, absent]
  | adjust f same => rfl
  | decide r => rfl
  | stop r => exact services_stop w conn _
  | answer outbox => rfl
  | start outbox now => exact services_start _ conn _ _ _ now
  | retire found idle waiting => rw [retire_eq found idle waiting, services_modify]
  | close found idle => exact services_close w conn
  | finish => rfl
  | breakDown => rfl

/-- What sessions may use stays what it was along all `Changes`, so limits can be spoken of without
a world. -/
theorem Changes.services {broken : Prop} {w w' : World} (h : Changes broken w w') :
    w'.services = w.services := by
  induction h with
  | refl => rfl
  | tail _ last ih =>
    cases last with
    | «at» conn h => exact h.services.trans ih
    | shutdown => exact ih

/-! ### What all clients have -/

/-- After a change at a connection all clients have what is `Lasting`: its own by the change, the
others since they are the same. -/
theorem ChangeAt.clients {broken : Prop} {w w' : World} {conn : ConnId} {P : Client → Prop}
    (h : ChangeAt broken w conn w') (hP : Client.Lasting w.services broken P)
    (all : ∀ {other c}, w.client? other = some c → P c) {other : ConnId} {c' : Client}
    (found' : w'.client? other = some c') : P c' := by
  by_cases heq : other = conn
  · subst heq
    cases found : w.client? other with
    | none =>
      -- There was no client: either one has connected, or there still is none.
      rcases h.connected found with ⟨capacity, rfl⟩ | ⟨absent', -⟩
      · rw [client?_connect capacity found] at found'
        cases found'
        exact hP.connected other _
      · rw [absent'] at found'
        cases found'
    | some c =>
      -- There was one, and it has changed in one of the ways that there are.
      obtain ⟨_, c'', hchange, found'', -⟩ := h.client found
      obtain rfl := Option.some.inj (found''.symm.trans found')
      exact hP.kept hchange (all found)
  · rw [(h.sameAt heq).client] at found'
    exact all found'

/-- **What is `Lasting`, all clients have** as long as those had it that were there before. The
induction is on the changes; a shutdown only cancels, and no client changes in it. -/
theorem Changes.clients {broken : Prop} {w w' : World} {P : Client → Prop} (h : Changes broken w w')
    (hP : Client.Lasting w.services broken P) (all : ∀ {conn c}, w.client? conn = some c → P c)
    {conn : ConnId} {c : Client} (found : w'.client? conn = some c) : P c := by
  induction h generalizing conn c with
  | refl => exact all found
  | tail before last ih =>
    cases last with
    | «at» conn h =>
      rw [← Changes.services before] at hP
      exact h.clients hP ih found
    | shutdown => exact ih found

end World

end Lookout
