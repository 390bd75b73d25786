import Lookout.Proofs.Agent.Turn
import Mathlib.Data.List.Find

/-!
# Pushes in the window of their subscription

The journal of a connection holds every message that was ever queued for its client, together with
why it was: as the acknowledgement of a subscription or of the end of one, as another reply, or as a
push under a token. What is pushed for a subscription stands in the journal after the
acknowledgement of the subscription and before that of its end.

Three things work together for this. A stream is started only after its acknowledgement was queued,
or never will be because the session is cancelled or the queue closed, and then nothing else will be
queued either (`Tracks.granted`). A subscription that is given up is cancelled before that is
acknowledged (`Tracks.ended`). And nothing is pushed under a token that is cancelled.

* `Journal`, `Journal.of` — what was queued for a client, and why;
* `Orderly` — pushes stand in the window of their subscription;
* `Tracks` — how the journal fits to the client at any moment, and `Journal.tracks_note` — it goes
  on to;
* `World.orderly_journal` — every journal is orderly.
-/

namespace Lookout

/-! ### Journals -/

/-- Why a message was queued. Only `pushed` says nothing of a reply, and only it has a token: a
reply is queued under the token of the session. -/
inductive Cause where
  /-- It acknowledges a new subscription, the one with this number. -/
  | granted (generation : Nat)
  /-- It acknowledges that the subscription with this number was given up. -/
  | ended (generation : Nat)
  /-- It is another reply. -/
  | replied
  /-- It was pushed, under this token. -/
  | pushed (token : Token)
  deriving DecidableEq

/-- A message that was queued. -/
structure Entry where
  cause : Cause
  message : Envelope

/-- The number of a subscription that a session held and does not hold any more. In a moment in
which it is asked there is at most one, as a session gives up one at a time. -/
def Client.lost? (c c' : Client) : Option Nat :=
  (c.session.subscriptions.find? fun sub => sub ∉ c'.session.subscriptions).map (·.generation)

/-- Why the reply of a session is queued: the stream that it starts has the next number, and
`ending` is the number of the subscription that was given up for it. A reply does both of these or
neither, so the order in which they are asked does not matter. -/
def Client.reason (c : Client) (ending : Option Nat) : Cause :=
  if c.pending.any fun r => r.start.isSome then .granted c.session.nextGeneration
  else ending.elim .replied .ended

/-- **The journal of a connection:** what was queued for its client, the oldest first. `ending` is
the one fact that has to be remembered between two moments: the subscription goes when the session
decides, and its acknowledgement is queued only later. -/
structure Journal where
  world : World
  entries : List Entry := []
  /-- The number of the subscription that was given up, until that is acknowledged. -/
  ending : Option Nat := none

namespace Journal

/-- The journal after a moment: what is new in the queue is written down, with the token under which
it was pushed or the reason of the reply. `World.source?` tells the two apart, by the moment. -/
def note (conn : ConnId) (j : Journal) (m : World.Moment) : Journal :=
  let world := j.world.pass m
  match j.world.client? conn, world.client? conn with
  | some c, some c' =>
    let cause := (j.world.source? conn m).elim (c.reason j.ending) .pushed
    { world
      entries := j.entries ++ (c'.outbox.queue.drop c.outbox.queue.length).map fun e => ⟨cause, e⟩
      ending := if c'.pending.isSome then (c.lost? c').or j.ending else none }
  | _, _ => { j with world }

/-- The journal of a connection from the start of the agent on. -/
def of (services : Services) (conn : ConnId) (moments : List World.Moment) : Journal :=
  moments.foldl (note conn) { world := { services := services } }

/-- The world of a journal is that in which the moment has passed, as `World.pass` makes it. -/
theorem world_note (conn : ConnId) (j : Journal) (m : World.Moment) :
    (j.note conn m).world = j.world.pass m := by
  unfold note
  dsimp only
  split <;> rfl

/-- To keep a journal changes nothing: along all moments its world is that of the moments alone. -/
theorem world_foldl (conn : ConnId) (j : Journal) (moments : List World.Moment) :
    (moments.foldl (note conn) j).world = moments.foldl World.pass j.world := by
  induction moments generalizing j with
  | nil => rfl
  | cons m rest ih => rw [List.foldl_cons, List.foldl_cons, ih, world_note]

end Journal

/-! ### Windows -/

/-- A message fits the cause under which it was queued. Pushes and replies have types of their own,
so that a client can tell them apart, and a push has no number of a request. -/
def Entry.Fits (e : Entry) : Prop :=
  match e.cause with
  | .granted _ | .ended _ => e.message.type? = some .subscribed ∧ ¬e.message.IsPush
  | .replied =>
    (e.message.type? = some .pong ∨ e.message.type? = some .error) ∧ ¬e.message.IsPush
  | .pushed _ => e.message.IsPush ∧ e.message.id = none

/-- **The window of a subscription is open:** it was acknowledged, and its end was not. The
subscription is the one that a token belongs to. -/
def WindowOpen (conn : ConnId) (before : List Entry) (token : Token) : Prop :=
  ∃ generation, token = subscriptionToken conn generation ∧
    (∃ ack, ⟨.granted generation, ack⟩ ∈ before) ∧ ∀ ack, ⟨.ended generation, ack⟩ ∉ before

/-- **Pushes stand in the window of their subscription.** `window` cuts the journal at each push and
looks at what stands before it; `once` makes the acknowledgement there the only one of its
number. -/
structure Orderly (conn : ConnId) (entries : List Entry) : Prop where
  fits : ∀ e ∈ entries, e.Fits
  /-- No number is granted twice. -/
  once : ∀ generation, entries.countP (fun e => e.cause = .granted generation) ≤ 1
  window : ∀ before token message after, entries = before ++ ⟨.pushed token, message⟩ :: after →
    WindowOpen conn before token

theorem Orderly.nil (conn : ConnId) : Orderly conn [] where
  fits := nofun
  once _ := Nat.zero_le _
  window before token message after h := by simp at h

/-- A message comes last. Of what stood before it only a push asks anything (`window`), and a grant
that its number is new (`fresh`). -/
theorem Orderly.concat {conn : ConnId} {entries : List Entry} {e : Entry}
    (h : Orderly conn entries) (fits : e.Fits)
    (fresh : ∀ generation ack, e.cause = .granted generation → ⟨.granted generation, ack⟩ ∉ entries)
    (window : ∀ token, e.cause = .pushed token → WindowOpen conn entries token) :
    Orderly conn (entries ++ [e]) where
  fits e' he' := by
    rcases List.mem_append.mp he' with hold | hnew
    · exact h.fits e' hold
    · rw [List.mem_singleton.mp hnew]
      exact fits
  -- A number that is acknowledged now was not acknowledged before.
  once generation := by
    rw [List.countP_append, List.countP_singleton]
    by_cases heq : e.cause = .granted generation
    · have hzero : entries.countP (fun e => e.cause = .granted generation) = 0 := by
        rw [List.countP_eq_zero]
        rintro ⟨cause, ack⟩ hmem hcause
        obtain rfl : cause = .granted generation := by simpa using hcause
        exact fresh generation ack heq hmem
      simp [hzero, heq]
    · simpa [heq] using h.once generation
  window before token message after heq := by
    -- The push comes last, or it was there before.
    rcases List.eq_nil_or_concat after with rfl | ⟨rest, last, rfl⟩
    · obtain ⟨rfl, hlast⟩ := List.append_inj' heq rfl
      obtain rfl := List.singleton_inj.mp hlast
      exact window token rfl
    · rw [List.concat_eq_append, ← List.cons_append, ← List.append_assoc] at heq
      obtain ⟨hentries, -⟩ := List.append_inj' heq rfl
      exact h.window before token message rest hentries

/-! ### The journal and the client -/

/-- **How the journal fits to the client.** `granted` and `ended` are what opens and closes the
window of a subscription: the first says that an acknowledgement is there as long as anything can be
pushed, the second that nothing can be pushed once the end was acknowledged. `fresh`, `lost`, `idle`
and `awaited` carry these two over the moments between a decision and its reply. -/
structure Tracks (w : World) (entries : List Entry) (ending : Option Nat) (c : Client) : Prop where
  /-- What was started was acknowledged, unless nothing can be pushed for it any more. -/
  granted : ∀ generation < c.session.nextGeneration,
    w.isCancelled (subscriptionToken c.id generation) = true ∨ c.outbox.isOpen = false ∨
      ∃ ack, ⟨.granted generation, ack⟩ ∈ entries
  fresh : ∀ generation ack, ⟨.granted generation, ack⟩ ∈ entries →
    generation < c.session.nextGeneration
  /-- What was given up is cancelled, be that acknowledged or not. -/
  lost : ∀ generation, ending = some generation →
    w.isCancelled (subscriptionToken c.id generation) = true
  ended : ∀ generation ack, ⟨.ended generation, ack⟩ ∈ entries →
    w.isCancelled (subscriptionToken c.id generation) = true
  idle : c.pending = none → ending = none
  /-- The reply that is awaited fits the reason that it will have. -/
  awaited : ∀ r, c.pending = some r → Entry.Fits ⟨c.reason ending, r.message⟩
  queue : c.outbox.queue <:+ entries.map (·.message)
  orderly : Orderly c.id entries

/-- A session that holds what it held has lost nothing, so `lost?` tells no number. -/
theorem Client.lost?_eq_none {c c' : Client} (h : c'.session = c.session) : c.lost? c' = none := by
  rw [lost?, h, Option.map_eq_none_iff, List.find?_eq_none]
  intro sub hsub
  simpa using hsub

/-- The subscription that a session gives up is the one to its stream: the first that is gone is the
first to that stream. -/
theorem Client.lost?_erase {c c' : Client} {sub : Subscription}
    (held : c.session.find? sub.stream = some sub)
    (session : c'.session = c.session.erase sub.stream) : c.lost? c' = some sub.generation := by
  have hfind : c.session.subscriptions.find? (fun other => other ∉ c'.session.subscriptions) =
      c.session.find? sub.stream := by
    refine List.find?_congr fun other hother => ?_
    rw [session, decide_eq_decide, Session.mem_erase, not_and_not_right]
    exact ⟨fun h => h hother, fun h _ => h⟩
  rw [lost?, hfind, held, Option.map_some]

/-- The reason is one of the session and of its pending reply, and of nothing else that a client
has. -/
theorem Client.reason_congr {c c' : Client} (session : c'.session = c.session)
    (pending : c'.pending = c.pending) (ending : Option Nat) :
    c'.reason ending = c.reason ending := by
  rw [reason, reason, session, pending]

/-- The reason of a reply that is awaited: a grant if it has something to `start`, and otherwise the
end that was told, if one was. -/
theorem Client.reason_of_pending {c : Client} {r : PendingReply} (h : c.pending = some r)
    (ending : Option Nat) : c.reason ending =
      if r.start.isSome then .granted c.session.nextGeneration
      else ending.elim .replied .ended := by
  rw [reason, h, Option.any_some]

/-- What is granted has the number `nextGeneration`. -/
theorem Client.eq_of_reason_granted {c : Client} {ending : Option Nat} {generation : Nat}
    (h : c.reason ending = .granted generation) : generation = c.session.nextGeneration := by
  unfold reason at h
  split at h
  · cases h
    rfl
  · cases ending <;> cases h

/-- What is acknowledged as ended is the number that was given up, `ending`. -/
theorem Client.eq_of_reason_ended {c : Client} {ending : Option Nat} {generation : Nat}
    (h : c.reason ending = .ended generation) : ending = some generation := by
  unfold reason at h
  split at h
  · cases h
  · cases ending with
    | none => cases h
    | some given =>
      cases h
      rfl

theorem Client.reason_ne_pushed (c : Client) (ending : Option Nat) (token : Token) :
    c.reason ending ≠ .pushed token := by
  unfold reason
  split
  · nofun
  · cases ending <;> nofun

/-- A reply that fits what it starts fits its reason, where nothing was given up for it. -/
theorem PendingReply.Fits.entry {r : PendingReply} (h : r.Fits) {c : Client}
    (pending : c.pending = some r) : Entry.Fits ⟨c.reason none, r.message⟩ := by
  rw [Client.reason_of_pending pending]
  split
  · next hstart => exact ⟨h.granted hstart, h.reply⟩
  · next hstart => exact ⟨h.other (by simpa using hstart), h.reply⟩

namespace Tracks

variable {w w' : World} {c c' : Client} {entries : List Entry} {ending ending' : Option Nat}

theorem connected (w : World) (conn : ConnId) (capacity : Nat) :
    Tracks w [] none { id := conn, outbox := { capacity } } where
  granted := nofun
  fresh := nofun
  lost := nofun
  ended := nofun
  idle _ := rfl
  awaited _ hr := by cases hr
  queue := List.nil_suffix
  orderly := .nil conn

/-- Nothing is queued, and no stream is started. The tokens, the queue and the reply may change;
what they have to keep is asked one by one, so that the four kinds of moments of this sort share
it. -/
theorem keep (h : Tracks w entries ending c) (id : c'.id = c.id)
    (cancelled : ∀ t, w.isCancelled t = true → w'.isCancelled t = true)
    (next : c'.session.nextGeneration = c.session.nextGeneration)
    (outbox : c.outbox.Fades c'.outbox)
    (lost : ∀ generation, ending' = some generation →
      w'.isCancelled (subscriptionToken c.id generation) = true)
    (idle : c'.pending = none → ending' = none)
    (awaited : ∀ r, c'.pending = some r → Entry.Fits ⟨c'.reason ending', r.message⟩) :
    Tracks w' entries ending' c' where
  granted generation hlt := by
    rw [next] at hlt
    rw [id]
    -- Each of the three ways lasts: tokens stay cancelled, a queue does not open again, and what
    -- was written down stays.
    rcases h.granted generation hlt with hcancelled | hclosed | hentry
    · exact Or.inl (cancelled _ hcancelled)
    · refine Or.inr (Or.inl ?_)
      rw [Bool.eq_false_iff] at hclosed ⊢
      exact fun hopen => hclosed (outbox.listening hopen)
    · exact Or.inr (Or.inr hentry)
  fresh generation ack hmem := by
    rw [next]
    exact h.fresh generation ack hmem
  lost := by
    rw [id]
    exact lost
  ended generation ack hmem := by
    rw [id]
    exact cancelled _ (h.ended generation ack hmem)
  idle := idle
  awaited := awaited
  queue := outbox.queue.trans h.queue
  orderly := by
    rw [id]
    exact h.orderly

/-- **The window of a subscription is open** as long as something can be pushed under its token.
What can be pushed under it is live and finds a queue that listens, which leaves the third way of
`granted`; and its end was not acknowledged, since then it would be cancelled (`ended`). -/
theorem windowOpen (h : Tracks w entries ending c) {generation : Nat}
    (given : generation < c.session.nextGeneration)
    (live : w.isCancelled (subscriptionToken c.id generation) = false)
    (listening : c.outbox.isOpen = true) :
    WindowOpen c.id entries (subscriptionToken c.id generation) := by
  refine ⟨generation, rfl, ?_, fun ack hended => ?_⟩
  · rcases h.granted generation given with hcancelled | hclosed | hentry
    · rw [live] at hcancelled
      cases hcancelled
    · rw [listening] at hclosed
      cases hclosed
    · exact hentry
  · rw [h.ended generation ack hended] at live
    cases live

/-- What is granted stays so, whatever is queued next, since entries are only appended. -/
theorem granted_concat (h : Tracks w entries ending c) {generation : Nat}
    (given : generation < c.session.nextGeneration) (e : Entry) :
    w.isCancelled (subscriptionToken c.id generation) = true ∨ c.outbox.isOpen = false ∨
      ∃ ack, ⟨.granted generation, ack⟩ ∈ entries ++ [e] := by
  refine (h.granted generation given).imp_right fun h => h.imp_right ?_
  exact fun ⟨ack, hack⟩ => ⟨ack, List.mem_append_left _ hack⟩

/-- The queue and the journal grow alike, at their ends: what is still queued is a suffix of what
was written down. -/
theorem queue_concat (h : Tracks w entries ending c) (cause : Cause) (message : Envelope) :
    (c.outbox.push message).queue <:+
      (entries ++ [⟨cause, message⟩] : List Entry).map (·.message) := by
  rw [Outbox.queue_push, List.map_append]
  exact (List.suffix_append_inj_of_length_eq rfl).mpr ⟨h.queue, rfl⟩

/-- A message is pushed under the token of a subscription whose window is open. The session does not
change, so all fields but `orderly` are those of before. -/
theorem push (h : Tracks w entries ending c) {token : Token} {message : Envelope}
    (id : c'.id = c.id) (cancelled : ∀ t, w.isCancelled t = true → w'.isCancelled t = true)
    (session : c'.session = c.session) (pending : c'.pending = c.pending)
    (outbox : c'.outbox = c.outbox.push message) (fits : Entry.Fits ⟨.pushed token, message⟩)
    (window : WindowOpen c.id entries token) :
    Tracks w' (entries ++ [⟨.pushed token, message⟩]) ending c' where
  granted generation hlt := by
    rw [session] at hlt
    rw [id, outbox]
    exact (h.granted_concat hlt _).imp_left (cancelled _)
  -- The new entry is a push, so it is neither an acknowledgement nor an end.
  fresh generation ack hmem := by
    rw [session]
    exact h.fresh generation ack (by simpa using hmem)
  lost generation heq := by
    rw [id]
    exact cancelled _ (h.lost generation heq)
  ended generation ack hmem := by
    rw [id]
    exact cancelled _ (h.ended generation ack (by simpa using hmem))
  idle hnone := h.idle (by rw [← pending, hnone])
  awaited r hr := by
    rw [Client.reason_congr session pending]
    exact h.awaited r (by rw [← pending, hr])
  queue := by
    rw [outbox]
    exact h.queue_concat _ _
  -- The window of the token is open, which is what an orderly journal asks of a push.
  orderly := by
    rw [id]
    refine h.orderly.concat fits (fun _ _ heq => by cases heq) fun _ heq => ?_
    cases heq
    exact window

/-- A reply is queued, for the reason that was told, and what it grants is started. The window opens
here for a number that was not in use, and for the one that was given up it closes. -/
theorem answer (h : Tracks w entries ending c) {r : PendingReply} (awaited : c.pending = some r)
    (id : c'.id = c.id) (cancelled : ∀ t, w.isCancelled t = true → w'.isCancelled t = true)
    (pending : c'.pending = none) (outbox : c'.outbox = c.outbox.push r.message)
    (session : c'.session = r.start.elim c.session fun start => c.session.insert start.1) :
    Tracks w' (entries ++ [⟨c.reason ending, r.message⟩]) none c' := by
  -- A number is new if and only if the reply grants it.
  have hgiven : ∀ generation, generation < c'.session.nextGeneration ↔
      generation < c.session.nextGeneration ∨ c.reason ending = .granted generation := by
    intro generation
    rw [session, Client.reason_of_pending awaited ending]
    cases r.start with
    | none => cases ending <;> simp
    | some start =>
      change generation < c.session.nextGeneration + 1 ↔
        _ ∨ Cause.granted c.session.nextGeneration = .granted generation
      rw [Nat.lt_succ_iff_lt_or_eq, Cause.granted.injEq, eq_comm (a := generation)]
  -- An entry is an old one or the one that is written down now.
  have hmem : ∀ cause ack, ⟨cause, ack⟩ ∈ entries ++ [⟨c.reason ending, r.message⟩] →
      ⟨cause, ack⟩ ∈ entries ∨ c.reason ending = cause := by
    intro cause ack hack
    rcases List.mem_append.mp hack with hold | hnew
    · exact Or.inl hold
    · exact Or.inr (congrArg Entry.cause (List.mem_singleton.mp hnew)).symm
  -- In the order of the fields: `granted`, `fresh`, `ended`, `awaited`, `queue`, `orderly`; what
  -- was given up is acknowledged, so `lost` and `idle` have nothing left to say.
  refine ⟨?_, ?_, nofun, ?_, fun _ => rfl, ?_, ?_, ?_⟩
  · intro generation hlt
    rw [id, outbox]
    rcases (hgiven generation).mp hlt with hold | hnew
    · exact (h.granted_concat hold _).imp_left (cancelled _)
    · refine Or.inr (Or.inr ⟨r.message, List.mem_append_right _ ?_⟩)
      rw [hnew]
      exact List.mem_singleton_self _
  · intro generation ack hack
    exact (hgiven generation).mpr ((hmem _ ack hack).imp_left (h.fresh generation ack))
  · intro generation ack hack
    rw [id]
    refine cancelled _ ?_
    rcases hmem _ ack hack with hold | hnew
    · exact h.ended generation ack hold
    · -- what is acknowledged now was cancelled when it was given up
      exact h.lost generation (Client.eq_of_reason_ended hnew)
  · intro r' hr'
    rw [pending] at hr'
    cases hr'
  · rw [outbox]
    exact h.queue_concat _ _
  · rw [id]
    refine h.orderly.concat (h.awaited r awaited) (fun generation ack hcause hack => ?_)
      fun token hcause => absurd hcause (c.reason_ne_pushed ending token)
    -- The number is the next one, which no entry has.
    have hlt := h.fresh generation ack hack
    rw [Client.eq_of_reason_granted hcause] at hlt
    exact Nat.lt_irrefl _ hlt

/-- A reply is given up, and what it grants is started all the same: its token is cancelled, or the
queue is closed. So `granted` holds for the new number without any acknowledgement, and no push will
need one. -/
theorem giveUp (h : Tracks w entries ending c) {r : PendingReply}
    (id : c'.id = c.id) (cancelled : ∀ t, w.isCancelled t = true → w'.isCancelled t = true)
    (pending : c'.pending = none) (outbox : c'.outbox = c.outbox)
    (session : c'.session = r.start.elim c.session fun start => c.session.insert start.1)
    (hopeless : w.isCancelled (sessionToken c.id) = true ∨ c.outbox.isOpen = false) :
    Tracks w' entries none c' where
  -- No number was granted in the journal, but nothing can be queued for it any more either.
  granted generation _ := by
    rw [id, outbox]
    refine hopeless.imp (fun hcancelled => ?_) Or.inl
    exact cancelled _
      (World.isCancelled_of_isWithin (subscription_isWithin_session c.id generation) hcancelled)
  fresh generation ack hack := by
    have hlt := h.fresh generation ack hack
    rw [session]
    cases r.start with
    | none => exact hlt
    | some start => exact Nat.lt_succ_of_lt hlt
  lost := nofun
  ended generation ack hack := by
    rw [id]
    exact cancelled _ (h.ended generation ack hack)
  idle _ := rfl
  awaited r' hr' := by
    rw [pending] at hr'
    cases hr'
  queue := by
    rw [outbox]
    exact h.queue
  orderly := by
    rw [id]
    exact h.orderly

end Tracks

/-! ### Moments -/

namespace Journal

variable {j : Journal} {m : World.Moment} {c c' : Client}

/-- What leaves the queue is not written down: what was read or dropped was written down when it was
queued. -/
theorem note_of_fades (found : j.world.client? c.id = some c)
    (found' : (j.world.pass m).client? c.id = some c') (outbox : c.outbox.Fades c'.outbox) :
    j.note c.id m =
      { world := j.world.pass m
        entries := j.entries
        ending := if c'.pending.isSome then (c.lost? c').or j.ending else none } := by
  rw [note, found, found']
  dsimp only
  rw [List.drop_eq_nil_of_le outbox.queue.length_le, List.map_nil, List.append_nil]

/-- What enters the queue is written down, as the one message by which the queue has grown. -/
theorem note_of_push (found : j.world.client? c.id = some c)
    (found' : (j.world.pass m).client? c.id = some c') {message : Envelope}
    (outbox : c'.outbox = c.outbox.push message) :
    j.note c.id m =
      { world := j.world.pass m
        entries := j.entries ++
          [⟨(j.world.source? c.id m).elim (c.reason j.ending) .pushed, message⟩]
        ending := if c'.pending.isSome then (c.lost? c').or j.ending else none } := by
  rw [note, found, found']
  dsimp only
  rw [outbox, Outbox.queue_push, List.drop_left, List.map_singleton]

/-- A subscription under whose token something is pushed was given its number, be it one of a task
that runs or of a registration. For the second the hub is asked what it holds of the connection,
which is what its session holds (`Agrees.of_client`). -/
theorem given_of_owned {w : World} (hsound : w.Sound True) (hagrees : w.Agrees)
    (found : w.client? c.id = some c) {token : Token}
    (owned : (∃ sub ∈ c.running, token = subscriptionToken c.id sub.generation) ∨
      ⟨c.id, token⟩ ∈ w.hub.of c.id) :
    ∃ generation < c.session.nextGeneration, token = subscriptionToken c.id generation := by
  have hbooks := (hsound.client found).books
  rcases owned with ⟨sub, hrunning, htoken⟩ | hregistered
  · exact ⟨sub.generation, hbooks.owner_lt sub (List.mem_append_left _ hrunning), htoken⟩
  · -- what the hub holds is a subscription of the session
    rw [hagrees.of_client found, Client.registrations] at hregistered
    split at hregistered
    · cases hregistered
    · obtain ⟨sub, hsub, heq⟩ := List.mem_map.mp hregistered
      have hheld := Session.mem_of_find? (Option.mem_toList.mp hsub)
      exact ⟨sub.generation, hbooks.generation_lt sub hheld, (congrArg Registration.token heq).symm⟩

/-- **The journal goes on to fit to the client.** The cases are the kinds of turns that a client can
have in a moment (`World.Turn`); each is one of `keep`, `push`, `answer` and `giveUp`. -/
theorem tracks_note (h : Tracks j.world j.entries j.ending c) (hsound : j.world.Sound True)
    (hagrees : j.world.Agrees) (found : j.world.client? c.id = some c)
    (found' : (j.world.pass m).client? c.id = some c')
    (turn : World.Turn j.world (j.world.pass m) m c c') :
    Tracks (j.note c.id m).world (j.note c.id m).entries (j.note c.id m).ending c' := by
  have hid : c'.id = c.id := World.id_of_client? found'
  have hcancelled : ∀ t, j.world.isCancelled t = true → (j.world.pass m).isCancelled t = true :=
    fun t => (World.pass_changes j.world m).isCancelled
  -- While the reply that is awaited stays the same, so does what it acknowledges.
  have hending : c'.session = c.session → c'.pending = c.pending →
      (if c'.pending.isSome then (c.lost? c').or j.ending else none) = j.ending := by
    intro session pending
    rw [pending, Client.lost?_eq_none session, Option.none_or]
    cases hpending : c.pending with
    | none => exact (h.idle hpending).symm
    | some r => rfl
  cases turn with
  | rests session pending outbox =>
    -- Nothing is queued, so the journal is as it was.
    rw [note_of_fades found found' outbox, hending session pending]
    refine h.keep hid hcancelled (by rw [session]) outbox
      (fun generation heq => hcancelled _ (h.lost generation heq)) ?_ ?_
    · rw [pending]
      exact h.idle
    · rw [pending, Client.reason_congr session pending]
      exact h.awaited
  | @pushes token message session pending source live owned listening outbox push anonymous =>
    -- Whoever pushes has a number that was given out, and so its window is open.
    obtain ⟨generation, given, rfl⟩ := given_of_owned hsound hagrees found owned
    rw [note_of_push found found' outbox, hending session pending, source]
    exact h.push hid hcancelled session pending outbox ⟨push, anonymous⟩
      (h.windowOpen given live listening)
  | @decides r idle session pending outbox fits =>
    -- No subscription is given up, now or before.
    have hnone := h.idle (Client.pending_of_isIdle idle)
    rw [note_of_fades found found' (.of_eq outbox), pending, Client.lost?_eq_none session, hnone]
    refine h.keep hid hcancelled (by rw [session]) (.of_eq outbox) nofun (fun _ => rfl)
      fun r' hr' => ?_
    obtain rfl := Option.some.inj (pending.symm.trans hr')
    exact fits.entry hr'
  | @stops sub message idle held session pending outbox granted reply cancelled =>
    rw [note_of_fades found found' (.of_eq outbox), pending, Client.lost?_erase held session]
    refine h.keep hid hcancelled ?_ (.of_eq outbox) (fun generation heq => ?_) (fun hnone => ?_)
      fun r' hr' => ?_
    · rw [session, Session.nextGeneration_erase]
    · -- it is cancelled before its end is acknowledged
      cases heq
      exact cancelled
    · rw [pending] at hnone
      cases hnone
    · obtain rfl := Option.some.inj (pending.symm.trans hr')
      rw [Client.reason_of_pending hr']
      exact ⟨granted, reply⟩
  | retires idle session pending outbox =>
    rw [note_of_fades found found' (.of_eq outbox), pending]
    refine h.keep hid hcancelled ?_ (.of_eq outbox) nofun (fun _ => rfl) fun r' hr' => ?_
    · rw [session, Session.nextGeneration_retire]
    · rw [pending] at hr'
      cases hr'
  | @answers r now sending event awaited pending sent settled session =>
    subst event
    -- The reply was queued, and is the next entry; or there is no hope for it, nor for any other.
    rcases Outbox.send_cases sent settled with ⟨-, -, -, hpush⟩ | ⟨-, hopeless, hsame⟩
    · rw [note_of_push found found' hpush, pending]
      exact h.answer awaited hid hcancelled pending hpush session
    · rw [note_of_fades found found' (.of_eq hsame), pending]
      exact h.giveUp hid hcancelled pending hsame session hopeless

/-! ### Runs -/

/-- The journal fits to the world; as long as the client is not there, nothing is in it. `sound` and
`agrees` are what the world itself keeps and `pass_turn` asks for. -/
structure Fits (conn : ConnId) (j : Journal) : Prop where
  sound : j.world.Sound True
  agrees : j.world.Agrees
  client : (j.world.client? conn).elim (j.entries = [] ∧ j.ending = none)
    (Tracks j.world j.entries j.ending)

/-- A moment keeps the journal in step with the client. -/
theorem Fits.note {conn : ConnId} (h : j.Fits conn) (m : World.Moment) :
    (j.note conn m).Fits conn := by
  have hchanges := World.pass_changes j.world m
  refine ⟨?_, ?_, ?_⟩
  · rw [world_note]
    exact hchanges.sound h.sound
  · rw [world_note]
    exact hchanges.agrees h.sound h.agrees
  · have hclient := h.client
    rw [world_note]
    -- Before the moment there was no client, or there was one, of which `tracks_note` speaks.
    cases found : j.world.client? conn with
    | none =>
      rw [found, Option.elim_none] at hclient
      obtain ⟨hentries, hending⟩ := hclient
      rw [Journal.note, found]
      dsimp only
      rcases World.pass_absent found m with hnone | ⟨capacity, hnew⟩
      · rw [hnone]
        exact ⟨hentries, hending⟩
      · -- nothing was written down of a client that has just connected
        rw [hnew, hentries, hending]
        exact .connected _ conn capacity
    | some c =>
      obtain rfl := World.id_of_client? found
      rw [found, Option.elim_some] at hclient
      obtain ⟨c', found', turn⟩ := World.pass_turn found (h.agrees.once c.id) m
      have htracks := tracks_note hclient h.sound h.agrees found found' turn
      rw [world_note] at htracks
      rw [found', Option.elim_some]
      exact htracks

/-- Every journal fits, from the start of the agent on: `Fits.note` for each moment. -/
theorem fits_of (services : Services) (conn : ConnId) (moments : List World.Moment) :
    (of services conn moments).Fits conn := by
  have hfoldl : ∀ j : Journal, j.Fits conn → (moments.foldl (note conn) j).Fits conn := by
    induction moments with
    | nil => exact fun j h => h
    | cons m rest ih => exact fun j h => ih _ (h.note m)
  exact hfoldl _ ⟨.services services, .services services, rfl, rfl⟩

end Journal

namespace World

/-- **Every push stands in the window of its subscription,** whatever happened to the agent from its
start on, and in whatever order its sessions, its tasks and the hub went on. What a client still has
in its queue is the end of the journal, so what it reads is the journal in the same order. Both are
fields of `Tracks`, which holds after any moments (`Journal.fits_of`). -/
theorem orderly_journal (services : Services) (conn : ConnId) (moments : List Moment) :
    Orderly conn (Journal.of services conn moments).entries ∧
      ∀ c, (moments.foldl pass { services := services }).client? conn = some c →
        c.outbox.queue <:+ (Journal.of services conn moments).entries.map (·.message) := by
  have hclient := (Journal.fits_of services conn moments).client
  rw [← Journal.world_foldl conn { world := { services := services } } moments]
  change _ ∧ ∀ c, (Journal.of services conn moments).world.client? conn = some c → _
  cases found : (Journal.of services conn moments).world.client? conn with
  | none =>
    rw [found, Option.elim_none] at hclient
    rw [hclient.1]
    exact ⟨.nil conn, fun _ heq => by cases heq⟩
  | some c =>
    obtain rfl := id_of_client? found
    rw [found, Option.elim_some] at hclient
    refine ⟨hclient.orderly, fun c' heq => ?_⟩
    cases heq
    exact hclient.queue

/-- Events are subscribed to and given up, and one is published before, between and after. -/
example :
    let say := fun type => Action.dispatch 0 (.of type Stream.events.ack.toJson)
    let event := Action.publish { kind := "container", action := "start" }
    let actions := [.connect 0 8, event, say .subscribe, .reply 0 0, event, say .unsubscribe, event,
      .reply 0 0, event]
    (Journal.of {} 0 (actions.map fun a => .happens (.act a))).entries.map (·.cause) =
      [.granted 0, .pushed (subscriptionToken 0 0), .ended 0] := by decide

end World

end Lookout
