import Lookout.Proofs.Agent.Books
import Lookout.Proofs.Agent.Steps

/-!
# The state of a connection on every run

A session is kept in three places: in its subscriptions, in the tokens that were cancelled, and in
the tasks with their ends. `Client.Sound` says how the three fit together. It holds of every
connection on every run, whatever happens and in whatever order (`World.sound_history`); only what
it says of tasks that are lost needs that none broke down.

* `Client.Tokens` — which tokens of a client are cancelled;
* `Client.Owned` — every subscription has its task or the end of it;
* `World.Sound` — all clients are sound;
* `World.sound_history` — the invariant on every run.
-/

namespace Lookout

namespace Client

/-! ### Tokens -/

/-- **Which tokens of a client are cancelled.** That of its session is when it is closed or the
agent shuts down. Those of subscriptions that are held, or still to come, only are with it; and if a
subscription is not held any more and its task runs, then its token is. `fresh` is what makes a new
subscription live: its number was never used, so nothing was cancelled under it. -/
structure Tokens (cancelled : Token → Bool) (c : Client) : Prop where
  session : cancelled (sessionToken c.id) = (c.closed || cancelled .root)
  held : ∀ sub ∈ c.session.subscriptions,
    cancelled (subscriptionToken c.id sub.generation) = cancelled (sessionToken c.id)
  fresh : ∀ generation, c.session.nextGeneration ≤ generation →
    cancelled (subscriptionToken c.id generation) = cancelled (sessionToken c.id)
  running : ∀ sub ∈ c.running, cancelled (subscriptionToken c.id sub.generation) = false →
    sub ∈ c.session.subscriptions

namespace Tokens

variable {c c' : Client} {cancelled cancelled' : Token → Bool}

/-- The tokens of readers do not count: of all tokens only those of the session, of its
subscriptions and of the agent are asked. -/
theorem congr (h : c.Tokens cancelled) (root : cancelled' .root = cancelled .root)
    (session : cancelled' (sessionToken c.id) = cancelled (sessionToken c.id))
    (subscription : ∀ generation, cancelled' (subscriptionToken c.id generation) =
      cancelled (subscriptionToken c.id generation)) : c.Tokens cancelled' where
  session := by rw [session, root, h.session]
  held sub hsub := by rw [subscription, session, h.held sub hsub]
  fresh generation hle := by rw [subscription, session, h.fresh generation hle]
  running sub hsub hcancelled := by
    rw [subscription] at hcancelled
    exact h.running sub hsub hcancelled

/-- Nothing is started and nothing cancelled. Subscriptions may go as long as no task that runs
needs them. -/
theorem mono (h : c.Tokens cancelled) (id : c'.id = c.id) (closed : c'.closed = c.closed)
    (next : c'.session.nextGeneration = c.session.nextGeneration)
    (held : ∀ sub ∈ c'.session.subscriptions, sub ∈ c.session.subscriptions)
    (running : ∀ sub ∈ c'.running, sub ∈ c.running ∧
      (sub ∈ c.session.subscriptions → sub ∈ c'.session.subscriptions)) : c'.Tokens cancelled where
  session := by rw [id, closed, h.session]
  held sub hsub := by rw [id, h.held sub (held sub hsub)]
  fresh generation hle := by
    rw [next] at hle
    rw [id, h.fresh generation hle]
  running sub hsub hcancelled := by
    rw [id] at hcancelled
    obtain ⟨hrunning, hkeeps⟩ := running sub hsub
    exact hkeeps (h.running sub hrunning hcancelled)

/-- No subscription changes and no task either, so `Tokens` is about the same tokens as before. -/
theorem same (h : c.Tokens cancelled) (id : c'.id = c.id) (closed : c'.closed = c.closed)
    (session : c'.session = c.session) (running : c'.running = c.running) :
    c'.Tokens cancelled := by
  refine h.mono id closed (by rw [session]) ?_ ?_
  · rw [session]
    exact fun _ hsub => hsub
  · rw [running, session]
    exact fun _ hsub => ⟨hsub, fun hheld => hheld⟩

/-- For a client that has just connected nothing was cancelled, but perhaps the agent was. -/
theorem connected {conn : ConnId} (outbox : Outbox)
    (h : ∀ t : Token, t.isWithin (sessionToken conn) = true → cancelled t = cancelled .root) :
    ({ id := conn, outbox := outbox } : Client).Tokens cancelled where
  session := by
    rw [Bool.false_or]
    exact h _ (Token.isWithin_self _)
  held := nofun
  fresh generation _ := by
    rw [h _ (subscription_isWithin_session conn generation), h _ (Token.isWithin_self _)]
  running := nofun

/-- When the agent shuts down everything is cancelled, and nothing is left to say: both sides of
each field are `true`. -/
theorem shutdown (all : ∀ t, cancelled' t = true) : c.Tokens cancelled' where
  session := by rw [all, all, Bool.or_true]
  held _ _ := by rw [all, all]
  fresh _ _ := by rw [all, all]
  running sub _ hcancelled := by
    rw [all] at hcancelled
    cases hcancelled

/-- When a task ends its reader is cancelled, which is no token that counts: `Tokens` speaks of
sessions and subscriptions only. -/
theorem reader {generation : Nat} (h : c.Tokens cancelled) (now : ∀ t, cancelled' t =
    (t.isWithin (readerToken c.id generation) || cancelled t)) : c.Tokens cancelled' :=
  h.congr (by rw [now, root_isWithin_reader, Bool.false_or])
    (by rw [now, session_isWithin_reader, Bool.false_or])
    (fun other => by rw [now, subscription_isWithin_reader, Bool.false_or])

/-- When a stream is started its subscription joins those that are held, and its task those that
run. Its token has a number that was never given out, so it is not cancelled. -/
theorem start {stream : Stream} {tasks : List Subscription} (h : c.Tokens cancelled)
    (id : c'.id = c.id) (closed : c'.closed = c.closed)
    (session : c'.session = c.session.insert stream) (running : c'.running = c.running ++ tasks)
    (htasks : tasks.Sublist [⟨stream, c.session.nextGeneration⟩]) : c'.Tokens cancelled where
  session := by rw [id, closed, h.session]
  held sub hsub := by
    -- The new subscription was still to come.
    rw [session, Session.mem_insert] at hsub
    rw [id]
    rcases hsub with hsub | rfl
    · exact h.held sub hsub
    · exact h.fresh _ (Nat.le_refl _)
  fresh generation hle := by
    rw [session, Session.nextGeneration_insert] at hle
    rw [id, h.fresh generation (Nat.le_of_succ_le hle)]
  running sub hsub hcancelled := by
    rw [id] at hcancelled
    rw [running, List.mem_append] at hsub
    rw [session, Session.mem_insert]
    rcases hsub with hsub | hsub
    · exact Or.inl (h.running sub hsub hcancelled)
    · exact Or.inr (List.mem_singleton.mp (htasks.subset hsub))

/-- When a stream is given up its token is cancelled and no other. `hbooks` is needed to know that
no other subscription has its number. -/
theorem stop {sub : Subscription} (h : c.Tokens cancelled) (hbooks : c.Books)
    (hsub : sub ∈ c.session.subscriptions) (now : ∀ t, cancelled' t =
      (t.isWithin (subscriptionToken c.id sub.generation) || cancelled t))
    (id : c'.id = c.id) (closed : c'.closed = c.closed)
    (session : c'.session = c.session.erase sub.stream) (running : c'.running = c.running) :
    c'.Tokens cancelled' := by
  have hsession : cancelled' (sessionToken c.id) = cancelled (sessionToken c.id) := by
    rw [now, session_isWithin_subscription, Bool.false_or]
  -- All tokens but one are what they were.
  have hother : ∀ generation, generation ≠ sub.generation →
      cancelled' (subscriptionToken c.id generation) =
        cancelled (subscriptionToken c.id generation) := by
    intro generation hne
    rw [now, subscription_isWithin_subscription, decide_eq_false hne, Bool.false_or]
  -- In the order of the fields: `session`, `held`, `fresh`, `running`.
  refine ⟨?_, ?_, ?_, ?_⟩
  · rw [id, closed, hsession, h.session, now, root_isWithin_subscription, Bool.false_or]
  · intro other hmem
    rw [session, Session.mem_erase] at hmem
    -- Another stream, hence another number.
    have hne : other.generation ≠ sub.generation := fun heq =>
      hmem.2 (congrArg _ (hbooks.eq_of_generation hmem.1 hsub heq))
    rw [id, hother _ hne, hsession, h.held other hmem.1]
  · intro generation hle
    rw [session, Session.nextGeneration_erase] at hle
    have hne : generation ≠ sub.generation :=
      Nat.ne_of_gt (Nat.lt_of_lt_of_le (hbooks.generation_lt sub hsub) hle)
    rw [id, hother _ hne, hsession, h.fresh generation hle]
  · -- a task that is not cancelled now is that of another subscription, to another stream
    intro other hmem hcancelled
    rw [running] at hmem
    rw [id] at hcancelled
    have hne : other.generation ≠ sub.generation := by
      intro heq
      rw [now, subscription_isWithin_subscription, decide_eq_true heq, Bool.true_or] at hcancelled
      cases hcancelled
    rw [hother _ hne] at hcancelled
    have hheld := h.running other hmem hcancelled
    rw [session, Session.mem_erase]
    exact ⟨hheld, fun heq => hne (congrArg _ (hbooks.eq_of_stream hheld hsub heq))⟩

/-- When a session is closed all tokens below its own are cancelled, those of all its subscriptions
among them. -/
theorem close (now : ∀ t, cancelled' t = (t.isWithin (sessionToken c.id) || cancelled t)) :
    ({ c with closed := true } : Client).Tokens cancelled' := by
  have hsession : cancelled' (sessionToken c.id) = true := by
    rw [now, Token.isWithin_self, Bool.true_or]
  have hsubscription : ∀ generation, cancelled' (subscriptionToken c.id generation) = true := by
    intro generation
    rw [now, subscription_isWithin_session, Bool.true_or]
  -- Everything is cancelled, so no task that is not needs a subscription.
  refine ⟨hsession, ?_, ?_, ?_⟩
  · intro sub hsub
    exact (hsubscription _).trans hsession.symm
  · intro generation hle
    exact (hsubscription _).trans hsession.symm
  · intro sub hsub hcancelled
    rw [hsubscription] at hcancelled
    cases hcancelled

end Tokens

/-- **Every change keeps track of the tokens.** `now` says which tokens are cancelled after it, in
the form in which `World.ChangeAt.client` gives them: those of before, and what is below the one
that the change cancels. Where it cancels none, the two functions are the same. -/
theorem Change.tokens {services : Services} {broken : Prop} {c c' : Client}
    {cancels : Option Token} {cancelled cancelled' : Token → Bool}
    (h : c.Change services broken cancels c') (hbooks : c.Books) (htokens : c.Tokens cancelled)
    (now : ∀ t, cancelled' t =
      (cancels.any (fun other => t.isWithin other) || cancelled t)) : c'.Tokens cancelled' := by
  -- `funext now` where no token is cancelled; the other cases are the lemmas above.
  cases h with
  | adjust same =>
    obtain rfl : cancelled' = cancelled := funext now
    exact htokens.same same.id same.closed same.session same.running
  | decide r idle admitted =>
    obtain rfl : cancelled' = cancelled := funext now
    exact htokens.same rfl rfl rfl rfl
  | stop r idle held nothing =>
    exact htokens.stop hbooks (Session.mem_of_find? held) now rfl rfl rfl rfl
  | answer outbox pending nothing =>
    obtain rfl : cancelled' = cancelled := funext now
    exact htokens.same rfl rfl rfl rfl
  | @start r stream interval outbox body pending something runs nobody =>
    obtain rfl : cancelled' = cancelled := funext now
    exact htokens.start rfl rfl rfl (running_append _ _ _) (sublist_singleton _ body)
  | @retire ended idle waiting =>
    obtain rfl : cancelled' = cancelled := funext now
    refine htokens.mono rfl rfl rfl (fun _ hsub => (Session.mem_retire.mp hsub).1) fun sub hsub =>
      ⟨hsub, fun hheld => Session.mem_retire.mpr ⟨hheld, ?_⟩⟩
    -- What runs does not wait to be retired.
    rintro rfl
    exact List.disjoint_of_nodup_append hbooks.nodup_owners hsub waiting
  | close idle => exact .close now
  | finish task runs
  | breakDown breaks task runs =>
    exact (htokens.reader now).mono rfl rfl rfl (fun _ hsub => hsub) fun _ hsub =>
      ⟨(mem_running_done.mp hsub).1, fun hheld => hheld⟩

/-! ### Tasks -/

/-- **Every subscription but that to events has its task or the end of it.** A list of subscriptions
whose tasks run and one of the ends that wait; `Books.owners` says that it is in one of them
only. -/
def Owned (c : Client) : Prop :=
  ∀ sub ∈ c.session.subscriptions, sub.stream ≠ .events → sub ∈ c.running ∨ sub ∈ c.ended

/-- Nothing is started, and what is given up was lost before. Each subscription that is left needs
to keep what it had. -/
theorem Owned.mono {c c' : Client} (h : c.Owned)
    (held : ∀ sub ∈ c'.session.subscriptions, sub ∈ c.session.subscriptions ∧
      (sub ∈ c.running ∨ sub ∈ c.ended → sub ∈ c'.running ∨ sub ∈ c'.ended)) : c'.Owned := by
  intro sub hsub hevents
  obtain ⟨hheld, hkeeps⟩ := held sub hsub
  exact hkeeps (h sub hheld hevents)

/-- **No change loses a task,** unless one breaks down. `broken` is `False` here, so the constructor
`breakDown` cannot occur, and a stream that starts has its task. -/
theorem Change.owned {services : Services} {c c' : Client} {cancels : Option Token}
    (h : c.Change services False cancels c') (hbooks : c.Books) (howned : c.Owned) : c'.Owned := by
  cases h with
  | adjust same =>
    refine howned.mono ?_
    rw [same.session, same.running, same.ended]
    exact fun _ hsub => ⟨hsub, fun howner => howner⟩
  | decide r idle admitted => exact howned
  | stop r idle held nothing =>
    exact howned.mono fun _ hsub => ⟨(Session.mem_erase.mp hsub).1, fun howner => howner⟩
  | answer outbox pending nothing => exact howned
  | @start r stream interval outbox body pending something runs nobody =>
    intro sub hsub hevents
    rcases Session.mem_insert.mp hsub with hsub | rfl
    · -- the old ones have what they had
      exact (howned sub hsub hevents).imp_left fun hrun => mem_running_append.mpr (Or.inl hrun)
    · -- only events are started without a task
      have hbody : body.isSome := by
        rcases runs with hfalse | rfl | hsome
        · exact hfalse.elim
        · exact absurd rfl hevents
        · exact hsome
      exact Or.inl (mem_running_append.mpr (Or.inr ⟨hbody, rfl⟩))
  | @retire ended idle waiting =>
    refine howned.mono fun sub hsub => ?_
    obtain ⟨hheld, hne⟩ := Session.mem_retire.mp hsub
    -- The end that is retired is that of a subscription that is given up.
    exact ⟨hheld, fun howner => howner.imp_right fun hended =>
      (List.mem_erase_of_ne hne).mpr hended⟩
  | close idle => exact howned
  | @finish t task runs =>
    refine howned.mono fun sub hsub => ⟨hsub, fun howner => ?_⟩
    by_cases heq : sub.generation = t.subscription.generation
    · -- the number names the task that has ended
      have hrun := (mem_running_of_task? task runs).1
      obtain rfl := hbooks.eq_of_owner (List.mem_append.mpr howner)
        (List.mem_append_left _ hrun) heq
      exact Or.inr (List.mem_append_right _ (List.mem_singleton_self _))
    · -- all other tasks run on
      exact howner.imp (fun hrun => mem_running_done.mpr ⟨hrun, heq⟩) (List.mem_append_left _)
  | breakDown breaks => exact breaks.elim

/-! ### The invariant -/

/-- **The state of a client is sound.** Its books are in order, its tokens fit to them, and no task
is lost, unless some have broken down, which `broken` says. The three are proved together since each
needs the one before it: tokens go by numbers, and owners by both. -/
structure Sound (broken : Prop) (cancelled : Token → Bool) (c : Client) : Prop where
  books : c.Books
  tokens : c.Tokens cancelled
  owned : ¬broken → c.Owned

/-- Every change keeps a client sound: its books (`Change.books`), its tokens (`Change.tokens`), and
what it owns, unless a task broke down (`Change.owned`). -/
theorem Change.sound {services : Services} {broken : Prop} {c c' : Client}
    {cancels : Option Token} {cancelled cancelled' : Token → Bool}
    (h : c.Change services broken cancels c')
    (hsound : c.Sound broken cancelled) (now : ∀ t, cancelled' t =
      (cancels.any (fun other => t.isWithin other) || cancelled t)) :
    c'.Sound broken cancelled' where
  books := h.books hsound.books
  tokens := h.tokens hsound.books hsound.tokens now
  owned unbroken := by
    rw [eq_false unbroken] at h
    exact h.owned hsound.books (hsound.owned unbroken)

end Client

namespace World

/-! ### Worlds -/

/-- **A world is sound** if all its clients are, and nothing is cancelled for those to come but by
the agent. `absent` is about connections without a client, whose first client has to start with
tokens that are not cancelled. -/
structure Sound (broken : Prop) (w : World) : Prop where
  client : ∀ {conn c}, w.client? conn = some c → c.Sound broken w.isCancelled
  absent : ∀ {conn}, w.client? conn = none → ∀ t : Token, t.isWithin (sessionToken conn) = true →
    w.isCancelled t = w.isCancelled .root

/-- A world without clients is sound, with any `services`. -/
theorem Sound.services {broken : Prop} (services : Services) :
    ({ services := services } : World).Sound broken where
  client := nofun
  absent _ _ _ := rfl

/-- A change at a connection leaves its client sound, by `Change.sound` with the tokens that
`ChangeAt.client` tells. -/
theorem ChangeAt.sound {broken : Prop} {w w' : World} {conn : ConnId} {c' : Client}
    (h : ChangeAt broken w conn w') (hsound : w.Sound broken)
    (found' : w'.client? conn = some c') : c'.Sound broken w'.isCancelled := by
  cases found : w.client? conn with
  | none =>
    rcases h.connected found with ⟨capacity, rfl⟩ | ⟨absent', -⟩
    · -- a new client, for which nothing was cancelled before it was there
      rw [client?_connect capacity found] at found'
      cases found'
      refine ⟨.connected conn _, .connected _ fun t ht => ?_, fun _ => nofun⟩
      rw [isCancelled_connect, isCancelled_connect]
      exact hsound.absent found t ht
    · rw [absent'] at found'
      cases found'
  | some c =>
    obtain ⟨cancels, c'', hchange, found'', now⟩ := h.client found
    obtain rfl := Option.some.inj (found''.symm.trans found')
    exact hchange.sound (hsound.client found) now

/-- A change elsewhere leaves a client as sound as it was: by `SameAt` the client is the same, and
so are the tokens that count. -/
theorem SameAt.sound {broken : Prop} {w w' : World} {conn : ConnId} {c : Client}
    (h : SameAt conn w w') (hsound : w.Sound broken) (found' : w'.client? conn = some c) :
    c.Sound broken w'.isCancelled := by
  rw [h.client] at found'
  obtain rfl := id_of_client? found'
  obtain ⟨books, tokens, owned⟩ := hsound.client found'
  exact ⟨books, tokens.congr h.root (h.token _ (Token.isWithin_self _)) fun generation =>
    h.token _ (subscription_isWithin_session c.id generation), owned⟩

/-- **Every change keeps a world sound.** At the connection itself it is a change of the client
(`ChangeAt.sound`), at all others it is none (`SameAt.sound`), and a shutdown cancels everything. -/
theorem Change.sound {broken : Prop} {w w' : World} (h : Change broken w w')
    (hsound : w.Sound broken) : w'.Sound broken := by
  cases h with
  | «at» conn h =>
    -- At the connection itself the change is one of its client, at the others it is none.
    refine ⟨fun {other c'} found' => ?_, fun {other} absent' t ht => ?_⟩
    · by_cases heq : other = conn
      · subst heq
        exact h.sound hsound found'
      · exact (h.sameAt heq).sound hsound found'
    · by_cases heq : other = conn
      · subst heq
        obtain ⟨absent, hcancelled⟩ := h.absent absent'
        rw [hcancelled, hcancelled]
        exact hsound.absent absent t ht
      · have hsame := h.sameAt heq
        rw [hsame.client] at absent'
        rw [hsame.token t ht, hsame.root]
        exact hsound.absent absent' t ht
  | shutdown =>
    have all : ∀ t, (w.cancel .root).isCancelled t = true := fun t => by
      rw [isCancelled_cancel, Token.isWithin_root, Bool.true_or]
    refine ⟨fun found => ?_, fun _ t _ => by rw [all, all]⟩
    obtain ⟨books, -, owned⟩ := hsound.client found
    exact ⟨books, .shutdown all, owned⟩

theorem Changes.sound {broken : Prop} {w w' : World} (h : Changes broken w w')
    (hsound : w.Sound broken) : w'.Sound broken := by
  induction h with
  | refl => exact hsound
  | tail _ last ih => exact last.sound ih

/-! ### Runs -/

/-- **A sound world stays sound, whatever happens.** The induction is on what happens. `broken` has
to be given for all of it, since a task that breaks down is lost for good. -/
theorem sound_history {broken : Prop} {w : World} (hsound : w.Sound broken)
    (events : List Happening) (h : w.breaksIn events = true → broken) :
    (w.history events).Sound broken := by
  -- What happens next happens to a world that is sound by then.
  induction events generalizing w with
  | nil => exact hsound
  | cons event rest ih =>
    rw [breaksIn, Bool.or_eq_true] at h
    have hchanges := happen_changes w event fun hbreaks => h (Or.inl hbreaks)
    exact ih (hchanges.sound hsound) fun hrest => h (Or.inr hrest)

end World

end Lookout
