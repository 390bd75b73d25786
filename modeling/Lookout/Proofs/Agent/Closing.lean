import Lookout.Proofs.Agent.Turn

/-!
# Closing leaves nothing behind

When a session is closed its token is cancelled, and with it those of all tasks that it ever
started and of their readers, whether the subscriptions are still held or were given up long before.
What happens to the connection from then on can only take away: messages leave its queue, tasks end,
readers stop, and nobody who has ended starts again (`Client.Fades`). The session itself does
nothing any more, and the hub knows the connection by cancelled tokens at most, until it does not
know it at all.

Whoever waits for the tasks of the session therefore waits for no more than that each of them, and
each reader, goes on once.

* `Client.Numbered` — tasks are told apart by their numbers;
* `World.beginClose` — a session that is being closed, before its registration goes;
* `World.Over` — a connection after that, and `World.Over.pass` — what a moment means for it;
* `World.Quiet` — nothing is queued for it, and what goes on ends;
* `World.closes_history` — closing leaves nothing behind, whatever happened before.

A session is closed in two steps, of which the second takes its registration from the hub.
`World.Over` asks of the hub only that what it knows of the connection is cancelled, and so it holds
after the first of them (`World.beginClose`) as well as after both. All lemmas about what is over
are therefore about any world in between, and `closes_history` uses them twice.
-/

namespace Lookout

/-! ### The numbers of tasks -/

namespace Client

/-- **No two tasks share a number,** and all their numbers were given out. This holds of tasks that
have ended as well, as long as their readers read; `Books.owners` says it of those that run. It is
what makes "the task of this number" one task in `Over.done_of_proceed` and
`Over.stopped_of_read`. -/
structure Numbered (c : Client) : Prop where
  nodup : ((c.tasks.map (·.subscription)).map (·.generation)).Nodup
  lt : ∀ sub ∈ c.tasks.map (·.subscription), sub.generation < c.session.nextGeneration

variable {c c' : Client}

/-- Tasks go, and numbers stay given out, so `Numbered` is kept. -/
theorem Numbered.sublist (h : c.Numbered)
    (tasks : (c'.tasks.map (·.subscription)).Sublist (c.tasks.map (·.subscription)))
    (next : c'.session.nextGeneration = c.session.nextGeneration) : c'.Numbered where
  nodup := (tasks.map _).nodup h.nodup
  lt sub hsub := by
    rw [next]
    exact h.lt sub (tasks.subset hsub)

/-- A task is found by its number. `task?` finds the first of that number, and there is no other. -/
theorem task?_eq_some (h : ((c.tasks.map (·.subscription)).map (·.generation)).Nodup)
    {t : StreamTask} (ht : t ∈ c.tasks) : c.task? t.subscription.generation = some t := by
  cases hfind : c.task? t.subscription.generation with
  | none =>
    have hnone := List.find?_eq_none.mp hfind t ht
    simp at hnone
  | some other =>
    have hmem := List.mem_of_find?_eq_some hfind
    have hnumber : other.subscription.generation = t.subscription.generation := by
      simpa using List.find?_some hfind
    rw [List.map_map] at h
    rw [List.inj_on_of_nodup_map h hmem ht hnumber]

/-- Every change keeps tasks apart by their numbers; only `start` adds one, and under a number that
is new. -/
theorem Change.numbered {services : Services} {broken : Prop} {cancels : Option Token}
    (h : c.Change services broken cancels c') (hnumbered : c.Numbered) : c'.Numbered := by
  cases h with
  | adjust same => exact hnumbered.sublist same.tasks (by rw [same.session])
  | @start r stream interval outbox body =>
    -- The new task has the next number.
    have hsubs : ∀ sub ∈ (body.map fun body =>
        { subscription := ⟨stream, c.session.nextGeneration⟩, body : StreamTask }).toList.map
          (·.subscription), sub.generation = c.session.nextGeneration := by
      -- A stream to events has no task, any other has one with the next number.
      cases body <;> simp
    refine ⟨?_, fun sub hsub => ?_⟩
    · rw [List.map_append, List.map_append, List.nodup_append]
      refine ⟨hnumbered.nodup, by cases body <;> simp, fun a ha b hb => ?_⟩
      obtain ⟨old, hold, rfl⟩ := List.mem_map.mp ha
      obtain ⟨new, hnew, rfl⟩ := List.mem_map.mp hb
      rw [hsubs new hnew]
      exact Nat.ne_of_lt (hnumbered.lt old hold)
    · rw [List.map_append, List.mem_append] at hsub
      change sub.generation < c.session.nextGeneration + 1
      rcases hsub with hold | hnew
      · exact Nat.lt_succ_of_lt (hnumbered.lt sub hold)
      · rw [hsubs sub hnew]
        exact Nat.lt_succ_self _
  | decide
  | stop
  | answer
  | retire
  | close => exact hnumbered.sublist (.refl _) rfl
  | finish
  | breakDown => exact hnumbered.sublist (c.tasks_updateTask_sublist _ fun _ => rfl) rfl

/-- That tasks are told apart, as a property of every client from its connection on. -/
theorem lasting_numbered (services : Services) (broken : Prop) :
    Lasting services broken Numbered where
  connected _ _ := ⟨List.nodup_nil, nofun⟩
  kept h hnumbered := h.numbered hnumbered

end Client

/-! ### Fading -/

/-- A task comes nearer to its end: it does not start again, nor does its reader. The order of the
three fields is that of their use: the same task, which has ended, whose reader has stopped. -/
structure StreamTask.Fades (t t' : StreamTask) : Prop where
  subscription : t'.subscription = t.subscription
  done : t.done = true → t'.done = true
  reader : t.body.hasReader = false → t'.body.hasReader = false

/-- A task that comes nearer to its end twice does so: `StreamTask.Fades` is transitive. -/
theorem StreamTask.Fades.trans {t t' t'' : StreamTask} (h : t.Fades t') (h' : t'.Fades t'') :
    t.Fades t'' where
  subscription := h'.subscription.trans h.subscription
  done hdone := h'.done (h.done hdone)
  reader hreader := h'.reader (h.reader hreader)

namespace Client

/-- **What is left of a closed client fades:** messages leave its queue, its tasks come nearer to
their ends, and none is added. Tasks of which nothing is left may be dropped, so `tasks` goes
backwards: every task that is left comes from one that was there. -/
structure Fades (c c' : Client) : Prop where
  id : c'.id = c.id
  closed : c'.closed = c.closed
  pending : c'.pending = c.pending
  outbox : c.outbox.Fades c'.outbox
  subscriptions : (c'.tasks.map (·.subscription)).Sublist (c.tasks.map (·.subscription))
  tasks : ∀ t' ∈ c'.tasks, ∃ t ∈ c.tasks, t.Fades t'

variable {c c' c'' : Client}

theorem Fades.of_outbox (outbox : c.outbox.Fades c'.outbox) (id : c'.id = c.id)
    (closed : c'.closed = c.closed) (pending : c'.pending = c.pending)
    (tasks : c'.tasks = c.tasks) : c.Fades c' where
  id := id
  closed := closed
  pending := pending
  outbox := outbox
  subscriptions := by rw [tasks]
  tasks t ht := ⟨t, tasks ▸ ht, rfl, fun hdone => hdone, fun hreader => hreader⟩

theorem Fades.refl (c : Client) : c.Fades c := .of_outbox (.refl _) rfl rfl rfl rfl

theorem Fades.trans (h : c.Fades c') (h' : c'.Fades c'') : c.Fades c'' where
  id := h'.id.trans h.id
  closed := h'.closed.trans h.closed
  pending := h'.pending.trans h.pending
  outbox := h.outbox.trans h'.outbox
  subscriptions := h'.subscriptions.trans h.subscriptions
  tasks t'' ht'' := by
    obtain ⟨t', ht', hfades'⟩ := h'.tasks t'' ht''
    obtain ⟨t, ht, hfades⟩ := h.tasks t' ht'
    exact ⟨t, ht, hfades.trans hfades'⟩

/-- What is done to a task is done to all of its number, and nothing else is. Stated for a task that
is left, since a task of which nothing is left is dropped. -/
theorem mem_tasks_updateTask {generation : Nat} {f : StreamTask → StreamTask} {t' : StreamTask}
    (h : t' ∈ (c.updateTask generation f).tasks) : ∃ t ∈ c.tasks,
      t.subscription.generation = generation ∧ f t = t' ∨
        t.subscription.generation ≠ generation ∧ t = t' := by
  obtain ⟨t, ht, heq⟩ := List.mem_map.mp (List.mem_of_mem_filter h)
  refine ⟨t, ht, ?_⟩
  split at heq
  · next hnumber => exact Or.inl ⟨hnumber, heq⟩
  · next hnumber => exact Or.inr ⟨hnumber, heq⟩

/-- The end of a task, or of its reader. Whether it is reported does not matter: `ended` is any
list, and the ends that wait are no part of fading. -/
theorem fades_updateTask (c : Client) (generation : Nat) {f : StreamTask → StreamTask}
    (fades : ∀ t : StreamTask, t.Fades (f t)) (ended : List Subscription) :
    c.Fades { c.updateTask generation f with ended := ended } where
  id := rfl
  closed := rfl
  pending := rfl
  outbox := .refl _
  subscriptions := c.tasks_updateTask_sublist generation fun t => (fades t).subscription
  tasks t' ht' := by
    obtain ⟨t, ht, ⟨-, rfl⟩ | ⟨-, rfl⟩⟩ := mem_tasks_updateTask ht'
    · exact ⟨t, ht, fades t⟩
    · exact ⟨t, ht, rfl, fun hdone => hdone, fun hreader => hreader⟩

end Client

/-- To end is to fade: `done` is set and never taken back. -/
theorem StreamTask.fades_done (t : StreamTask) : t.Fades { t with done := true } :=
  ⟨rfl, fun _ => rfl, fun hreader => hreader⟩

/-- A reader that is cancelled is none any more, whatever the task waits for: `readerCancelled`
leaves no reader that `hasReader` would find. -/
theorem TaskBody.hasReader_readerCancelled (body : TaskBody) :
    body.readerCancelled.hasReader = false := by
  cases body <;> rfl

/-- To lose one's reader is to fade, as `hasReader` only goes from true to false. -/
theorem StreamTask.fades_readerCancelled (t : StreamTask) :
    t.Fades { t with body := t.body.readerCancelled } :=
  ⟨rfl, fun hdone => hdone, fun _ => t.body.hasReader_readerCancelled⟩

namespace World

/-! ### Being over -/

/-- A session that is being closed: its token is cancelled and it takes nothing on any more, but the
hub still holds its registration. -/
def beginClose (w : World) (conn : ConnId) : World :=
  (w.cancel (sessionToken conn)).modify conn fun c => { c with closed := true }

/-- **A connection is over** when its session is closed and its token cancelled, and with it those
under which the hub still knows the connection. That no reply waits is part of it: a session is only
closed when it is idle. `numbers` is carried along so that no moment later has to show it again. -/
structure Over (w : World) (c : Client) : Prop where
  closed : c.closed = true
  pending : c.pending = none
  token : w.isCancelled (sessionToken c.id) = true
  registrations : ∀ r ∈ w.hub.of c.id, w.isCancelled r.token = true
  numbers : ((c.tasks.map (·.subscription)).map (·.generation)).Nodup

/-- What a moment leaves of a connection that is over: its client has faded, and what the hub knows
of it is the same. -/
structure Fades (w w' : World) (c c' : Client) : Prop where
  found : w'.client? c.id = some c'
  client : c.Fades c'
  hub : w'.hub.of c.id = w.hub.of c.id

variable {w w' : World} {c c' : Client}

theorem Fades.refl (found : w.client? c.id = some c) : Fades w w c c := ⟨found, .refl c, rfl⟩

namespace Over

variable (h : w.Over c)
include h

/-- A session that is over takes nothing on: it is closed, and only an idle one does. -/
theorem isIdle : c.isIdle = false := by
  rw [Client.isIdle, h.closed, Bool.not_true, Bool.false_and]

/-- Every token below that of the session is cancelled. The tokens of subscriptions, of readers and
of registrations are all below it, those that were given up long before included. -/
theorem isCancelled {t : Token} (within : t.isWithin (sessionToken c.id) = true) :
    w.isCancelled t = true :=
  isCancelled_of_isWithin within h.token

theorem subscription (generation : Nat) :
    w.isCancelled (subscriptionToken c.id generation) = true :=
  h.isCancelled (subscription_isWithin_session c.id generation)

theorem reader (generation : Nat) : w.isCancelled (readerToken c.id generation) = true :=
  h.isCancelled (reader_isWithin_session c.id generation)

/-- A session that is `Over` stays so as it fades. `cancelled` is a hypothesis since nothing else of
the world matters but that what was cancelled stays so (`Changes.isCancelled`). -/
theorem keep (hfades : Fades w w' c c')
    (cancelled : ∀ t, w.isCancelled t = true → w'.isCancelled t = true) : w'.Over c' where
  closed := hfades.client.closed.trans h.closed
  pending := hfades.client.pending.trans h.pending
  token := by
    rw [hfades.client.id]
    exact cancelled _ h.token
  registrations r hr := by
    rw [hfades.client.id, hfades.hub] at hr
    exact cancelled _ (h.registrations r hr)
  numbers := (hfades.client.subscriptions.map _).nodup h.numbers

/-! ### The tasks -/

/-- **A task that goes on ends,** whatever it waits for: `proceed` asks its token first, and that is
cancelled. -/
theorem proceed_eq (found : w.client? c.id = some c) (generation now : Nat) :
    w.proceed c.id generation now = w.endTask c.id generation := by
  rw [proceed, endTask, found]
  dsimp only [Option.bind_some]
  cases c.task? generation with
  | none => rfl
  | some t =>
    dsimp only [Option.map_some]
    rw [if_pos (h.subscription generation)]

omit h in
/-- To end a task fades the client, and if there is none of the number nothing happens. -/
theorem endTask_fades (found : w.client? c.id = some c) (generation : Nat) :
    ∃ c', Fades w (w.endTask c.id generation) c c' := by
  rw [endTask, found]
  dsimp only [Option.bind_some]
  split
  · exact ⟨c, .refl found⟩
  · split
    · exact ⟨c, .refl found⟩
    · next t _ _ =>
      exact ⟨_, client?_finish t found, c.fades_updateTask _ StreamTask.fades_done _, rfl⟩

/-- No task of a number that has gone on runs. The three cases are those of `endTask`: there is no
task, it had ended, or it ends now. -/
theorem done_of_proceed (found : w.client? c.id = some c) {generation now : Nat}
    (found' : (w.step (.proceed c.id generation now)).client? c.id = some c') :
    ∀ t ∈ c'.tasks, t.subscription.generation = generation → t.done = true := by
  intro t' ht' hnumber
  rw [step, h.proceed_eq found, endTask, found] at found'
  dsimp only [Option.bind_some] at found'
  split at found'
  · next hnone =>
    -- There is no task of this number.
    obtain rfl := Option.some.inj (found.symm.trans found')
    rw [← hnumber, Client.task?_eq_some h.numbers ht'] at hnone
    cases hnone
  · next t htask =>
    split at found'
    · next hdone =>
      -- It had ended before.
      obtain rfl := Option.some.inj (found.symm.trans found')
      rw [← hnumber, Client.task?_eq_some h.numbers ht'] at htask
      rw [Option.some.inj htask]
      exact hdone
    · have htask' : t.subscription.generation = generation := by
        simpa using List.find?_some htask
      rw [client?_finish t found, htask'] at found'
      obtain rfl := Option.some.inj found'
      obtain ⟨old, -, ⟨-, rfl⟩ | ⟨hother, rfl⟩⟩ := Client.mem_tasks_updateTask ht'
      · rfl
      · exact absurd hnumber hother

/-- **A reader that goes on stops.** Its token is asked first, and is cancelled with that of the
session. -/
theorem read_eq (generation : Nat) :
    w.read c.id generation = w.updateBody c.id generation (·.readerCancelled) := by
  rw [read, if_pos (h.reader generation)]

/-- No reader of a number that has gone on reads: after `read` no task of the number has one. -/
theorem stopped_of_read (found : w.client? c.id = some c) {generation : Nat}
    (found' : (w.step (.read c.id generation)).client? c.id = some c') :
    ∀ t ∈ c'.tasks, t.subscription.generation = generation → t.body.hasReader = false := by
  intro t' ht' hnumber
  rw [step, h.read_eq] at found'
  have hmodify := client?_modify (fun c => c.updateTask generation fun t =>
    { t with body := t.body.readerCancelled }) (fun _ => rfl) found
  obtain rfl := Option.some.inj (hmodify.symm.trans found')
  obtain ⟨t, -, ⟨-, rfl⟩ | ⟨hother, rfl⟩⟩ := Client.mem_tasks_updateTask ht'
  · exact t.body.hasReader_readerCancelled
  · exact absurd hnumber hother

/-! ### The session and the hub -/

/-- The session takes no frame any more: `handle` asks whether it is idle. -/
theorem handle_eq (found : w.client? c.id = some c) (decide : Session → Verdict × Option String) :
    w.handle c.id decide = w := by
  rw [handle, found]
  exact if_neg (Bool.eq_false_iff.mp h.isIdle)

/-- An event is offered under tokens only that are not cancelled, and all that the hub knows of the
connection are. So no event reaches it even while its registration is still there. -/
theorem not_mem_recipients : c.id ∉ w.hub.recipients w.cancelled := by
  intro hmem
  obtain ⟨token, hregistered, hlive⟩ := mem_recipients.mp hmem
  have hcancelled := h.registrations _ hregistered
  rw [hlive] at hcancelled
  cases hcancelled

/-- An event that is published is offered to others, by `not_mem_recipients`. -/
theorem publish_fades (found : w.client? c.id = some c) (event : DaemonEvent) :
    Fades w (w.publish event) c c := by
  have hcount := List.count_eq_zero.mpr h.not_mem_recipients
  refine ⟨?_, .refl c, by rw [hub_publish]⟩
  rw [publish]
  split
  · next message _ =>
    rw [broadcast, client?_offers message (hcount ▸ Nat.zero_le 1), found, Option.map_some,
      if_neg h.not_mem_recipients]
  · exact found

/-- An event that is offered to a single registration, in the middle of a broadcast, is not for this
connection either. -/
theorem offer_fades (found : w.client? c.id = some c) (r : Registration) (event : DaemonEvent) :
    Fades w (w.offer r event) c c := by
  unfold offer
  split
  · split
    · next hoffered =>
      obtain ⟨hmem, hlive⟩ := hoffered
      refine ⟨?_, .refl c, rfl⟩
      -- The registration is that of another connection.
      have hne : c.id ≠ r.conn := by
        intro heq
        have hcancelled := h.registrations r (List.mem_filter.mpr ⟨hmem, decide_eq_true heq.symm⟩)
        rw [hlive] at hcancelled
        cases hcancelled
      rw [client?_updateOutbox_of_ne w _ hne, found]
    · exact .refl found
  · exact .refl found

/-! ### All moments -/

/-- What concerns the connection itself: its session does nothing any more, its tasks end and their
readers stop. The cases are the actions; for each the guard that it fails is named, or what it may
still do. -/
theorem step_fades (found : w.client? c.id = some c) (a : Action) (about : a.conn? = some c.id) :
    ∃ c', Fades w (w.step a) c c' := by
  have hidle : ¬c.isIdle = true := Bool.eq_false_iff.mp h.isIdle
  have hrefl : ∃ c', Fades w w c c' := ⟨c, .refl found⟩
  -- Only the actions of this connection are left; the session's are refused as it is not idle.
  cases a <;> cases about
  case connect capacity =>
    rw [step, connect, found]
    exact hrefl
  case frame bytes =>
    rw [step, h.handle_eq found]
    exact hrefl
  case dispatch message =>
    rw [step, h.handle_eq found]
    exact hrefl
  case reply now =>
    rw [step, reply, found]
    dsimp only
    rw [h.pending]
    exact hrefl
  case retire ended =>
    rw [step, retire, found]
    dsimp only
    rw [if_neg fun hretire => hidle hretire.1]
    exact hrefl
  case close =>
    rw [step, close, found]
    dsimp only
    rw [if_neg hidle]
    exact hrefl
  case choose =>
    rw [step, choose, found]
    dsimp only
    rw [if_neg hidle]
    exact hrefl
  -- From here on those of its tasks, its readers and its queue.
  case proceed generation now =>
    rw [step, h.proceed_eq found]
    exact endTask_fades found generation
  case tell generation notice =>
    rw [step, tell, found]
    dsimp only [Option.bind_some]
    split
    · exact hrefl
    · rw [h.subscription, Bool.or_true, if_pos rfl]
      exact hrefl
  case read generation =>
    rw [step, h.read_eq]
    exact ⟨_, client?_modify _ (fun _ => rfl) found,
      c.fades_updateTask generation StreamTask.fades_readerCancelled _, rfl⟩
  case supply generation portion =>
    rw [step, supply, if_pos (h.reader generation)]
    exact hrefl
  case arrive message =>
    exact ⟨_, client?_modify _ (fun _ => rfl) found, .of_outbox (.refl _) rfl rfl rfl rfl, rfl⟩
  case take =>
    exact ⟨_, client?_modify _ (fun _ => rfl) found,
      .of_outbox (Outbox.fades_receive _) rfl rfl rfl rfl, rfl⟩
  case leave =>
    exact ⟨_, client?_modify _ (fun _ => rfl) found,
      .of_outbox (Outbox.fades_drop _) rfl rfl rfl rfl, rfl⟩

omit h in
/-- What happens at another connection leaves this one alone (`ChangesAt.sameAt`). -/
theorem fades_of_ne {other : ConnId} (found : w.client? c.id = some c)
    (changes : ChangesAt True other w w') (ne : c.id ≠ other) : Fades w w' c c where
  found := (changes.sameAt ne).client.trans found
  client := .refl c
  hub := changes.hub_of_ne ne

/-- **In every moment a connection that is over fades.** What concerns it is `step_fades`, what
concerns another connection `fades_of_ne`, and events are offered to others. -/
theorem pass_fades (found : w.client? c.id = some c) (m : Moment) :
    ∃ c', Fades w (w.pass m) c c' := by
  cases m with
  | offers r event => exact ⟨c, h.offer_fades found r event⟩
  | happens event =>
    cases event with
    | act a =>
      cases about : a.conn? with
      | some other =>
        -- What happens at a connection happens at this one or at another.
        by_cases heq : c.id = other
        · exact h.step_fades found a (by rw [about, heq])
        · exact ⟨c, fades_of_ne found (step_changesAt w a about fun _ => trivial) heq⟩
      | none =>
        cases a with
        | publish event => exact ⟨c, h.publish_fades found event⟩
        | shutdown => exact ⟨c, found, .refl c, rfl⟩
        | _ => cases about
    | ends other generation =>
      by_cases heq : c.id = other
      · subst heq
        exact endTask_fades found generation
      · exact ⟨c, fades_of_ne found (endTask_changes w other generation) heq⟩

/-- **What is over is so for good,** whatever happens. The induction is on the moments with the
world and the client general: after each moment what is left of the client is again `Over`. -/
theorem passes_fades (found : w.client? c.id = some c) (later : List Moment) :
    ∃ c', Fades w (later.foldl pass w) c c' ∧ (later.foldl pass w).Over c' := by
  induction later generalizing w c with
  | nil => exact ⟨c, .refl found, h⟩
  | cons m rest ih =>
    -- The connection is over after the first moment too, so that the others follow by induction.
    obtain ⟨c', hfades⟩ := h.pass_fades found m
    have hover := h.keep hfades fun _ => (pass_changes w m).isCancelled
    have found' := hfades.found
    rw [← hfades.client.id] at found'
    obtain ⟨c'', hfades', hover'⟩ := ih hover found'
    have hhub := hfades'.hub
    rw [hfades.client.id] at hhub
    refine ⟨c'', ⟨?_, hfades.client.trans hfades'.client, hhub.trans hfades.hub⟩, hover'⟩
    rw [← hfades.client.id]
    exact hfades'.found

/-- What a moment brings about, and fading does not undo, is so for good once that moment was there.
`P` is the fact about a task, `stable` says that fading keeps it, and `brings` that the moment
brings it about in any world in which the connection is over, since nothing is known of what happens
before it. -/
theorem lasts (found : w.client? c.id = some c) {m : Moment} {later : List Moment} (hm : m ∈ later)
    {P : StreamTask → Prop} (stable : ∀ {t t' : StreamTask}, t.Fades t' → P t → P t')
    (brings : ∀ {w : World} {c' c'' : Client}, w.Over c' → c'.id = c.id →
      w.client? c'.id = some c' → (w.pass m).client? c'.id = some c'' → ∀ t ∈ c''.tasks, P t)
    (found' : (later.foldl pass w).client? c.id = some c') : ∀ t ∈ c'.tasks, P t := by
  obtain ⟨before, after, rfl⟩ := List.append_of_mem hm
  rw [List.foldl_append, List.foldl_cons] at found'
  -- `c₁` is the client before the moment, `c₂` after it, `c'` in the end; all have the number of
  -- `c`.
  obtain ⟨c₁, hbefore, hover₁⟩ := h.passes_fades found before
  have hid₁ := hbefore.client.id
  have found₁ := hbefore.found
  rw [← hid₁] at found₁ found'
  obtain ⟨c₂, hmoment⟩ := hover₁.pass_fades found₁ m
  have hover₂ := hover₁.keep hmoment fun _ => (pass_changes _ m).isCancelled
  have found₂ := hmoment.found
  have hP := brings hover₁ hid₁ found₁ found₂
  rw [← hmoment.client.id] at found₂ found'
  -- From the moment on every task that is left comes from one that was left then.
  obtain ⟨c₃, hafter, -⟩ := hover₂.passes_fades found₂ after
  obtain rfl := Option.some.inj (hafter.found.symm.trans found')
  intro t' ht'
  obtain ⟨t, ht, hfades⟩ := hafter.client.tasks t' ht'
  exact stable hfades (hP t ht)

/-- **The tasks of the session are gone** as soon as each of them, and its reader, has gone on once,
in any order. Both halves are `lasts`, at the fact that a task of that number is done and at the
fact that its reader has stopped. -/
theorem gone (found : w.client? c.id = some c) {later : List Moment}
    (proceeds : ∀ t ∈ c.tasks, ∃ now,
      .happens (.act (.proceed c.id t.subscription.generation now)) ∈ later)
    (reads : ∀ t ∈ c.tasks, .happens (.act (.read c.id t.subscription.generation)) ∈ later)
    (found' : (later.foldl pass w).client? c.id = some c') : ∀ t ∈ c'.tasks, t.isGone = true := by
  intro t' ht'
  obtain ⟨c'', hfades, -⟩ := h.passes_fades found later
  obtain rfl := Option.some.inj (hfades.found.symm.trans found')
  obtain ⟨t, ht, hfades⟩ := hfades.client.tasks t' ht'
  -- Whatever task is left was there before, and has both gone on and been read since.
  obtain ⟨now, hproceed⟩ := proceeds t ht
  have hnumber : t'.subscription.generation = t.subscription.generation := by
    rw [hfades.subscription]
  -- The number is part of the fact, as `lasts` speaks of all tasks of the client at once.
  have hdone := h.lasts found hproceed
    (P := fun t' => t'.subscription.generation = t.subscription.generation → t'.done = true)
    (fun hfades hP hnumber => hfades.done (hP (by rw [← hfades.subscription, hnumber])))
    (fun hover hid found₁ found₂ => by
      rw [← hid] at found₂
      exact hover.done_of_proceed found₁ found₂)
    found' t' ht' hnumber
  have hstopped := h.lasts found (reads t ht)
    (P := fun t' =>
      t'.subscription.generation = t.subscription.generation → t'.body.hasReader = false)
    (fun hfades hP hnumber => hfades.reader (hP (by rw [← hfades.subscription, hnumber])))
    (fun hover hid found₁ found₂ => by
      rw [← hid] at found₂
      exact hover.stopped_of_read found₁ found₂)
    found' t' ht' hnumber
  rw [StreamTask.isGone, hdone, hstopped, Bool.not_false, Bool.true_and]

end Over

/-! ### Closing -/

/-- **Nothing is queued for a connection any more,** and what goes on ends. All four fields are
about what can happen from here, so that `Over.quiet` is the place where they are proved once and
`Over.passes_quiet` what carries them to any later world. -/
structure Quiet (w : World) (conn : ConnId) : Prop where
  /-- The tasks of all subscriptions, those that were given up included, and all readers are
  cancelled. -/
  cancelled : ∀ generation, w.isCancelled (subscriptionToken conn generation) = true ∧
    w.isCancelled (readerToken conn generation) = true
  /-- In whatever moment, messages only leave the queue. -/
  silent : ∀ m c c', w.client? conn = some c → (w.pass m).client? conn = some c' →
    c'.outbox.queue <:+ c.outbox.queue
  /-- A task that goes on ends and is reported, whatever it waits for. -/
  ends : ∀ c t now, w.client? conn = some c → t ∈ c.tasks → t.done = false → ∃ c',
    (w.step (.proceed conn t.subscription.generation now)).client? conn = some c' ∧
      t.subscription ∉ c'.running ∧ c'.ended = c.ended ++ [t.subscription]
  /-- So does its reader. -/
  stops : ∀ c t, w.client? conn = some c → t ∈ c.tasks → ∃ c',
    (w.step (.read conn t.subscription.generation)).client? conn = some c' ∧
      ∀ t' ∈ c'.tasks, t'.subscription = t.subscription → t'.body.hasReader = false

/-- What is over is quiet: no token of its subscriptions or readers is live, and nothing is pushed
to it. -/
theorem Over.quiet (h : w.Over c) (found : w.client? c.id = some c) : w.Quiet c.id where
  cancelled generation := ⟨h.subscription generation, h.reader generation⟩
  silent m c₁ c₂ found₁ found₂ := by
    obtain rfl := Option.some.inj (found.symm.trans found₁)
    obtain ⟨c', hfades⟩ := h.pass_fades found m
    obtain rfl := Option.some.inj (hfades.found.symm.trans found₂)
    exact hfades.client.outbox.queue
  ends c₁ t now found₁ ht hdone := by
    obtain rfl := Option.some.inj (found.symm.trans found₁)
    have htask := Client.task?_eq_some h.numbers ht
    rw [step, h.proceed_eq found, endTask, found]
    simp only [Option.bind_some, htask, hdone, Bool.false_eq_true, if_false]
    -- Its token is cancelled, so to go on is to end.
    refine ⟨_, client?_finish t found, fun hrunning => ?_, rfl⟩
    exact (Client.mem_running_done.mp hrunning).2 rfl
  stops c₁ t found₁ ht := by
    obtain rfl := Option.some.inj (found.symm.trans found₁)
    obtain ⟨c', hfades⟩ := h.step_fades found (.read c.id t.subscription.generation) rfl
    refine ⟨c', hfades.found, fun t' ht' heq => ?_⟩
    exact h.stopped_of_read found hfades.found t' ht' (by rw [heq])

/-- What is over is quiet from then on, whatever happens, since it is still over. -/
theorem Over.passes_quiet (h : w.Over c) (found : w.client? c.id = some c) (later : List Moment) :
    (later.foldl pass w).Quiet c.id ∧ (later.foldl pass w).hub.of c.id = w.hub.of c.id := by
  obtain ⟨c', hfades, hover⟩ := h.passes_fades found later
  have found' := hfades.found
  rw [← hfades.client.id] at found'
  have hquiet := hover.quiet found'
  rw [hfades.client.id] at hquiet
  exact ⟨hquiet, hfades.hub⟩

/-- **Closing leaves nothing behind.** `w` is the world in which the session of a client is told to
close, which it does once all its tasks are gone. `midway` is about the moments between its two
steps, all other fields are about those after both. -/
structure Closes (w : World) (c : Client) : Prop where
  /-- It is quiet as soon as the token of the session is cancelled, while the hub still holds its
  registration, -/
  midway : ∀ later : List Moment, (later.foldl pass (w.beginClose c.id)).Quiet c.id
  /-- and it stays quiet, and without a registration, whatever happens. -/
  after : ∀ later : List Moment, (later.foldl pass (w.step (.close c.id))).Quiet c.id ∧
    (later.foldl pass (w.step (.close c.id))).hub.of c.id = []
  /-- Of the registrations those of the connection go, and the others keep their places. -/
  registrations : (w.step (.close c.id)).hub.registrations =
    w.hub.registrations.filter fun r => r.conn ≠ c.id
  /-- Its tasks are left to end by themselves, and its queue to be read. -/
  client : (w.step (.close c.id)).client? c.id = some { c with closed := true }
  /-- They are gone once each of them, and its reader, has gone on, in whatever order and whatever
  else happens. -/
  returns : ∀ later : List Moment,
    (∀ t ∈ c.tasks, ∃ now,
      .happens (.act (.proceed c.id t.subscription.generation now)) ∈ later) →
    (∀ t ∈ c.tasks, .happens (.act (.read c.id t.subscription.generation)) ∈ later) →
    ∃ c', (later.foldl pass (w.step (.close c.id))).client? c.id = some c' ∧
      ∀ t ∈ c'.tasks, t.isGone = true

/-- A session is over as soon as its token is cancelled: the hub knows it by no other tokens
(`Agrees.token_isWithin`). `w'` is the world midway in one use and the world after in the other. -/
theorem over_of_cancelled (idle : c.isIdle) (hagrees : w.Agrees) (hnumbered : c.Numbered)
    (cancelled : ∀ t : Token, t.isWithin (sessionToken c.id) = true → w'.isCancelled t = true)
    (registrations : ∀ r ∈ w'.hub.of c.id, r ∈ w.hub.of c.id) :
    w'.Over { c with closed := true } where
  closed := rfl
  pending := by
    have hpending := Client.pending_of_isIdle idle
    exact hpending
  token := cancelled _ (Token.isWithin_self _)
  registrations r hr := cancelled _ (hagrees.token_isWithin (registrations r hr))
  numbers := hnumbered.nodup

/-- With a session go its registrations and no others. The hub is only asked to forget a session
that holds events, and one that does not has no registration. -/
theorem registrations_close (found : w.client? c.id = some c) (idle : c.isIdle)
    (hagrees : w.Agrees) : (w.close c.id).hub.registrations =
      w.hub.registrations.filter fun r => r.conn ≠ c.id := by
  rw [hub_close found idle]
  split
  · rw [Hub.unsubscribe]
    -- Both sides filter by the connection, one by a Boolean test.
    refine List.filter_congr fun r _ => ?_
    by_cases heq : r.conn = c.id <;> simp [heq]
  · next hhas =>
    -- A session that is not subscribed to events has none.
    have hnone : w.hub.of c.id = [] := by
      rw [hagrees.of_client found, Client.registrations_eq_nil]
      simpa [Session.has] using hhas
    symm
    rw [List.filter_eq_self]
    intro r hr
    rw [decide_eq_true_eq]
    exact fun heq => List.filter_eq_nil_iff.mp hnone r hr (decide_eq_true heq)

/-- **Closing leaves nothing behind,** whatever happened to the agent before. A session can be
closed whenever it is not at something else (`Client.isIdle`). It is `Over` midway, after
`beginClose`, and again once it is closed; all that `Closes` says of later moments follows from
that, by `Over.passes_quiet` for what stays quiet and `Over.passes_fades` for what comes to its
end. -/
theorem closes_history (services : Services) (moments : List Moment) {conn : ConnId} {c : Client}
    (found : (moments.foldl pass { services := services }).client? conn = some c)
    (idle : c.isIdle) : (moments.foldl pass { services := services }).Closes c := by
  obtain rfl := id_of_client? found
  have hchanges := passes_changes { services := services } moments
  have hagrees := hchanges.agrees (.services services) (.services services)
  have hnumbered := hchanges.clients (Client.lasting_numbered services True) (fun h => by cases h)
    found
  generalize moments.foldl pass { services := services } = w at found hagrees hnumbered ⊢
  -- Over after the first step: the registrations are those of before.
  have hmidway : (w.beginClose c.id).Over { c with closed := true } := by
    refine over_of_cancelled idle hagrees hnumbered (fun t within => ?_) fun _ hr => hr
    rw [beginClose, isCancelled_modify, isCancelled_cancel, within, Bool.true_or]
  have found₁ : (w.beginClose c.id).client? c.id = some { c with closed := true } :=
    client?_modify (w := w.cancel (sessionToken c.id)) (fun c => { c with closed := true })
      (fun _ => rfl) found
  have hregistrations := registrations_close found idle hagrees
  have hof : (w.close c.id).hub.of c.id = [] := by
    rw [Hub.of, hregistrations, List.filter_filter, List.filter_eq_nil_iff]
    simp
  -- And over after the second, where none is left.
  have hclosed : (w.close c.id).Over { c with closed := true } := by
    refine over_of_cancelled idle hagrees hnumbered (fun t within => ?_) fun r hr => ?_
    · rw [isCancelled_close found idle, within, Bool.true_or]
    · rw [hof] at hr
      cases hr
  have found₂ := client?_close found idle
  refine ⟨fun later => (hmidway.passes_quiet found₁ later).1, fun later => ?_, hregistrations,
    found₂, fun later hproceeds hreads => ?_⟩
  · obtain ⟨hquiet, hhub⟩ := hclosed.passes_quiet found₂ later
    exact ⟨hquiet, hhub.trans hof⟩
  · obtain ⟨c', hfades, -⟩ := hclosed.passes_fades found₂ later
    exact ⟨c', hfades.found, hclosed.gone found₂ hproceeds hreads hfades.found⟩

/-- A client has a task, another whose subscription it has given up, a third with a reader, and a
registration; a second client has a registration too. -/
def leftovers : List Moment :=
  let act := fun a => Moment.happens (.act a)
  let say := fun conn type (stream : Stream) =>
    [act (.dispatch conn (.of type stream.ack.toJson)), act (.reply conn 0)]
  [act (.connect 0 8), act (.connect 1 8)] ++ say 0 .subscribe .metrics ++
    say 0 .subscribe (.logs ⟨"a", by decide⟩) ++
    say 0 .subscribe (.containerStats ⟨"b", by decide⟩) ++
    [act (.tell 0 2 (.opened (.ok ())))] ++ say 0 .subscribe .events ++ say 1 .subscribe .events ++
    say 0 .unsubscribe (.logs ⟨"a", by decide⟩)

/-- The first client is closed with tasks that run, one of them for a stream that was given up, with
a reader and with a registration. -/
theorem closes_leftovers : ∃ c,
    (leftovers.foldl pass { services := {} }).client? 0 = some c ∧ c.isIdle = true ∧
    c.tasks.map (fun t => (t.subscription.generation, t.done, t.body.hasReader)) =
      [(0, false, false), (1, false, false), (2, false, true)] ∧
    c.session.subscriptions.map (·.generation) = [0, 2, 3] ∧
    (leftovers.foldl pass { services := {} }).hub.registrations =
      [⟨0, subscriptionToken 0 3⟩, ⟨1, subscriptionToken 1 0⟩] ∧
    (leftovers.foldl pass { services := {} }).Closes c := by
  have hclient : ((leftovers.foldl pass { services := {} }).client? 0).map (fun c => (c.isIdle,
      c.tasks.map (fun t => (t.subscription.generation, t.done, t.body.hasReader)),
      c.session.subscriptions.map (·.generation))) =
        some (true, [(0, false, false), (1, false, false), (2, false, true)], [0, 2, 3]) := by
    decide
  obtain ⟨c, found, heq⟩ := Option.map_eq_some_iff.mp hclient
  obtain ⟨idle, htasks, hsubscriptions⟩ := by simpa only [Prod.mk.injEq] using heq
  exact ⟨c, found, idle, htasks, hsubscriptions, by decide, closes_history {} leftovers found idle⟩

end World

end Lookout
