import Lookout.Proofs.Agent.Change
import Lookout.Proofs.Agent.Session
import Mathlib.Data.List.Nodup

/-!
# The books of a session

A session keeps its subscriptions under numbers, its tasks run under the same numbers, and under the
same numbers the ends of tasks wait to be retired. `Client.Books` says that these numbers are not
mixed up, whatever happens: no two subscriptions, and no two of the tasks and ends, share a number,
all numbers were given out, and no stream is subscribed to twice. Events are the one stream that has
no task, and so no end either.

* `Client.Books` — the invariant;
* `Client.Change.books` — every change keeps it.

Three lemmas serve the changes of a kind. `Books.congr` is for those that touch none of the numbers,
`Books.sublist` for those that only take some away, and `Books.start` for the one that gives out a
number. A task that ends moves its number from the tasks to the ends, which only `Books.finish`
shows to be harmless: the two are counted together in `Books.owners`.
-/

namespace Lookout.Client

/-- **The books of a client are in order.** `generations` and `streams` are about the subscriptions,
`owners` is about the tasks that run and the ends that wait, which share one list since the number
of a task is that of its end. `generation_lt` and `owner_lt` say that all numbers were given out,
and so the next one is free; `absent` and `closed` are about the reply that is still to be sent,
without which a stream granted before could be started twice. -/
structure Books (c : Client) : Prop where
  generations : (c.session.subscriptions.map (·.generation)).Nodup
  streams : (c.session.subscriptions.map (·.stream)).Nodup
  generation_lt : ∀ sub ∈ c.session.subscriptions, sub.generation < c.session.nextGeneration
  owners : ((c.running ++ c.ended).map (·.generation)).Nodup
  owner_lt : ∀ sub ∈ c.running ++ c.ended, sub.generation < c.session.nextGeneration
  /-- The hub feeds events, and no task. -/
  owner_stream : ∀ sub ∈ c.running ++ c.ended, sub.stream ≠ .events
  /-- A stream that is about to be started is not subscribed to. -/
  absent : ∀ r stream interval, c.pending = some r → r.start = some (stream, interval) →
    c.session.has stream = false
  /-- A session that is closed has sent its last reply. -/
  closed : c.closed = true → c.pending = none

/-- A session that is idle is about to start nothing: its `pending` is empty. -/
theorem pending_of_isIdle {c : Client} (idle : c.isIdle) : c.pending = none := by
  rw [isIdle, Bool.and_eq_true, Option.isNone_iff_eq_none] at idle
  exact idle.2

/-- A session that is idle is not closed: `isIdle` is both at once. -/
theorem closed_of_isIdle {c : Client} (idle : c.isIdle) : c.closed = false := by
  rw [isIdle, Bool.and_eq_true, Bool.not_eq_true'] at idle
  exact idle.1

namespace Books

variable {c : Client} (h : c.Books)
include h

/-- A number names one subscription, so `Subscription.generation` can stand for it on the paths of
tokens and in the ends of tasks. -/
theorem eq_of_generation {sub other : Subscription} (hsub : sub ∈ c.session.subscriptions)
    (hother : other ∈ c.session.subscriptions) (heq : sub.generation = other.generation) :
    sub = other :=
  List.inj_on_of_nodup_map h.generations hsub hother heq

/-- A stream is that of one subscription: there is no second one to it in the same session. -/
theorem eq_of_stream {sub other : Subscription} (hsub : sub ∈ c.session.subscriptions)
    (hother : other ∈ c.session.subscriptions) (heq : sub.stream = other.stream) : sub = other :=
  List.inj_on_of_nodup_map h.streams hsub hother heq

/-- A number names one task or one end. As a task and an end are given here by their subscriptions,
the lemma also says that no end waits whose task still runs. -/
theorem eq_of_owner {sub other : Subscription} (hsub : sub ∈ c.running ++ c.ended)
    (hother : other ∈ c.running ++ c.ended) (heq : sub.generation = other.generation) :
    sub = other :=
  List.inj_on_of_nodup_map h.owners hsub hother heq

/-- No task runs twice, and none runs whose end waits; the form of `Books.owners` without the
numbers. -/
theorem nodup_owners : (c.running ++ c.ended).Nodup := h.owners.of_map _

end Books

/-- The books do not show more than the subscriptions, the tasks that run and the ends that wait.
What is about to be started and whether the client is closed are left to the caller, as most changes
that keep the rest change just these two. -/
theorem Books.congr {c c' : Client} (h : c.Books) (session : c'.session = c.session)
    (running : c'.running = c.running) (ended : c'.ended = c.ended)
    (absent : ∀ r stream interval, c'.pending = some r → r.start = some (stream, interval) →
      c.session.has stream = false) (closed : c'.closed = true → c'.pending = none) :
    c'.Books where
  generations := by rw [session]; exact h.generations
  streams := by rw [session]; exact h.streams
  generation_lt := by rw [session]; exact h.generation_lt
  owners := by rw [running, ended]; exact h.owners
  owner_lt := by rw [running, ended, session]; exact h.owner_lt
  owner_stream := by rw [running, ended]; exact h.owner_stream
  absent := by rw [session]; exact absent
  closed := closed

/-- A client that has just connected has nothing to book: it holds no subscription and has no
task. -/
theorem Books.connected (conn : ConnId) (outbox : Outbox) :
    ({ id := conn, outbox := outbox } : Client).Books := by
  refine ⟨List.nodup_nil, List.nodup_nil, nofun, List.nodup_nil, nofun, nofun, ?_, fun _ => rfl⟩
  intro r stream interval hr
  cases hr

/-- Subscriptions and ends are taken away, and nothing is about to be started. Numbers are never
given back, so `nextGeneration` stays: this is what keeps a late end from hitting a newer
subscription. -/
theorem Books.sublist {c c' : Client} (h : c.Books)
    (session : c'.session.subscriptions.Sublist c.session.subscriptions)
    (next : c'.session.nextGeneration = c.session.nextGeneration)
    (owners : (c'.running ++ c'.ended).Sublist (c.running ++ c.ended))
    (absent : ∀ r, c'.pending = some r → r.start = none)
    (closed : c'.closed = true → c'.pending = none) : c'.Books where
  -- What holds of a list holds of what is left of it.
  generations := (session.map _).nodup h.generations
  streams := (session.map _).nodup h.streams
  generation_lt sub hsub := by
    rw [next]
    exact h.generation_lt sub (session.subset hsub)
  owners := (owners.map _).nodup h.owners
  owner_lt sub hsub := by
    rw [next]
    exact h.owner_lt sub (owners.subset hsub)
  owner_stream sub hsub := h.owner_stream sub (owners.subset hsub)
  absent r stream interval hr hstart := by
    rw [absent r hr] at hstart
    cases hstart
  closed := closed

/-- A stream is started that is not subscribed to. Its task, if it has one, has the number
`nextGeneration` of the new subscription; events have no task. -/
theorem Books.start {c c' : Client} {stream : Stream} {tasks : List Subscription} (h : c.Books)
    (hhas : c.session.has stream = false) (session : c'.session = c.session.insert stream)
    (running : c'.running = c.running ++ tasks)
    (htasks : tasks.Sublist [⟨stream, c.session.nextGeneration⟩])
    (hevents : stream = .events → tasks = []) (ended : c'.ended = c.ended)
    (pending : c'.pending = none) : c'.Books := by
  have howner : ∀ sub ∈ c'.running ++ c'.ended,
      sub ∈ c.running ++ c.ended ∨ sub = ⟨stream, c.session.nextGeneration⟩ ∧ stream ≠ .events := by
    intro sub hsub
    rw [running, ended, List.append_assoc, List.mem_append, List.mem_append] at hsub
    rcases hsub with hsub | hsub | hsub
    · exact Or.inl (List.mem_append_left _ hsub)
    · refine Or.inr ⟨List.mem_singleton.mp (htasks.subset hsub), fun heq => ?_⟩
      rw [hevents heq] at hsub
      cases hsub
    · exact Or.inl (List.mem_append_right _ hsub)
  -- In the order of the fields of `Books`; nothing is pending any more, which settles the last two.
  refine ⟨?_, ?_, ?_, ?_, ?_, ?_, by simp [pending], fun _ => pending⟩
  · -- the number is the next one, which no subscription has
    rw [session, Session.insert, List.map_append, List.map_singleton]
    refine List.nodup_append.mpr ⟨h.generations, List.nodup_singleton _, ?_⟩
    intro a ha b hb
    obtain ⟨sub, hsub, rfl⟩ := List.mem_map.mp ha
    obtain rfl : b = c.session.nextGeneration := by simpa using hb
    exact Nat.ne_of_lt (h.generation_lt sub hsub)
  · -- and the stream is none of those that are subscribed to
    rw [session, Session.insert, List.map_append, List.map_singleton]
    refine List.nodup_append.mpr ⟨h.streams, List.nodup_singleton _, ?_⟩
    intro a ha b hb
    obtain ⟨sub, hsub, rfl⟩ := List.mem_map.mp ha
    obtain rfl : b = stream := by simpa using hb
    exact Session.has_eq_false_iff.mp hhas sub hsub
  -- All numbers in use were given out, the new one just now.
  · intro sub hsub
    rw [session, Session.mem_insert] at hsub
    rw [session, Session.nextGeneration_insert]
    rcases hsub with hsub | rfl
    · exact Nat.lt_succ_of_lt (h.generation_lt sub hsub)
    · exact Nat.lt_succ_self _
  · -- no task and no end has the next number either
    rw [running, ended, List.append_assoc, (List.perm_append_comm_assoc _ _ _).map _ |>.nodup_iff,
      List.map_append]
    refine List.nodup_append.mpr ⟨(htasks.map _).nodup (List.nodup_singleton _), h.owners, ?_⟩
    intro a ha b hb
    obtain ⟨sub, hsub, rfl⟩ := List.mem_map.mp hb
    obtain rfl : a = c.session.nextGeneration := by simpa using (htasks.map _).subset ha
    exact Nat.ne_of_gt (h.owner_lt sub hsub)
  · intro sub hsub
    rw [session, Session.nextGeneration_insert]
    rcases howner sub hsub with hold | ⟨rfl, -⟩
    · exact Nat.lt_succ_of_lt (h.owner_lt sub hold)
    · exact Nat.lt_succ_self _
  -- Events have no task: if there is a new owner, its stream is another.
  · intro sub hsub
    rcases howner sub hsub with hold | ⟨rfl, hne⟩
    · exact h.owner_stream sub hold
    · exact hne

/-- A task that has ended moves to the ends that wait. Its number is used once before and once
after, but in another place, and the old place must be cleared by the number and not by the
position. -/
theorem Books.nodup_finish {c : Client} {sub : Subscription} (h : c.Books)
    (hsub : sub ∈ c.running) :
    ((c.running.filter (fun s => s.generation ≠ sub.generation) ++ (c.ended ++ [sub])).map
      (·.generation)).Nodup := by
  have howners := h.owners
  rw [List.map_append, List.nodup_append] at howners
  obtain ⟨hrunning, hended, hapart⟩ := howners
  have hmem : sub.generation ∈ c.running.map (·.generation) := List.mem_map_of_mem hsub
  rw [← List.append_assoc, List.map_append, List.map_append, List.nodup_append]
  refine ⟨?_, List.nodup_singleton _, ?_⟩
  · -- what is left was there before
    refine List.nodup_append.mpr ⟨(List.filter_sublist.map _).nodup hrunning, hended, ?_⟩
    intro a ha
    exact hapart a ((List.filter_sublist.map _).subset ha)
  · -- the number was in use once, by the task, and the task is gone
    intro a ha b hb hab
    obtain rfl : b = sub.generation := by simpa using hb
    subst hab
    rcases List.mem_append.mp ha with hleft | hright
    · obtain ⟨s, hs, hgen⟩ := List.mem_map.mp hleft
      exact absurd hgen (by simpa using (List.mem_filter.mp hs).2)
    · exact hapart _ hmem _ hright rfl

/-- The books after the end of a task. Subscriptions do not change, and the owners are those of
before in another order (`Books.nodup_finish`): one moves from `running` to `ended`. -/
theorem Books.finish {c : Client} {t : StreamTask} (h : c.Books)
    (hsub : t.subscription ∈ c.running) :
    ({ c.updateTask t.subscription.generation fun t => { t with done := true } with
      ended := c.ended ++ [t.subscription] } : Client).Books := by
  have hrunning := c.running_updateTask_done t.subscription.generation
  -- Whose end waits now had a task before.
  have howner : ∀ sub ∈ (c.updateTask t.subscription.generation fun t =>
      { t with done := true }).running ++ (c.ended ++ [t.subscription]),
      sub ∈ c.running ++ c.ended := by
    intro sub hmem
    rw [hrunning, List.mem_append, List.mem_append, List.mem_singleton] at hmem
    rw [List.mem_append]
    rcases hmem with hmem | hmem | rfl
    · exact Or.inl (List.mem_of_mem_filter hmem)
    · exact Or.inr hmem
    · exact Or.inl hsub
  exact ⟨h.generations, h.streams, h.generation_lt, hrunning ▸ h.nodup_finish hsub,
    fun sub hmem => h.owner_lt sub (howner sub hmem),
    fun sub hmem => h.owner_stream sub (howner sub hmem), h.absent, h.closed⟩

/-- **Every change keeps the books in order.** The cases are the constructors of `Client.Change`,
each by the one of the lemmas above that fits it. -/
theorem Change.books {services : Services} {broken : Prop} {c c' : Client}
    {cancels : Option Token} (h : c.Change services broken cancels c') (hbooks : c.Books) :
    c'.Books := by
  -- What each constructor carries is just what its lemma asks for: `decide` that the stream is
  -- absent, `stop` that nothing is about to be started, `start` that events run no task.
  cases h with
  | adjust same =>
    refine hbooks.congr same.session same.running same.ended ?_ ?_
    · rw [same.pending]
      exact hbooks.absent
    · rw [same.closed, same.pending]
      exact hbooks.closed
  | decide r idle admitted =>
    -- A stream is only granted if it is not subscribed to, and nothing happens until it is started.
    refine hbooks.congr rfl rfl rfl (fun r' stream interval hr hstart => ?_) fun hclosed => ?_
    · cases hr
      exact (admitted stream interval hstart).absent
    · rw [closed_of_isIdle idle] at hclosed
      cases hclosed
  | stop r idle held nothing =>
    refine hbooks.sublist List.filter_sublist rfl (List.Sublist.refl _) (fun r' hr => ?_)
      fun hclosed => ?_
    · cases hr
      exact nothing
    · rw [closed_of_isIdle idle] at hclosed
      cases hclosed
  | answer outbox pending nothing =>
    exact hbooks.congr rfl rfl rfl (fun _ _ _ hr => by cases hr) fun _ => rfl
  | @start r stream interval outbox body pending something runs nobody =>
    refine hbooks.start (hbooks.absent r stream interval pending something) rfl
      (running_append _ _ _) (sublist_singleton _ body) (fun hevents => ?_) rfl rfl
    rw [nobody hevents]
    rfl
  | retire idle waiting =>
    refine hbooks.sublist List.filter_sublist rfl
      ((List.Sublist.refl _).append List.erase_sublist) (fun r hr => ?_) hbooks.closed
    rw [pending_of_isIdle idle] at hr
    cases hr
  | close idle =>
    have hpending := pending_of_isIdle idle
    exact hbooks.congr rfl rfl rfl hbooks.absent fun _ => hpending
  | finish task runs => exact hbooks.finish (mem_running_of_task? task runs).1
  | @breakDown t breaks task runs =>
    -- A task that breaks down leaves no end behind, so the owners only lose an entry.
    have howner : ((c.updateTask t.subscription.generation fun t =>
        { t with done := true }).running ++ c.ended).Sublist (c.running ++ c.ended) := by
      rw [running_updateTask_done]
      exact List.filter_sublist.append (List.Sublist.refl _)
    exact ⟨hbooks.generations, hbooks.streams, hbooks.generation_lt,
      (howner.map _).nodup hbooks.owners, fun sub hsub => hbooks.owner_lt sub (howner.subset hsub),
      fun sub hsub => hbooks.owner_stream sub (howner.subset hsub), hbooks.absent, hbooks.closed⟩

/-- The books as a property that every client has from its connection on, for `Lasting` to carry
along a history. -/
theorem lasting_books (services : Services) (broken : Prop) : Lasting services broken Books where
  connected := Books.connected
  kept h hbooks := h.books hbooks

end Lookout.Client
