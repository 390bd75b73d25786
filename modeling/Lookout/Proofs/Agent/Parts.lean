import Lookout.Proofs.Agent.Token
import Mathlib.Logic.Function.Iterate

/-!
# What the parts of a step do

`World.step` is put together from a few functions on worlds. For each of them this module says what
becomes of the client in question (`client?_…`) and which tokens are cancelled (`isCancelled_…`),
and that all other clients and their tokens are left alone (`World.SameAt`).

* `Client.running` — the subscriptions whose tasks have not ended;
* `World.SameAt` — nothing of what belongs to a connection differs.

All invariants of the agent are proved from these lemmas. They are the only place where the
functions of a step are unfolded for what they do to clients and tokens, so that a change in one of
these functions is met here and in the constructor of `Client.Change` that tells what it does.
-/

namespace Lookout

/-! ### The tasks of a client -/

namespace Client

/-- The subscriptions whose tasks have not ended. -/
def running (c : Client) : List Subscription :=
  (c.tasks.filter fun t => !t.done).map (·.subscription)

/-- A task that `task?` finds and that has not ended is running, under the number that it was looked
for by. -/
theorem mem_running_of_task? {c : Client} {generation : Nat} {t : StreamTask}
    (h : c.task? generation = some t) (hdone : t.done = false) :
    t.subscription ∈ c.running ∧ t.subscription.generation = generation := by
  rw [task?] at h
  refine ⟨List.mem_map.mpr ⟨t, List.mem_filter.mpr ⟨List.mem_of_find?_eq_some h, ?_⟩, rfl⟩, ?_⟩
  · rw [hdone, Bool.not_false]
  · simpa using List.find?_some h

/-- Tasks of which nothing is left (`isGone`) may be dropped: they do not run. -/
theorem running_filter_isGone (c : Client) (tasks : List StreamTask) :
    ({ c with tasks := tasks.filter fun t => !t.isGone } : Client).running =
      ({ c with tasks } : Client).running := by
  simp only [running, List.filter_filter]
  -- A task of which nothing is left does not run.
  congr 2
  funext t
  cases hdone : t.done <;> simp [StreamTask.isGone, hdone]

/-- Whatever is done to a task, none is added. `updateTask` drops those of which nothing is left, so
the subscriptions of the tasks become fewer at most. -/
theorem tasks_updateTask_sublist (c : Client) (generation : Nat) {f : StreamTask → StreamTask}
    (keeps : ∀ t, (f t).subscription = t.subscription) :
    ((c.updateTask generation f).tasks.map (·.subscription)).Sublist
      (c.tasks.map (·.subscription)) := by
  have hsame : (c.tasks.map fun t => if t.subscription.generation = generation then f t else t).map
      (·.subscription) = c.tasks.map (·.subscription) := by
    rw [List.map_map]
    refine List.map_congr_left fun t _ => ?_
    rw [Function.comp_apply]
    split
    · exact keeps t
    · rfl
  rw [← hsame]
  exact List.filter_sublist.map _

/-- What a task is at, its `body`, does not matter for whether it is running. -/
@[simp] theorem running_updateTask_body (c : Client) (generation : Nat) (f : TaskBody → TaskBody) :
    (c.updateTask generation fun t => { t with body := f t.body }).running = c.running := by
  rw [updateTask, running_filter_isGone]
  simp only [running]
  induction c.tasks with
  | nil => rfl
  | cons t rest ih =>
    rw [List.map_cons]
    by_cases h : t.subscription.generation = generation <;> cases hdone : t.done <;>
      simp [h, hdone, ih]

/-- The end of a task takes its number out of `running`, and leaves all others where they were. -/
@[simp] theorem running_updateTask_done (c : Client) (generation : Nat) :
    (c.updateTask generation fun t => { t with done := true }).running =
      c.running.filter fun sub => sub.generation ≠ generation := by
  rw [updateTask, running_filter_isGone]
  simp only [running]
  induction c.tasks with
  | nil => rfl
  | cons t rest ih =>
    rw [List.map_cons]
    by_cases h : t.subscription.generation = generation <;> cases hdone : t.done <;>
      simp [h, hdone, ih]

/-- Who still runs after the end of a task is another one, with another number. -/
theorem mem_running_done {c : Client} {generation : Nat} {sub : Subscription} :
    sub ∈ (c.updateTask generation fun t => { t with done := true }).running ↔
      sub ∈ c.running ∧ sub.generation ≠ generation := by
  rw [running_updateTask_done, List.mem_filter, decide_eq_true_eq]

/-- A task that is started runs, behind all others. Events have none: then `body` is `none` and
nothing is appended. -/
theorem running_append (c : Client) (sub : Subscription) (body : Option TaskBody) :
    ({ c with tasks := c.tasks ++ (body.map fun body =>
      { subscription := sub, body : StreamTask }).toList } : Client).running =
      c.running ++ (body.map fun _ => sub).toList := by
  cases body with
  | none => simp [running]
  | some body => simp [running]

/-- Who runs after a start ran before, or is the one that was started, if there was a `body` for
it. -/
theorem mem_running_append {c : Client} {sub other : Subscription} {body : Option TaskBody} :
    other ∈ ({ c with tasks := c.tasks ++ (body.map fun body =>
      { subscription := sub, body : StreamTask }).toList } : Client).running ↔
      other ∈ c.running ∨ body.isSome ∧ other = sub := by
  rw [running_append, List.mem_append]
  cases body with
  | none => simp
  | some body => simp

/-- No more than one task is started; the form in which `Books.start` asks for it. -/
theorem sublist_singleton (sub : Subscription) (body : Option TaskBody) :
    (body.map fun _ => sub).toList.Sublist [sub] := by
  cases body with
  | none => exact List.nil_sublist _
  | some body => exact List.Sublist.refl _

end Client

/-- Events are fed by the hub, and by no task: `ofStream` has no body for them. -/
theorem TaskBody.ofStream_eq_none {limits : Limits} {stream : Stream} {interval : Option Int64}
    {now : Nat} (h : stream = .events) : TaskBody.ofStream limits stream interval now = none := by
  rw [h]
  rfl

/-! ### What the parts of a step do -/

namespace World

/-- A client has the number of its connection, by which `client?` finds it. -/
theorem id_of_client? {w : World} {conn : ConnId} {c : Client} (h : w.client? conn = some c) :
    c.id = conn := by
  simpa using List.find?_some h

section Parts

variable {w : World} {conn : ConnId} {c : Client}

/-- A client that is changed by `modify` is found changed, if `f` keeps its number. -/
theorem client?_modify (f : Client → Client) (keeps : ∀ c, (f c).id = c.id)
    (found : w.client? conn = some c) : (w.modify conn f).client? conn = some (f c) := by
  rw [client?_modify_self w f keeps, found, Option.map_some]

/-- What is done to the queue of `conn` is done to that of its client, if it is there. -/
theorem client?_updateOutbox_self (w : World) (conn : ConnId) (f : Outbox → Outbox) :
    (w.updateOutbox conn f).client? conn =
      (w.client? conn).map fun c => { c with outbox := f c.outbox } :=
  client?_modify_self w _ fun _ => rfl

/-- What is done to the queue of `conn` is done to no other client. -/
theorem client?_updateOutbox_of_ne (w : World) {conn other : ConnId} (f : Outbox → Outbox)
    (ne : other ≠ conn) : (w.updateOutbox conn f).client? other = w.client? other :=
  client?_modify_of_ne w _ ne fun _ => rfl

/-- What is done to the queues of some connections is done to each queue as often as the connection
is listed. The induction is on the list; a connection that stands first is done and counted. -/
theorem client?_updateOutboxes (w : World) (f : Outbox → Outbox) (conns : List ConnId)
    (conn : ConnId) :
    (conns.foldl (fun w conn => w.updateOutbox conn f) w).client? conn =
      (w.client? conn).map fun c => { c with outbox := f^[conns.count conn] c.outbox } := by
  induction conns generalizing w with
  | nil => simp
  | cons other rest ih =>
    rw [List.foldl_cons, ih]
    by_cases heq : other = conn
    · subst heq
      rw [client?_updateOutbox_self, Option.map_map, List.count_cons_self]
      rfl
    · rw [client?_updateOutbox_of_ne w f (Ne.symm heq), List.count_cons_of_ne heq]

theorem client?_connect (capacity : Nat) (absent : w.client? conn = none) :
    (w.connect conn capacity).client? conn =
      some { id := conn, outbox := { capacity := capacity } } := by
  have hnone : w.clients.find? (fun c => c.id = conn) = none := absent
  rw [connect, absent]
  simp [client?, List.find?_append, hnone]

/-- To `connect` cancels nothing. -/
@[simp] theorem isCancelled_connect (w : World) (conn : ConnId) (capacity : Nat) (t : Token) :
    (w.connect conn capacity).isCancelled t = w.isCancelled t := by
  unfold connect
  split <;> rfl

/-- A session that gives up a subscription with `stop` does not hold it any more. -/
theorem client?_stop (sub : Subscription) (found : w.client? conn = some c) :
    (w.stop conn sub).client? conn =
      some { c with session := c.session.erase sub.stream } := by
  have hmodify := client?_modify (w := w.cancel (subscriptionToken conn sub.generation))
    (fun c => { c with session := c.session.erase sub.stream }) (fun _ => rfl) found
  unfold stop
  split <;> exact hmodify

/-- What `stop` cancels is the token of the subscription, and what is below it. -/
@[simp] theorem isCancelled_stop (w : World) (conn : ConnId) (sub : Subscription) (t : Token) :
    (w.stop conn sub).isCancelled t =
      (t.isWithin (subscriptionToken conn sub.generation) || w.isCancelled t) := by
  unfold stop
  split <;> rfl

/-- The hub hears of a `stop` if the stream is that to events. -/
@[simp] theorem hub_stop (w : World) (conn : ConnId) (sub : Subscription) :
    (w.stop conn sub).hub =
      if sub.stream = .events then w.hub.unsubscribe conn else w.hub := by
  unfold stop
  split <;> rfl

/-- What sessions may use stays what it was: `stop` leaves `services` alone. -/
@[simp] theorem services_stop (w : World) (conn : ConnId) (sub : Subscription) :
    (w.stop conn sub).services = w.services := by
  unfold stop
  split <;> rfl

/-- A session that starts a stream holds it, and has its task unless it is that to events. Both get
the number `nextGeneration`. -/
theorem client?_start {session : Session} {stream : Stream} {interval : Option Int64} {now : Nat}
    (found : w.client? conn = some c) :
    (w.start conn session stream interval now).client? conn =
      some { c with
        session := c.session.insert stream
        tasks := c.tasks ++
          ((TaskBody.ofStream w.services.limits stream interval now).map fun body =>
            { subscription := ⟨stream, session.nextGeneration⟩, body : StreamTask }).toList } := by
  unfold start
  split <;> exact client?_modify _ (fun _ => rfl) found

/-- To `start` a stream cancels nothing. -/
@[simp] theorem isCancelled_start (w : World) (conn : ConnId) (session : Session)
    (stream : Stream) (interval : Option Int64) (now : Nat) (t : Token) :
    (w.start conn session stream interval now).isCancelled t = w.isCancelled t := by
  unfold start
  split <;> rfl

/-- The hub hears of a `start` if the stream is that to events, under the token that the
subscription has. -/
@[simp] theorem hub_start (w : World) (conn : ConnId) (session : Session) (stream : Stream)
    (interval : Option Int64) (now : Nat) :
    (w.start conn session stream interval now).hub =
      if stream = .events then
        w.hub.subscribe conn (subscriptionToken conn session.nextGeneration)
      else w.hub := by
  unfold start
  split <;> rfl

@[simp] theorem services_start (w : World) (conn : ConnId) (session : Session)
    (stream : Stream) (interval : Option Int64) (now : Nat) :
    (w.start conn session stream interval now).services = w.services := by
  unfold start
  split <;> rfl

/-- An end that waits is taken off by an idle session, and with it the subscription, if it is that
one: `Session.retire` compares the numbers. -/
theorem retire_eq {ended : Subscription} (found : w.client? conn = some c) (idle : c.isIdle)
    (waiting : ended ∈ c.ended) :
    w.retire conn ended = w.modify conn fun c =>
      { c with session := c.session.retire ended, ended := c.ended.erase ended } := by
  rw [retire, found]
  exact if_pos ⟨idle, waiting⟩

/-- A session that is closed holds what it held: only `closed` changes in its record. -/
theorem client?_close (found : w.client? conn = some c) (idle : c.isIdle) :
    (w.close conn).client? conn = some { c with closed := true } := by
  have hmodify := client?_modify (w := w.cancel (sessionToken conn))
    (fun c => { c with closed := true }) (fun _ => rfl) found
  unfold close
  rw [found]
  simp only [if_pos idle]
  split <;> exact hmodify

/-- What `close` cancels is the token of the session, and what is below it. -/
theorem isCancelled_close (found : w.client? conn = some c) (idle : c.isIdle) (t : Token) :
    (w.close conn).isCancelled t = (t.isWithin (sessionToken conn) || w.isCancelled t) := by
  unfold close
  rw [found]
  simp only [if_pos idle]
  split <;> rfl

/-- The hub hears of a `close` if the session was subscribed to events. -/
theorem hub_close (found : w.client? conn = some c) (idle : c.isIdle) :
    (w.close conn).hub =
      if c.session.has .events then w.hub.unsubscribe conn else w.hub := by
  unfold close
  rw [found]
  simp only [if_pos idle]
  split <;> rfl

@[simp] theorem services_close (w : World) (conn : ConnId) :
    (w.close conn).services = w.services := by
  unfold close
  split
  · rfl
  · split
    · dsimp only
      split <;> rfl
    · rfl

/-- A task that ends is reported to its session: it stands in `ended` until the session retires
it. -/
theorem client?_finish (t : StreamTask) (found : w.client? conn = some c) :
    (w.finish conn t).client? conn =
      some { c.updateTask t.subscription.generation fun t => { t with done := true } with
        ended := c.ended ++ [t.subscription] } :=
  client?_modify (w := w.cancel (readerToken conn t.subscription.generation)) _ (fun _ => rfl) found

/-- What `finish` cancels is the token of the reader that fed the task. -/
@[simp] theorem isCancelled_finish (w : World) (conn : ConnId) (t : StreamTask) (other : Token) :
    (w.finish conn t).isCancelled other =
      (other.isWithin (readerToken conn t.subscription.generation) || w.isCancelled other) := rfl

/-- A task that breaks down is not reported: nothing is added to `ended`. -/
theorem client?_breakDown (t : StreamTask) (found : w.client? conn = some c) :
    (w.breakDown conn t).client? conn =
      some (c.updateTask t.subscription.generation fun t => { t with done := true }) :=
  client?_modify (w := w.cancel (readerToken conn t.subscription.generation)) _ (fun _ => rfl) found

@[simp] theorem isCancelled_breakDown (w : World) (conn : ConnId) (t : StreamTask)
    (other : Token) :
    (w.breakDown conn t).isCancelled other =
      (other.isWithin (readerToken conn t.subscription.generation) || w.isCancelled other) := rfl

end Parts

/-! ### Other connections -/

/-- Nothing of what belongs to a connection differs: neither its client nor which of its tokens are
cancelled, nor whether the agent shuts down. The hub is left out, as sessions write to it and do not
read it. -/
structure SameAt (conn : ConnId) (w w' : World) : Prop where
  client : w'.client? conn = w.client? conn
  token : ∀ t : Token, t.isWithin (sessionToken conn) = true → w'.isCancelled t = w.isCancelled t
  root : w'.isCancelled .root = w.isCancelled .root

namespace SameAt

variable {w w' w'' : World} {conn other : ConnId}

/-- What leaves a connection alone twice does so: `SameAt` is transitive. -/
theorem trans (h : SameAt conn w w') (h' : SameAt conn w' w'') : SameAt conn w w'' where
  client := h'.client.trans h.client
  token t ht := (h'.token t ht).trans (h.token t ht)
  root := h'.root.trans h.root

/-- A change of the hub is none at any connection, as `SameAt` speaks of clients and tokens. -/
theorem hub (w : World) (hub : Hub) : SameAt conn w { w with hub := hub } :=
  ⟨rfl, fun _ _ => rfl, rfl⟩

/-- A change of another client, made by `modify`, is none at this connection. -/
theorem modify (w : World) (f : Client → Client) (keeps : ∀ c, (f c).id = c.id)
    (ne : conn ≠ other) : SameAt conn w (w.modify other f) :=
  ⟨client?_modify_of_ne w f ne keeps, fun _ _ => rfl, rfl⟩

/-- A token below another session is below neither this one nor the agent's, so to cancel it is no
change here (`Token.session_unique`). -/
theorem cancel (w : World) {t : Token} (h : t.isWithin (sessionToken other) = true)
    (ne : conn ≠ other) : SameAt conn w (w.cancel t) := by
  refine ⟨rfl, fun t' ht' => ?_, ?_⟩
  · -- a token below both would be below two sessions
    have hfalse : t'.isWithin t = false := by
      rw [Bool.eq_false_iff]
      exact fun hwithin => ne (Token.session_unique ht' (Token.isWithin_trans hwithin h))
    rw [isCancelled_cancel, hfalse, Bool.false_or]
  · -- and the token of the agent is below no session
    have hfalse : Token.root.isWithin t = false := by
      rw [Bool.eq_false_iff]
      intro hwithin
      have := Token.isWithin_trans hwithin h
      rw [root_isWithin_session] at this
      cases this
    rw [isCancelled_cancel, hfalse, Bool.false_or]

theorem connect (w : World) (capacity : Nat) (ne : conn ≠ other) :
    SameAt conn w (w.connect other capacity) := by
  unfold World.connect
  split
  · exact ⟨rfl, fun _ _ => rfl, rfl⟩
  · -- the new client comes last, and another is looked for
    refine ⟨?_, fun _ _ => rfl, rfl⟩
    simp [client?, List.find?_append, ne.symm]

theorem stop (w : World) (sub : Subscription) (ne : conn ≠ other) :
    SameAt conn w (w.stop other sub) := by
  have hcancel := SameAt.cancel w (subscription_isWithin_session other sub.generation) ne
  -- The registration, if the stream is that to events, does not belong to the connection.
  have herase := hcancel.trans
    (.modify _ (fun c => { c with session := c.session.erase sub.stream }) (fun _ => rfl) ne)
  unfold World.stop
  split
  · exact herase.trans (.hub _ _)
  · exact herase

theorem start (w : World) (session : Session) (stream : Stream) (interval : Option Int64)
    (now : Nat) (ne : conn ≠ other) :
    SameAt conn w (w.start other session stream interval now) := by
  have hmodify := SameAt.modify w (fun c => { c with
    session := c.session.insert stream
    tasks := c.tasks ++
      ((TaskBody.ofStream w.services.limits stream interval now).map fun body =>
        { subscription := ⟨stream, session.nextGeneration⟩, body : StreamTask }).toList })
    (fun _ => rfl) ne
  unfold World.start
  split
  · exact hmodify.trans (.hub _ _)
  · exact hmodify

theorem close (w : World) (ne : conn ≠ other) : SameAt conn w (w.close other) := by
  have hcancel := SameAt.cancel w (Token.isWithin_self (sessionToken other)) ne
  have hclosed := hcancel.trans (.modify _ (fun c => { c with closed := true }) (fun _ => rfl) ne)
  unfold World.close
  split
  · exact ⟨rfl, fun _ _ => rfl, rfl⟩
  · split
    · dsimp only
      split
      · exact hclosed.trans (.hub _ _)
      · exact hclosed
    · exact ⟨rfl, fun _ _ => rfl, rfl⟩

end SameAt

end World

end Lookout
