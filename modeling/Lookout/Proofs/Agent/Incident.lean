import Lookout.Proofs.Agent.Closing

/-!
# What a moment is to a task

A task is a small machine, but in the agent it goes on only when its turn comes, is told something
only while it runs, and shares its queue and its tokens with others. Of all that can happen in a
moment six things concern the machine itself. They are its incidents, and every moment is one of
them to the task or nothing at all (`World.incident?`).

* `Incident`, `TaskBody.undergo` — what can happen to a task, and what it is at then;
* `TaskBody.messages` — what is queued in some incidents;
* `World.incident?` — what a moment is to a task;
* `World.tasksOf` — the tasks of a connection, which most moments leave alone;
* `Client.task?_updateTask` — a task is found by its number, whatever was done to others.
-/

namespace Lookout

/-! ### Incidents -/

/-- **What can happen to a task.** The first three are turns of the task itself, the last three of
the reader that it may have beside it. A task that is cancelled or ended by others has no incident:
it hears nothing of it. -/
inductive Incident where
  /-- It is told something. -/
  | told (n : Notice)
  /-- It goes on without waiting. -/
  | turned (now : Nat)
  /-- Its message was queued, or never will be. -/
  | sent (accepted : Bool)
  /-- Its reader goes on by itself. -/
  | read
  /-- Its reader gets a portion of the byte stream. -/
  | supplied (p : Portion)
  /-- Its reader is cancelled. -/
  | abandoned

namespace TaskBody

/-- The task after an incident. Each incident is one of the functions that a `World` applies to a
body, so a course of incidents needs no world to be replayed. -/
def undergo (body : TaskBody) : Incident → TaskBody
  | .told n => body.resume n
  | .turned now => body.turn now
  | .sent accepted => body.sent accepted
  | .read => body.readerStep
  | .supplied p => body.readerArrived p
  | .abandoned => body.readerCancelled

/-- The message that is queued in an incident: the one that the task waited to send, if it was
accepted. -/
def message? (body : TaskBody) : Incident → Option Envelope
  | .sent true =>
    match body.wait with
    | .room message => some message
    | _ => none
  | _ => none

/-- The messages that are queued in some incidents, one after the other. Each is read off what the
task is at when it happens, not off what it started as. -/
def messages (body : TaskBody) : List Incident → List Envelope
  | [] => []
  | i :: rest => (body.message? i).toList ++ (body.undergo i).messages rest

/-- Later messages are those of what the earlier incidents have made of the task, by `undergo`. -/
theorem messages_append (body : TaskBody) (incidents later : List Incident) :
    body.messages (incidents ++ later) =
      body.messages incidents ++ (incidents.foldl undergo body).messages later := by
  induction incidents generalizing body with
  | nil => rfl
  | cons i rest ih => simp only [List.cons_append, messages, ih, List.append_assoc,
      List.foldl_cons]

/-- A task that has come to its end for good has no messages. The hypothesis is about all further
incidents, as only then it passes to what is left after the first of them. -/
theorem messages_of_finished {body : TaskBody}
    (finished : ∀ incidents : List Incident, (incidents.foldl undergo body).wait = .finished)
    (incidents : List Incident) : body.messages incidents = [] := by
  induction incidents generalizing body with
  | nil => rfl
  | cons i rest ih =>
    have hwait : body.wait = .finished := finished []
    have hnone : body.message? i = none := by
      cases i with
      | sent accepted => cases accepted <;> simp only [message?, hwait]
      | told | turned | read | supplied | abandoned => rfl
    rw [messages, hnone]
    exact ih fun more => finished (i :: more)

/-- What it means for a task that is not cancelled to go on. A message that finds no room is no
incident: the task still waits to send it. One that is refused is: the task is told that it was not
accepted. -/
def goesOn? (body : TaskBody) (outbox : Outbox) (now : Nat) : Option Incident :=
  match body.wait with
  | .turn => some (.turned now)
  | .room message =>
    match (outbox.send false message).2 with
    | .waiting => none
    | sending => some (.sent (sending = .queued))
  | _ => none

/-- Whether a task that goes on ends. Such a turn is no incident, but the end of the task. -/
def isOver (body : TaskBody) : Bool :=
  match body.wait with
  | .finished | .broken => true
  | _ => false

end TaskBody

namespace World

/-! ### What a moment is to a task -/

/-- The task of a connection that has a number. -/
def task? (w : World) (conn : ConnId) (generation : Nat) : Option StreamTask :=
  (w.client? conn).bind (·.task? generation)

/-- The messages in the queue of a client, oldest first; none where there is no client. -/
def queueOf (w : World) (conn : ConnId) : List Envelope :=
  ((w.client? conn).map (·.outbox.queue)).getD []

/-- What is queued for a client that is found is its `outbox`; for nobody it would be empty. -/
theorem queueOf_of_client {w : World} {conn : ConnId} {c : Client}
    (found : w.client? conn = some c) : w.queueOf conn = c.outbox.queue := by
  rw [queueOf, found]
  rfl

/-- Whether it is the turn of a task. -/
def Moment.isTurnOf (conn : ConnId) (generation : Nat) : Moment → Bool
  | .happens (.act (.proceed other number _)) => other = conn && number = generation
  | _ => false

/-- Whether a task ends at any moment, whatever it is at. -/
def Moment.isEndOf (conn : ConnId) (generation : Nat) : Moment → Bool
  | .happens (.ends other number) => other = conn && number = generation
  | _ => false

/-- **What a moment is to a task.** Most are nothing to it. Four kinds of moments are about a task,
and each of them has its guard here: a turn and a notice come only to a task that runs and is not
cancelled, a portion only to a reader that is not, and a reader that is cancelled is told so. -/
def incident? (w : World) (conn : ConnId) (generation : Nat) (m : Moment) : Option Incident :=
  match (w.client? conn).bind fun c => (c.task? generation).map fun t => (c, t) with
  | none => none
  | some (c, t) =>
    let runs := !t.done && !w.isCancelled (subscriptionToken conn generation)
    match m with
    | .happens (.act (.proceed other number now)) =>
      if other = conn ∧ number = generation ∧ runs then t.body.goesOn? c.outbox now else none
    | .happens (.act (.tell other number notice)) =>
      if other = conn ∧ number = generation ∧ runs then some (.told notice) else none
    | .happens (.act (.read other number)) =>
      if other = conn ∧ number = generation then
        some (if w.isCancelled (readerToken conn generation) then .abandoned else .read)
      else none
    | .happens (.act (.supply other number portion)) =>
      if other = conn ∧ number = generation ∧ w.isCancelled (readerToken conn generation) = false
      then some (.supplied portion) else none
    | _ => none

/-- The message of a task that is queued in a moment, which is that of the incident that the moment
is. -/
def message? (w : World) (conn : ConnId) (generation : Nat) (m : Moment) : Option Envelope :=
  (w.task? conn generation).bind fun t => (w.incident? conn generation m).bind t.body.message?

/-! ### The tasks of a client -/

/-- The tasks of a connection; one without a client has none. -/
def tasksOf (w : World) (conn : ConnId) : List StreamTask :=
  ((w.client? conn).map (·.tasks)).getD []

/-- A task is the first of its number among those of the connection, be the client there or not. -/
theorem task?_eq_find? (w : World) (conn : ConnId) (generation : Nat) :
    w.task? conn generation =
      (w.tasksOf conn).find? fun t => t.subscription.generation = generation := by
  rw [task?, tasksOf]
  cases w.client? conn <;> rfl

/-- A task of a connection is one of the client that `client?` finds. -/
theorem task?_of_client {w : World} {conn : ConnId} {c : Client} (found : w.client? conn = some c)
    (generation : Nat) : w.task? conn generation = c.task? generation := by
  rw [task?, found, Option.bind_some]

/-- The tasks of a connection are those of the client that `client?` finds. -/
theorem tasksOf_of_client {w : World} {conn : ConnId} {c : Client}
    (found : w.client? conn = some c) : w.tasksOf conn = c.tasks := by
  rw [tasksOf, found]
  rfl

section Tasks

variable (w : World) (conn other : ConnId)

/-- A change of a client that spares its tasks spares those of all connections. The lemmas below are
this one at each operation of the agent that starts and ends no task. -/
theorem tasksOf_modify {f : Client → Client} (id : ∀ c, (f c).id = c.id)
    (tasks : ∀ c, (f c).tasks = c.tasks) : (w.modify other f).tasksOf conn = w.tasksOf conn := by
  rw [tasksOf, tasksOf]
  by_cases h : conn = other
  · subst h
    rw [client?_modify_self w f id, Option.map_map]
    congr 2
    funext c
    exact tasks c
  · rw [client?_modify_of_ne w f h id]

@[simp] theorem tasksOf_updateOutbox (f : Outbox → Outbox) :
    (w.updateOutbox other f).tasksOf conn = w.tasksOf conn :=
  tasksOf_modify w conn other (fun _ => rfl) fun _ => rfl

/-- A subscription that is given up leaves its task to end by itself, as its token is cancelled. -/
@[simp] theorem tasksOf_stop (sub : Subscription) :
    (w.stop other sub).tasksOf conn = w.tasksOf conn := by
  have hmodify := tasksOf_modify (w.cancel (subscriptionToken other sub.generation)) conn other
    (f := fun c => { c with session := c.session.erase sub.stream }) (fun _ => rfl) fun _ => rfl
  unfold stop
  split <;> exact hmodify

/-- A frame that is handled starts no task yet: that is left to `World.reply`. -/
@[simp] theorem tasksOf_handle (decide : Session → Verdict × Option String) :
    (w.handle other decide).tasksOf conn = w.tasksOf conn := by
  have hpending : ∀ (w : World) (r : PendingReply),
      (w.modify other fun c => { c with pending := some r }).tasksOf conn = w.tasksOf conn :=
    fun w r => tasksOf_modify w conn other (fun _ => rfl) fun _ => rfl
  unfold handle
  split
  · rfl
  · next c _ =>
    split
    · rcases decide c.session with ⟨verdict, id⟩
      -- All verdicts leave a reply that waits, and one of them also gives up a subscription.
      cases verdict with
      | pong
      | reject
      | start => exact hpending _ _
      | stop stream name =>
        dsimp only [carryOut]
        split
        · rw [hpending, tasksOf_stop]
        · exact hpending _ _
    · rfl

/-- A stream is retired when its task has ended, so `retire` ends none. -/
@[simp] theorem tasksOf_retire (ended : Subscription) :
    (w.retire other ended).tasksOf conn = w.tasksOf conn := by
  unfold retire
  split
  · rfl
  · split
    · exact tasksOf_modify w conn other (fun _ => rfl) fun _ => rfl
    · rfl

/-- A session that is closed leaves its tasks to end by themselves, as their tokens are
cancelled. -/
@[simp] theorem tasksOf_close : (w.close other).tasksOf conn = w.tasksOf conn := by
  have hmodify := tasksOf_modify (w.cancel (sessionToken other)) conn other
    (f := fun c => { c with closed := true }) (fun _ => rfl) fun _ => rfl
  unfold close
  split
  · rfl
  · split
    · dsimp only
      split <;> exact hmodify
    · rfl

/-- Whatever a session takes on next with `choose`, no task starts or ends in it. -/
@[simp] theorem tasksOf_choose : (w.choose other).tasksOf conn = w.tasksOf conn := by
  have hrest := tasksOf_modify w conn other (f := fun c => { c with inbox := c.inbox.tail })
    (fun _ => rfl) fun _ => rfl
  unfold choose
  split
  · rfl
  · split
    · dsimp only
      split
      · exact tasksOf_close w conn other
      · exact tasksOf_retire w conn other _
      · rw [tasksOf_handle, hrest]
      · exact hrest
      · rfl
    · rfl

@[simp] theorem tasksOf_connect (capacity : Nat) :
    (w.connect other capacity).tasksOf conn = w.tasksOf conn := by
  cases found : w.client? other with
  | some c => rw [connect, found]
  | none =>
    by_cases h : conn = other
    · subst h
      rw [tasksOf, tasksOf, client?_connect capacity found, found]
      rfl
    · rw [tasksOf, tasksOf, (SameAt.connect w capacity h).client]

/-- An `offer` is a matter of queues, and starts and ends no task. -/
@[simp] theorem tasksOf_offer (r : Registration) (event : DaemonEvent) :
    (w.offer r event).tasksOf conn = w.tasksOf conn := by
  unfold offer
  split
  · split
    · exact tasksOf_updateOutbox w conn r.conn _
    · rfl
  · rfl

/-- An event that is published is one offer after the other, so `tasksOf_offer` is enough. -/
@[simp] theorem tasksOf_publish (event : DaemonEvent) :
    (w.publish event).tasksOf conn = w.tasksOf conn := by
  rw [publish_eq_offers]
  generalize w.hub.registrations = registrations
  induction registrations generalizing w with
  | nil => rfl
  | cons r rest ih => rw [List.foldl_cons, ih, tasksOf_offer]

end Tasks

end World

/-- What is done to the tasks of a number is done to the task that is found by it; if nothing of it
is left, none is found. Without `nodup` a second task of the number would be found in its place. The
induction is on the tasks, and splits by whether the first has the number that is looked for. -/
theorem Client.task?_updateTask {c : Client}
    (nodup : ((c.tasks.map (·.subscription)).map (·.generation)).Nodup)
    (number generation : Nat) {f : StreamTask → StreamTask}
    (keeps : ∀ t, (f t).subscription = t.subscription) :
    (c.updateTask number f).task? generation =
      ((c.task? generation).map fun t => if generation = number then f t else t).filter
        fun t => !t.isGone := by
  rw [task?, task?, updateTask]
  dsimp only
  generalize c.tasks = tasks at nodup
  -- The induction is on the tasks. The task of the number is kept or filtered out, and as no other
  -- has its number, nothing else is found in its place.
  induction tasks with
  | nil => rfl
  | cons t rest ih =>
    rw [List.map_cons, List.map_cons, List.nodup_cons] at nodup
    have ih := ih nodup.2
    have hsub : (if t.subscription.generation = number then f t else t).subscription =
        t.subscription := by
      split
      · exact keeps t
      · rfl
    rw [List.map_cons, List.filter_cons, List.find?_cons]
    by_cases hnumber : t.subscription.generation = generation
    · -- no other task has the number, so none is found if this one is gone
      subst hnumber
      have hrest : rest.find? (fun other =>
          other.subscription.generation = t.subscription.generation) = none := by
        refine List.find?_eq_none.mpr fun other hother => ?_
        rw [decide_eq_true_eq]
        exact fun heq => nodup.1 (heq ▸ List.mem_map_of_mem (List.mem_map_of_mem hother))
      rw [hrest, Option.map_none, Option.filter_none] at ih
      rw [decide_eq_true rfl, Option.map_some, Option.filter_some]
      generalize (if t.subscription.generation = number then f t else t) = t' at hsub
      split
      · rw [List.find?_cons, hsub, decide_eq_true rfl]
      · exact ih
    · rw [decide_eq_false hnumber]
      generalize (if t.subscription.generation = number then f t else t) = t' at hsub
      split
      · rw [List.find?_cons, hsub, decide_eq_false hnumber]
        exact ih
      · exact ih

namespace World

variable {w w' : World} {conn : ConnId} {generation number : Nat} {m : Moment} {c : Client}

/-! ### Moments that are nothing to a task -/

/-- The task that a moment is about, if it is about one. That a connection has such a task is not
said. -/
def Moment.task? : Moment → Option (ConnId × Nat)
  | .happens (.act (.proceed conn generation _)) | .happens (.act (.tell conn generation _))
  | .happens (.act (.read conn generation)) | .happens (.act (.supply conn generation _)) =>
    some (conn, generation)
  | _ => none

/-- An action that is about a task is about its connection: `conn?` agrees with `task?`. -/
theorem Moment.conn?_of_task? {a : Action} (h : Moment.task? (.happens (.act a)) =
    some (conn, generation)) : a.conn? = some conn := by
  cases a <;> cases h <;> rfl

/-- What is looked for together is found together. `World.incident?` looks for client and task at
once, so that what it asks of them is asked in one place. -/
theorem clientAndTask_of_absent (absent : w.task? conn number = none) :
    ((w.client? conn).bind fun c => (c.task? number).map fun t => (c, t)) = none := by
  cases found : w.client? conn with
  | none => rfl
  | some c =>
    rw [task?_of_client found] at absent
    rw [Option.bind_some, absent, Option.map_none]

theorem incident?_of_absent (absent : w.task? conn generation = none) (m : Moment) :
    w.incident? conn generation m = none := by
  rw [incident?, clientAndTask_of_absent absent]

/-- A moment that is about another task, or about none, is nothing to this one; `Moment.task?` says
which task it is about. -/
theorem incident?_of_ne (other : m.task? ≠ some (conn, generation)) :
    w.incident? conn generation m = none := by
  unfold incident?
  split
  · rfl
  · dsimp only
    -- The first four kinds are about a task, though not about this one.
    split
    · exact if_neg fun h => other (by rw [Moment.task?, h.1, h.2.1])
    · exact if_neg fun h => other (by rw [Moment.task?, h.1, h.2.1])
    · exact if_neg fun h => other (by rw [Moment.task?, h.1, h.2])
    · exact if_neg fun h => other (by rw [Moment.task?, h.1, h.2.1])
    · rfl

theorem incident?_of_other (about : m.task? = some (conn, number)) (ne : generation ≠ number) :
    w.incident? conn generation m = none := by
  refine incident?_of_ne fun heq => ne ?_
  rw [about, Option.some.injEq, Prod.mk.injEq] at heq
  exact heq.2.symm

/-- What a moment is to the task that it is about decides: if it is nothing to that one, it is
nothing to any of the connection. -/
theorem incident?_of_own (about : m.task? = some (conn, number))
    (nothing : w.incident? conn number m = none) : w.incident? conn generation m = none := by
  by_cases heq : generation = number
  · rw [heq, nothing]
  · exact incident?_of_other about heq

/-- What a moment is to a task that is there, for each of the four kinds of moments that are about
it. All proofs about one moment go through these equations, and not through `incident?` itself. -/
theorem incident?_of_found (found : w.client? conn = some c) {t : StreamTask}
    (task : c.task? generation = some t) :
    (∀ now, w.incident? conn generation (.happens (.act (.proceed conn generation now))) =
      if (!t.done && !w.isCancelled (subscriptionToken conn generation)) = true then
        t.body.goesOn? c.outbox now
      else none) ∧
    (∀ notice, w.incident? conn generation (.happens (.act (.tell conn generation notice))) =
      if (!t.done && !w.isCancelled (subscriptionToken conn generation)) = true then
        some (.told notice)
      else none) ∧
    w.incident? conn generation (.happens (.act (.read conn generation))) =
      some (if w.isCancelled (readerToken conn generation) then .abandoned else .read) ∧
    ∀ portion, w.incident? conn generation (.happens (.act (.supply conn generation portion))) =
      if w.isCancelled (readerToken conn generation) = false then some (.supplied portion)
      else none := by
  simp only [incident?, found, task, Option.bind_some, Option.map_some, true_and, if_true,
    and_self, implies_true]

/-- Nothing happens to a task whose token is cancelled, but that its reader ends: a reader's token
is below that of its subscription, so it is told so whenever it would read. -/
theorem incident?_of_cancelled
    (cancelled : w.isCancelled (subscriptionToken conn generation) = true) (m : Moment) :
    w.incident? conn generation m = none ∨ w.incident? conn generation m = some .abandoned := by
  have hreader : w.isCancelled (readerToken conn generation) = true :=
    isCancelled_of_isWithin (reader_isWithin_subscription conn generation) cancelled
  cases htask : w.task? conn generation with
  | none => exact Or.inl (incident?_of_absent htask m)
  | some t =>
    obtain ⟨c, found, task⟩ := Option.bind_eq_some_iff.mp htask
    obtain ⟨hproceed, htell, hread, hsupply⟩ := incident?_of_found found task
    by_cases about : m.task? = some (conn, generation)
    · unfold Moment.task? at about
      -- In the order of `Moment.task?`: a turn, a notice, a reading, a portion.
      split at about <;> cases about
      · exact Or.inl (by rw [hproceed, cancelled, Bool.not_true, Bool.and_false]; rfl)
      · exact Or.inl (by rw [htell, cancelled, Bool.not_true, Bool.and_false]; rfl)
      · exact Or.inr (by rw [hread, if_pos hreader])
      · exact Or.inl (by rw [hsupply, hreader]; rfl)
    · exact Or.inl (incident?_of_ne about)

end World

end Lookout
