import Lookout.Proofs.Agent.Incident

/-!
# What becomes of a task in a moment

Whatever the agent, the other connections and the hub do in a moment, for a task that is there it
comes to its incident and nothing else: it is afterwards at what the incident brings it to, unless
nothing is left of it (`World.TaskTurn`). One that runs goes on running until it is cancelled, has
come to its end, or is ended from outside. And what it adds to the queue of its client when it goes
on is the message that it was waiting to send (`World.queueOf_proceed`).

* `World.TaskTurn`, `World.Starts` — what becomes of a task, and how it starts;
* `World.GoesOn` — what comes of it when a task goes on;
* `World.pass_task` — in every moment a task suffers its incident, or it starts.
-/

namespace Lookout.World

variable {w w' : World} {conn : ConnId} {generation number : Nat} {m : Moment} {c : Client}

/-! ### What becomes of a task -/

/-- **What becomes of a task in a moment.** `past` looks back, from what is left of the task to what
it was: nothing else can have been done to its body. `runs` looks forward, and names the three ways
in which a task that runs may stop. Together they let a course of incidents stand for the task. -/
structure TaskTurn (w w' : World) (conn : ConnId) (generation : Nat) (m : Moment) : Prop where
  /-- What is left of it is at what the incident brings it to. -/
  past : ∀ t', w'.task? conn generation = some t' → ∃ t, w.task? conn generation = some t ∧
    t'.subscription = t.subscription ∧
    t'.body = (w.incident? conn generation m).elim t.body t.body.undergo
  /-- If it runs it runs on, unless it is cancelled, has come to its end or is ended. -/
  runs : ∀ t, w.task? conn generation = some t → t.done = false →
    w.isCancelled (subscriptionToken conn generation) = false → t.body.isOver = false →
    m.isEndOf conn generation = false → ∃ t', w'.task? conn generation = some t' ∧ t'.done = false

/-- Nothing is done to the task, and the moment is nothing to it: the plainest `TaskTurn`. -/
theorem TaskTurn.of_same (task : w'.task? conn generation = w.task? conn generation)
    (nothing : w.incident? conn generation m = none) : TaskTurn w w' conn generation m := by
  refine ⟨fun t' ht' => ?_, fun t ht hdone _ _ _ => ⟨t, task.trans ht, hdone⟩⟩
  rw [task] at ht'
  refine ⟨t', ht', rfl, ?_⟩
  rw [nothing, Option.elim_none]

theorem TaskTurn.of_sameAt (same : SameAt conn w w') (other : m.task? ≠ some (conn, generation)) :
    TaskTurn w w' conn generation m := by
  refine .of_same ?_ (incident?_of_ne other)
  rw [task?, task?, same.client]

/-- Where the tasks of a connection are the same, each of them is, under every number. -/
theorem task?_congr (tasks : w'.tasksOf conn = w.tasksOf conn) :
    w'.task? conn generation = w.task? conn generation := by
  rw [task?_eq_find?, task?_eq_find?, tasks]

/-- Something is done to the tasks of a number. `other`, `body` and `runs` ask what it is to the
task: if the number is another one, nothing; if it is its own, what the incident says. All moments
that do anything to tasks are instances of this, by `of_body` or `of_done`. -/
theorem TaskTurn.of_update (found : w.client? conn = some c) (numbered : c.Numbered)
    {f : StreamTask → StreamTask} (keeps : ∀ t, (f t).subscription = t.subscription)
    (tasks : w'.tasksOf conn = (c.updateTask number f).tasks)
    (other : generation ≠ number → w.incident? conn generation m = none)
    (body : ∀ t, generation = number → c.task? generation = some t →
      (f t).body = (w.incident? conn generation m).elim t.body t.body.undergo)
    (runs : ∀ t, generation = number → c.task? generation = some t → t.done = false →
      w.isCancelled (subscriptionToken conn generation) = false → t.body.isOver = false →
      m.isEndOf conn generation = false → (f t).done = false) :
    TaskTurn w w' conn generation m := by
  have htask : w'.task? conn generation = ((c.task? generation).map fun t =>
      if generation = number then f t else t).filter fun t => !t.isGone := by
    rw [task?_eq_find?, tasks]
    exact Client.task?_updateTask numbered.nodup number generation keeps
  refine ⟨fun t' ht' => ?_, fun t ht hdone hlive hover hend => ?_⟩
  · rw [htask, Option.filter_eq_some_iff] at ht'
    obtain ⟨t, ht, rfl⟩ := Option.map_eq_some_iff.mp ht'.1
    refine ⟨t, (task?_of_client found generation).trans ht, ?_⟩
    by_cases heq : generation = number
    · rw [if_pos heq]
      exact ⟨keeps t, body t heq ht⟩
    · rw [if_neg heq, other heq]
      exact ⟨rfl, rfl⟩
  · rw [task?_of_client found] at ht
    -- A task that runs is not gone.
    have hruns : (if generation = number then f t else t).done = false := by
      split
      · next heq => exact runs t heq ht hdone hlive hover hend
      · exact hdone
    refine ⟨_, ?_, hruns⟩
    rw [htask, ht, Option.map_some, Option.filter_some, if_pos]
    rw [StreamTask.isGone, hruns, Bool.false_and, Bool.not_false]

/-- The task of a number goes on. Whether it has ended is not touched, so that it runs if it ran. -/
theorem TaskTurn.of_body (found : w.client? conn = some c) (numbered : c.Numbered)
    {f : TaskBody → TaskBody}
    (tasks : w'.tasksOf conn = (c.updateTask number fun t => { t with body := f t.body }).tasks)
    (other : generation ≠ number → w.incident? conn generation m = none)
    (body : ∀ t, generation = number → c.task? generation = some t →
      f t.body = (w.incident? conn generation m).elim t.body t.body.undergo) :
    TaskTurn w w' conn generation m :=
  .of_update (f := fun t => { t with body := f t.body }) found numbered (fun _ => rfl) tasks other
    body fun _ _ _ hdone _ _ _ => hdone

/-- The task of a number ends. To itself that is no incident; `ends` gives the reason for it. -/
theorem TaskTurn.of_done (found : w.client? conn = some c) (numbered : c.Numbered)
    (tasks : w'.tasksOf conn = (c.updateTask number fun t => { t with done := true }).tasks)
    (nothing : w.incident? conn generation m = none)
    (ends : ∀ t, generation = number → c.task? generation = some t →
      w.isCancelled (subscriptionToken conn generation) = true ∨ t.body.isOver = true ∨
        m.isEndOf conn generation = true) :
    TaskTurn w w' conn generation m := by
  refine .of_update (f := fun t => { t with done := true }) found numbered (fun _ => rfl) tasks
    (fun _ => nothing) (fun t _ _ => ?_) fun t heq ht _ hlive hover hend => ?_
  · rw [nothing, Option.elim_none]
  · rcases ends t heq ht with h | h | h
    · rw [hlive] at h
      cases h
    · rw [hover] at h
      cases h
    · rw [hend] at h
      cases h

/-- A task that goes on has another `body`, and none of the others has. -/
theorem tasksOf_updateBody (found : w.client? conn = some c) (number : Nat)
    (f : TaskBody → TaskBody) : (w.updateBody conn number f).tasksOf conn =
      (c.updateTask number fun t => { t with body := f t.body }).tasks :=
  tasksOf_of_client (client?_modify _ (fun _ => rfl) found)

theorem queueOf_updateBody (w : World) (conn : ConnId) (number : Nat) (f : TaskBody → TaskBody) :
    (w.updateBody conn number f).queueOf conn = w.queueOf conn := by
  rw [queueOf, queueOf, updateBody, client?_modify_self w
    (fun c => c.updateTask number fun t => { t with body := f t.body }) fun _ => rfl,
    Option.map_map]
  rfl

/-- A task that ends is `done`, and none of the others is touched. -/
theorem tasksOf_finish (found : w.client? conn = some c) (t : StreamTask) :
    (w.finish conn t).tasksOf conn =
      (c.updateTask t.subscription.generation fun t => { t with done := true }).tasks := by
  rw [tasksOf, client?_finish t found]
  rfl

/-- A task that breaks down is `done` as well: for the other tasks it makes no difference. -/
theorem tasksOf_breakDown (found : w.client? conn = some c) (t : StreamTask) :
    (w.breakDown conn t).tasksOf conn =
      (c.updateTask t.subscription.generation fun t => { t with done := true }).tasks :=
  tasksOf_of_client (client?_breakDown t found)

/-! ### What is about a task -/

/-- **What comes of it when a task goes on,** and what that is to the task. The option is the
incident and the last argument the world afterwards, so that this relation ties `incident?` to
`proceed`; both `proceed_task` and `queueOf_proceed` are by cases on it. -/
inductive GoesOn (w : World) (conn : ConnId) (now : Nat) (c : Client) (t : StreamTask) :
    Option Incident → World → Prop where
  /-- It has to wait, or has ended before. -/
  | rests : GoesOn w conn now c t none w
  /-- It ends, since it is cancelled or has come to its end. -/
  | ends (why : w.isCancelled (subscriptionToken conn t.subscription.generation) = true ∨
      t.body.isOver = true) : GoesOn w conn now c t none (w.finish conn t)
  | breaks (why : t.body.isOver = true) : GoesOn w conn now c t none (w.breakDown conn t)
  | turns : GoesOn w conn now c t (some (.turned now))
      (w.updateBody conn t.subscription.generation (·.turn now))
  /-- Its message is queued, or never will be. -/
  | sends {message : Envelope} {accepted : Bool} (outbox : Outbox)
    (wait : t.body.wait = .room message)
    (queue : outbox.queue = c.outbox.queue ++ if accepted then [message] else []) :
    GoesOn w conn now c t (some (.sent accepted))
      ((w.modify conn fun c => { c with outbox := outbox }).updateBody conn
        t.subscription.generation (·.sent accepted))

/-- A task that goes on does so in one of these ways. The cases are the questions that `proceed`
asks, one after the other: has it ended, is it cancelled, what does it wait for, is there room. -/
theorem proceed_goesOn (found : w.client? conn = some c) {t : StreamTask}
    (task : c.task? number = some t) (now : Nat) :
    GoesOn w conn now c t (w.incident? conn number (.happens (.act (.proceed conn number now))))
      (w.proceed conn number now) := by
  obtain rfl : t.subscription.generation = number := by simpa using List.find?_some task
  rw [(incident?_of_found found task).1 now]
  unfold proceed
  simp only [found, task, Option.bind_some, Option.map_some]
  cases hdone : t.done with
  | true => exact .rests
  | false =>
    cases hcancelled : w.isCancelled (subscriptionToken conn t.subscription.generation) with
    | true => exact .ends (Or.inl hcancelled)
    | false =>
      rw [Bool.not_false, Bool.true_and, if_pos rfl, TaskBody.goesOn?, if_neg Bool.false_ne_true,
        if_neg Bool.false_ne_true]
      -- Not cancelled, so it does what it waits for.
      cases hwait : t.body.wait with
      | finished => exact .ends (Or.inr (by rw [TaskBody.isOver, hwait]))
      | broken => exact .breaks (by rw [TaskBody.isOver, hwait])
      | turn => exact .turns
      | room message =>
        dsimp only
        rcases hsend : c.outbox.send false message with ⟨outbox, sending⟩
        cases sending with
        | waiting => exact .rests
        | queued =>
          rcases Outbox.send_cases hsend nofun with ⟨-, -, -, hpush⟩ | ⟨hnot, -⟩
          · exact .sends outbox hwait (by rw [hpush, Outbox.queue_push]; rfl)
          · exact absurd rfl hnot
        | failed e =>
          rcases Outbox.send_cases hsend nofun with ⟨hqueued, -⟩ | ⟨-, -, hsame⟩
          · cases hqueued
          · exact .sends outbox hwait (by rw [hsame]; exact (List.append_nil _).symm)
      | opened | portion | time | snapshot | sibling => exact .rests

/-- A turn is to each task of the connection what it is to the one whose turn it is, or nothing. -/
theorem proceed_task (found : w.client? conn = some c) (numbered : c.Numbered) (now : Nat) :
    TaskTurn w (w.proceed conn number now) conn generation
      (.happens (.act (.proceed conn number now))) := by
  have hother : generation ≠ number →
      w.incident? conn generation (.happens (.act (.proceed conn number now))) = none :=
    incident?_of_other rfl
  have hnothing : w.incident? conn number (.happens (.act (.proceed conn number now))) = none →
      w.incident? conn generation (.happens (.act (.proceed conn number now))) = none :=
    incident?_of_own rfl
  -- If there is no task of the number nothing goes on; if there is one, `proceed_goesOn` says how.
  cases task : c.task? number with
  | none =>
    have habsent : w.task? conn number = none := (task?_of_client found number).trans task
    rw [proceed, clientAndTask_of_absent habsent]
    exact .of_same rfl (hnothing (incident?_of_absent habsent _))
  | some t =>
    obtain rfl : t.subscription.generation = number := by simpa using List.find?_some task
    -- The task that is looked up is the one that goes on, if it is looked up by the same number.
    have hself : ∀ u, generation = t.subscription.generation → c.task? generation = some u →
        u = t := by
      rintro u rfl hu
      exact Option.some.inj (hu.symm.trans task)
    have hgoes := proceed_goesOn found task now
    generalize hincident : w.incident? conn t.subscription.generation
      (.happens (.act (.proceed conn t.subscription.generation now))) = incident at hgoes
    generalize w.proceed conn t.subscription.generation now = w' at hgoes ⊢
    cases hgoes with
    | rests => exact .of_same rfl (hnothing hincident)
    | ends why =>
      refine .of_done found numbered (tasksOf_finish found t) (hnothing hincident) ?_
      intro u heq hu
      rw [hself u heq hu, heq]
      exact why.imp_right Or.inl
    | breaks why =>
      refine .of_done found numbered (tasksOf_breakDown found t) (hnothing hincident) ?_
      intro u heq hu
      rw [hself u heq hu]
      exact Or.inr (Or.inl why)
    | turns =>
      refine .of_body found numbered (tasksOf_updateBody found _ _) hother ?_
      rintro u rfl -
      rw [hincident]
      rfl
    | sends outbox =>
      have found' := client?_modify (fun c => { c with outbox := outbox }) (fun _ => rfl) found
      refine .of_body found numbered (tasksOf_updateBody found' _ _) hother ?_
      rintro u rfl -
      rw [hincident]
      rfl

/-- The turn of a task is an action of its own: `proceed`, at some time `now`. -/
theorem Moment.eq_of_isTurnOf (h : m.isTurnOf conn generation = true) :
    ∃ now, m = .happens (.act (.proceed conn generation now)) := by
  unfold isTurnOf at h
  split at h
  · next other number now =>
    obtain ⟨rfl, rfl⟩ : other = conn ∧ number = generation := by simpa using h
    exact ⟨now, rfl⟩
  · cases h

/-- A message is queued, or is not, only when the task goes on. The other three kinds of moments
that are about a task are other incidents. -/
theorem incident?_ne_sent (w : World) (h : m.isTurnOf conn generation = false) (accepted : Bool) :
    w.incident? conn generation m ≠ some (.sent accepted) := by
  intro hsent
  cases htask : w.task? conn generation with
  | none =>
    rw [incident?_of_absent htask] at hsent
    cases hsent
  | some t =>
    obtain ⟨c, found, task⟩ := Option.bind_eq_some_iff.mp htask
    obtain ⟨-, htell, hread, hsupply⟩ := incident?_of_found found task
    -- Of the four moments that are about a task only its turn can be answered by the queue.
    by_cases about : m.task? = some (conn, generation)
    · unfold Moment.task? at about
      split at about <;> cases about
      · simp [Moment.isTurnOf] at h
      · rw [htell] at hsent
        split at hsent <;> cases hsent
      · rw [hread] at hsent
        split at hsent <;> cases hsent
      · rw [hsupply] at hsent
        split at hsent <;> cases hsent
    · rw [incident?_of_ne about] at hsent
      cases hsent

/-- No message is queued in any moment but the turn of the task, by `incident?_ne_sent`. -/
theorem message?_of_not_turn (w : World) (h : m.isTurnOf conn generation = false) :
    w.message? conn generation m = none := by
  rw [message?]
  cases w.task? conn generation with
  | none => rfl
  | some t =>
    rw [Option.bind_some]
    cases hincident : w.incident? conn generation m with
    | none => rfl
    | some i =>
      cases i with
      | sent accepted => exact absurd hincident (w.incident?_ne_sent h accepted)
      | told | turned | read | supplied | abandoned => rfl

/-- **What a task adds to the queue of its client when it goes on:** the message that it waited to
send, if that was queued. Of the five ways of `GoesOn` only `sends` touches the queue. -/
theorem queueOf_proceed (w : World) (conn : ConnId) (generation now : Nat) :
    (w.proceed conn generation now).queueOf conn =
      w.queueOf conn ++ (w.message? conn generation
        (.happens (.act (.proceed conn generation now)))).toList := by
  cases htask : w.task? conn generation with
  | none =>
    rw [proceed, clientAndTask_of_absent htask, message?, htask, Option.bind_none,
      Option.toList_none, List.append_nil]
  | some t =>
    obtain ⟨c, found, task⟩ := Option.bind_eq_some_iff.mp htask
    have hgoes := proceed_goesOn found task now
    rw [message?, htask, Option.bind_some]
    generalize w.incident? conn generation (.happens (.act (.proceed conn generation now))) =
      incident at hgoes ⊢
    generalize w.proceed conn generation now = w' at hgoes ⊢
    -- A message is queued in one of the five ways to go on, and there if it was accepted.
    cases hgoes with
    | rests => exact (List.append_nil _).symm
    | ends =>
      rw [queueOf_of_client found, queueOf_of_client (client?_finish t found)]
      exact (List.append_nil _).symm
    | breaks =>
      rw [queueOf_of_client found, queueOf_of_client (client?_breakDown t found)]
      exact (List.append_nil _).symm
    | turns =>
      rw [queueOf_updateBody]
      exact (List.append_nil _).symm
    | @sends message accepted outbox wait queue =>
      have found' := client?_modify (fun c => { c with outbox := outbox }) (fun _ => rfl) found
      rw [queueOf_of_client found, queueOf_updateBody, queueOf_of_client found', queue]
      rw [Option.bind_some]
      cases accepted with
      | false => rfl
      | true =>
        rw [TaskBody.message?, wait]
        rfl

/-- To be told something is an incident of a task that runs and is not cancelled, for each `Notice`
alike. -/
theorem tell_task (found : w.client? conn = some c) (numbered : c.Numbered) (notice : Notice) :
    TaskTurn w (w.tell conn number notice) conn generation
      (.happens (.act (.tell conn number notice))) := by
  have hother : generation ≠ number →
      w.incident? conn generation (.happens (.act (.tell conn number notice))) = none :=
    incident?_of_other rfl
  have hnothing : w.incident? conn number (.happens (.act (.tell conn number notice))) = none →
      w.incident? conn generation (.happens (.act (.tell conn number notice))) = none :=
    incident?_of_own rfl
  rw [tell, found, Option.bind_some]
  cases task : c.task? number with
  | none =>
    have habsent : w.task? conn number = none := (task?_of_client found number).trans task
    exact .of_same rfl (hnothing (incident?_of_absent habsent _))
  | some t =>
    -- A task that is done or cancelled is deaf to the notice, and is told nothing.
    have hincident := (incident?_of_found found task).2.1 notice
    dsimp only
    split
    · next hdeaf =>
      refine .of_same rfl (hnothing ?_)
      rw [hincident, if_neg]
      simpa [or_iff_not_imp_left] using hdeaf
    · next hdeaf =>
      refine .of_body found numbered (tasksOf_updateBody found _ _) hother ?_
      rintro u rfl -
      rw [hincident, if_pos (by simpa using hdeaf)]
      rfl

/-- A reader that goes on is an incident of its task, be it cancelled or not: it either reads or
gives up. -/
theorem read_task (found : w.client? conn = some c) (numbered : c.Numbered) :
    TaskTurn w (w.read conn number) conn generation (.happens (.act (.read conn number))) := by
  have hother : generation ≠ number →
      w.incident? conn generation (.happens (.act (.read conn number))) = none :=
    incident?_of_other rfl
  -- The reader is read or abandoned, by whether its token is cancelled.
  unfold read
  split
  · next hcancelled =>
    refine .of_body found numbered (tasksOf_updateBody found _ _) hother ?_
    rintro u rfl hu
    rw [(incident?_of_found found hu).2.2.1, if_pos hcancelled]
    rfl
  · next hlive =>
    refine .of_body found numbered (tasksOf_updateBody found _ _) hother ?_
    rintro u rfl hu
    rw [(incident?_of_found found hu).2.2.1, if_neg hlive]
    rfl

/-- A `Portion` is an incident of the task that it is for, unless the reader is cancelled. -/
theorem supply_task (found : w.client? conn = some c) (numbered : c.Numbered) (portion : Portion) :
    TaskTurn w (w.supply conn number portion) conn generation
      (.happens (.act (.supply conn number portion))) := by
  have hother : generation ≠ number →
      w.incident? conn generation (.happens (.act (.supply conn number portion))) = none :=
    incident?_of_other rfl
  -- A reader that is cancelled is given nothing any more.
  unfold supply
  split
  · next hcancelled =>
    refine .of_same rfl
      (incident?_of_own (m := .happens (.act (.supply conn number portion))) rfl ?_)
    cases task : c.task? number with
    | none => exact incident?_of_absent ((task?_of_client found number).trans task) _
    | some t => rw [(incident?_of_found found task).2.2.2, if_neg (by simp [hcancelled])]
  · next hlive =>
    refine .of_body found numbered (tasksOf_updateBody found _ _) hother ?_
    rintro u rfl hu
    rw [(incident?_of_found found hu).2.2.2, if_pos (by simpa using hlive)]
    rfl

/-- A task that is ended at any moment does not go on before, so the end is no incident of it. -/
theorem endTask_task (found : w.client? conn = some c) (numbered : c.Numbered) :
    TaskTurn w (w.endTask conn number) conn generation (.happens (.ends conn number)) := by
  have hnothing : w.incident? conn generation (.happens (.ends conn number)) = none :=
    incident?_of_ne nofun
  rw [endTask, found, Option.bind_some]
  split
  · exact .of_same rfl hnothing
  · next t task =>
    split
    · exact .of_same rfl hnothing
    · obtain rfl : t.subscription.generation = number := by simpa using List.find?_some task
      refine .of_done found numbered (tasksOf_finish found t) hnothing ?_
      rintro u rfl -
      exact Or.inr (Or.inr (by simp [Moment.isEndOf]))

/-! ### All moments -/

/-- **A task starts:** the session of a client sends its reply, and the stream that was granted has
a task, under the next number. `starts` gives the body that it begins with, from the limits and the
interval that was granted. -/
inductive Starts (w w' : World) (conn : ConnId) (generation : Nat) (m : Moment) : Prop where
  | intro {c : Client} {stream : Stream} {interval : Option Int64} {now : Nat} {body : TaskBody}
    (event : m = .happens (.act (.reply conn now))) (found : w.client? conn = some c)
    (next : generation = c.session.nextGeneration)
    (starts : TaskBody.ofStream w.services.limits stream interval now = some body)
    (task : w'.task? conn generation = some { subscription := ⟨stream, generation⟩, body })

/-- A reply that is sent starts a task, or is nothing to any. Which of the two is read off what the
pending reply has to `start`. -/
theorem reply_task (found : w.client? conn = some c) (numbered : c.Numbered) (now : Nat) :
    TaskTurn w (w.reply conn now) conn generation (.happens (.act (.reply conn now))) ∨
      Starts w (w.reply conn now) conn generation (.happens (.act (.reply conn now))) := by
  have hnothing : w.incident? conn generation (.happens (.act (.reply conn now))) = none :=
    incident?_of_ne nofun
  -- A reply starts one task at most, and leaves those that there are.
  unfold reply
  rw [found]
  dsimp only
  split
  · exact Or.inl (.of_same rfl hnothing)
  · next r _ =>
    split
    · exact Or.inl (.of_same rfl hnothing)
    · next outbox _ _ _ =>
      have hanswer : (w.modify conn fun c => { c with outbox := outbox, pending := none }).client?
          conn = some { c with outbox := outbox, pending := none } :=
        client?_modify _ (fun _ => rfl) found
      split
      · refine Or.inl (.of_same (task?_congr ?_) hnothing)
        rw [tasksOf_of_client hanswer, tasksOf_of_client found]
      · next stream interval _ =>
        have hstart := @client?_start _ _ _ c.session stream interval now hanswer
        rw [services_modify] at hstart
        have htask := task?_of_client hstart generation
        rw [Client.task?, List.find?_append] at htask
        -- The new task comes last, and only the next number finds it.
        cases starts : TaskBody.ofStream w.services.limits stream interval now with
        | none =>
          refine Or.inl (.of_same ?_ hnothing)
          rw [htask, starts, Option.map_none, Option.toList_none, List.find?_nil, Option.or_none,
            task?_of_client found, Client.task?]
        | some body =>
          rw [starts, Option.map_some, Option.toList_some, List.find?_singleton] at htask
          by_cases next : generation = c.session.nextGeneration
          · subst next
            have hnone : c.tasks.find? (fun t =>
                t.subscription.generation = c.session.nextGeneration) = none := by
              refine List.find?_eq_none.mpr fun t ht heq => ?_
              rw [decide_eq_true_eq] at heq
              exact Nat.ne_of_lt (numbered.lt _ (List.mem_map_of_mem ht)) heq
            refine Or.inr (.intro rfl found rfl starts ?_)
            rw [htask, hnone, Option.none_or, decide_eq_true rfl, if_pos rfl]
          · refine Or.inl (.of_same ?_ hnothing)
            rw [htask, decide_eq_false (Ne.symm next), if_neg Bool.false_ne_true, Option.or_none,
              task?_of_client found, Client.task?]

/-- What concerns the connection of the task. Four kinds of an `Action` are about tasks, one starts
them, and all others leave them alone. -/
theorem step_task (found : w.client? conn = some c) (numbered : c.Numbered) (a : Action)
    (about : a.conn? = some conn) :
    TaskTurn w (w.step a) conn generation (.happens (.act a)) ∨
      Starts w (w.step a) conn generation (.happens (.act a)) := by
  cases a <;> cases about
  case reply now => exact reply_task found numbered now
  case proceed number now => exact Or.inl (proceed_task found numbered now)
  case tell number notice => exact Or.inl (tell_task found numbered notice)
  case read number => exact Or.inl (read_task found numbered)
  case supply number portion => exact Or.inl (supply_task found numbered portion)
  -- The others leave all tasks alone.
  all_goals refine Or.inl (.of_same (task?_congr ?_) (incident?_of_ne nofun))
  case connect capacity => exact tasksOf_connect w conn conn capacity
  case frame bytes => exact tasksOf_handle w conn conn _
  case dispatch message => exact tasksOf_handle w conn conn _
  case retire ended => exact tasksOf_retire w conn conn ended
  case close => exact tasksOf_close w conn conn
  case arrive message => exact tasksOf_modify w conn conn (fun _ => rfl) fun _ => rfl
  case choose => exact tasksOf_choose w conn conn
  case take => exact tasksOf_updateOutbox w conn conn _
  case leave => exact tasksOf_updateOutbox w conn conn _

/-- **What becomes of a task in a moment:** it suffers its incident, or it starts. The number may be
one that no task has yet; then `TaskTurn` says that there is still none, unless the task starts. -/
theorem pass_task (numbered : ∀ c, w.client? conn = some c → c.Numbered) (m : Moment) :
    TaskTurn w (w.pass m) conn generation m ∨ Starts w (w.pass m) conn generation m := by
  cases found : w.client? conn with
  | none =>
    -- Nobody is there, or somebody comes who has no tasks.
    have habsent : w.task? conn generation = none := by rw [task?, found, Option.bind_none]
    refine Or.inl (.of_same ?_ (incident?_of_absent habsent m))
    rcases pass_absent found m with hnone | ⟨capacity, hnew⟩
    · rw [habsent, task?, hnone, Option.bind_none]
    · rw [habsent, task?_of_client hnew]
      rfl
  | some c =>
    cases m with
    | offers r event =>
      have hnothing : w.incident? conn generation (.offers r event) = none :=
        incident?_of_ne fun heq => by cases heq
      exact Or.inl (.of_same (task?_congr (tasksOf_offer w conn r event)) hnothing)
    | happens h =>
      cases h with
      | act a =>
        -- An action is about this connection, another one, or none; the last two have no incident
        -- here.
        cases about : a.conn? with
        | some other =>
          by_cases heq : other = conn
          · exact step_task found (numbered c found) a (by rw [about, heq])
          · have hsame := (step_changesAt w a about fun _ => trivial).sameAt (Ne.symm heq)
            refine Or.inl (.of_sameAt hsame fun htask => heq ?_)
            rw [Moment.conn?_of_task? htask, Option.some.injEq] at about
            exact about.symm
        | none =>
          refine Or.inl (.of_same (task?_congr ?_) (incident?_of_ne fun htask => ?_))
          · cases a with
            | publish event => exact tasksOf_publish w conn event
            | shutdown => rfl
            | _ => cases about
          · rw [Moment.conn?_of_task? htask] at about
            cases about
      | ends other number =>
        by_cases heq : other = conn
        · subst heq
          exact Or.inl (endTask_task found (numbered c found))
        · have hchanges : ChangesAt True other w (w.endTask other number) :=
            endTask_changes w other number
          refine Or.inl (.of_sameAt (hchanges.sameAt (Ne.symm heq)) fun htask => ?_)
          cases htask

end Lookout.World
