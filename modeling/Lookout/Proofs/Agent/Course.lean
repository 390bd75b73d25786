import Lookout.Proofs.Agent.TaskTurn

/-!
# The course of a task

The course of a task is what a history of the agent comes to for the task alone: what it started as,
what happened to it, one incident after the other, and which messages entered the queue of its
client when it went on. The incidents say it all: whatever is left of the task is at what they bring
it to, and its messages are those that it waited to send when they were taken (`Course.Fits`). So
what is true of a task after every list of incidents is true of it in every history of the agent.

Cancellation is the one thing that a task hears nothing of. Once its token is cancelled, it is the
course that ends: no incident but the end of the reader follows, and nothing is queued.

* `Course`, `Course.of` — the course of a task from the start of the agent on;
* `Course.Fits`, `Course.fits_of` — it tells what the task is at;
* `Course.foldl_of_cancelled` — it ends with the token of the task.
-/

namespace Lookout

/-! ### Numbers that were given out -/

/-- Numbers that were given out stay so: `nextGeneration` never goes back. Only `start` gives one
out. -/
theorem Client.Change.nextGeneration_le {services : Services} {broken : Prop} {c c' : Client}
    {cancels : Option Token} (h : c.Change services broken cancels c') :
    c.session.nextGeneration ≤ c'.session.nextGeneration := by
  cases h with
  | adjust same => exact Nat.le_of_eq (by rw [same.session])
  | start => exact Nat.le_succ _
  | decide | stop | answer | retire | close | finish | breakDown => exact Nat.le_refl _

namespace World

/-- A number was given out to the client of a connection. Clients do not go away and numbers are not
taken back, so this lasts (`Changes.given`). -/
def Given (w : World) (conn : ConnId) (generation : Nat) : Prop :=
  ∃ c, w.client? conn = some c ∧ generation < c.session.nextGeneration

variable {w w' : World} {conn : ConnId} {generation : Nat} {broken : Prop}

/-- A number that was `Given` stays so, in a change at its own connection as in one elsewhere. -/
theorem ChangeAt.given {other : ConnId} (h : ChangeAt broken w other w')
    (given : w.Given conn generation) : w'.Given conn generation := by
  obtain ⟨c, found, lt⟩ := given
  by_cases heq : conn = other
  · subst heq
    obtain ⟨_, c', hchange, found', -⟩ := h.client found
    exact ⟨c', found', Nat.lt_of_lt_of_le lt hchange.nextGeneration_le⟩
  · exact ⟨c, (h.sameAt heq).client.trans found, lt⟩

/-- A number that was `Given` stays so however many changes there are. -/
theorem Changes.given (h : Changes broken w w') (given : w.Given conn generation) :
    w'.Given conn generation := by
  induction h with
  | refl => exact given
  | tail _ last ih =>
    cases last with
    | «at» other h => exact h.given ih
    | shutdown => exact ih

/-- The number of a task was given out, which is `Client.Numbered.lt` for a task that is found. -/
theorem given_of_task? (numbered : ∀ c, w.client? conn = some c → c.Numbered) {t : StreamTask}
    (task : w.task? conn generation = some t) : w.Given conn generation := by
  obtain ⟨c, found, task⟩ := Option.bind_eq_some_iff.mp task
  have hmem := List.mem_map_of_mem (f := (·.subscription)) (List.mem_of_find?_eq_some task)
  have hnumber : t.subscription.generation = generation := by simpa using List.find?_some task
  exact ⟨c, found, hnumber ▸ (numbered c found).lt _ hmem⟩

end World

/-! ### Courses -/

/-- **The course of a task.** `world` is carried along so that a moment can be noted: whether a task
was there, what happened to it and what entered the queue are all read off the world before the
moment and the world after it. -/
structure Course where
  world : World
  /-- What the task started as. -/
  start : Option TaskBody := none
  /-- What happened to it, the first incident first. -/
  incidents : List Incident := []
  /-- What entered the queue of its client when it went on. -/
  queued : List Envelope := []

namespace Course

/-- The course after a moment: the incident is written down, and what is new in the queue if it was
the turn of the task. What enters the queue in other moments comes from the session or from other
tasks. `start` is noted once, by the first task of the number that is seen. -/
def note (conn : ConnId) (generation : Nat) (c : Course) (m : World.Moment) : Course :=
  let world := c.world.pass m
  { world
    start := c.start.or ((world.task? conn generation).map (·.body))
    incidents := c.incidents ++ (c.world.incident? conn generation m).toList
    queued := c.queued ++
      if m.isTurnOf conn generation then
        (world.queueOf conn).drop (c.world.queueOf conn).length
      else [] }

/-- The course of a task from the start of the agent on. -/
def of (services : Services) (conn : ConnId) (generation : Nat) (moments : List World.Moment) :
    Course :=
  moments.foldl (note conn generation) { world := { services := services } }

variable {services : Services} {conn : ConnId} {generation : Nat} {c : Course} {m : World.Moment}

/-- A course goes on where it was left: `Course.of` is a fold over the moments. -/
theorem of_append (moments later : List World.Moment) :
    of services conn generation (moments ++ later) =
      later.foldl (note conn generation) (of services conn generation moments) :=
  List.foldl_append

theorem of_concat (moments : List World.Moment) (m : World.Moment) :
    of services conn generation (moments ++ [m]) =
      (of services conn generation moments).note conn generation m := by
  rw [of_append, List.foldl_cons, List.foldl_nil]

/-- To follow a task changes nothing: the world of the course is that of the moments alone, as
`World.pass` makes it. -/
theorem world_foldl (c : Course) (moments : List World.Moment) :
    (moments.foldl (note conn generation) c).world = moments.foldl World.pass c.world :=
  (List.foldl_hom Course.world fun _ _ => rfl).symm

/-- **What is queued in a moment** is the message of the task. `note` reads it off the queues, and
`World.queueOf_proceed` says that a turn appends the message and nothing else. -/
theorem queued_note (c : Course) (m : World.Moment) :
    (c.note conn generation m).queued =
      c.queued ++ (c.world.message? conn generation m).toList := by
  rw [note]
  dsimp only
  cases turn : m.isTurnOf conn generation with
  | false => rw [c.world.message?_of_not_turn turn, if_neg Bool.false_ne_true, Option.toList_none]
  | true =>
    obtain ⟨now, rfl⟩ := World.Moment.eq_of_isTurnOf turn
    rw [if_pos rfl, World.pass, World.happen, World.step, World.queueOf_proceed, List.drop_left]

/-! ### What a course tells -/

/-- **Before a task starts** nothing happens to it and nothing is queued for it. -/
structure Idle (conn : ConnId) (generation : Nat) (c : Course) : Prop where
  absent : c.world.task? conn generation = none
  incidents : c.incidents = []
  queued : c.queued = []

/-- **From its start on** the course tells what a task is at. `task` is the point of it: the body of
the task is a fold over its incidents, and `queued` are the messages read off along that fold. That
`given` lasts is why the task of this number stays the same one. -/
structure Started (services : Services) (conn : ConnId) (generation : Nat) (c : Course)
    (body : TaskBody) : Prop where
  /-- It is the task of a stream that was granted. -/
  origin : ∃ stream interval now,
    TaskBody.ofStream services.limits stream interval now = some body
  /-- No task starts under its number any more. -/
  given : c.world.Given conn generation
  /-- Whatever is left of it is at what its incidents have brought it to. -/
  task : ∀ t, c.world.task? conn generation = some t →
    t.body = c.incidents.foldl TaskBody.undergo body
  queued : c.queued = body.messages c.incidents

/-- The course tells what the task is at, before its start and after it. `numbered` is about all
clients, as the lemmas about one moment ask for it. -/
structure Fits (services : Services) (conn : ConnId) (generation : Nat) (c : Course) : Prop where
  provided : c.world.services = services
  numbered : ∀ {other client}, c.world.client? other = some client → client.Numbered
  task : c.start.elim (c.Idle conn generation) (c.Started services conn generation)

/-- A moment in which the task starts, or does not yet. `t` is what is found under the number after
the moment, so that the lemma says both at once. -/
theorem Idle.note (h : c.Idle conn generation) (provided : c.world.services = services)
    (numbered : ∀ {other client}, c.world.client? other = some client → client.Numbered)
    (numbered' : ∀ {client}, (c.world.pass m).client? conn = some client → client.Numbered)
    {t : Option StreamTask} (task : (c.world.pass m).task? conn generation = t) :
    t.elim ((c.note conn generation m).Idle conn generation) fun t =>
      (c.note conn generation m).Started services conn generation t.body := by
  -- While there is no task, nothing happens to it and nothing is queued for it.
  have hincidents : (c.note conn generation m).incidents = [] := by
    change c.incidents ++ (c.world.incident? conn generation m).toList = []
    rw [h.incidents, World.incident?_of_absent h.absent]
    rfl
  have hqueued : (c.note conn generation m).queued = [] := by
    rw [queued_note, h.queued, World.message?, h.absent]
    rfl
  cases t with
  | none => exact ⟨task, hincidents, hqueued⟩
  | some t =>
    -- The task was not there before the moment, so it was started in it.
    rcases World.pass_task (fun _ => numbered) m with hturn | ⟨-, -, -, starts, task'⟩
    · -- what is left of a task was there before
      obtain ⟨t', ht', -⟩ := hturn.past t task
      rw [h.absent] at ht'
      cases ht'
    · obtain rfl := Option.some.inj (task'.symm.trans task)
      rw [provided] at starts
      refine ⟨⟨_, _, _, starts⟩, World.given_of_task? (fun _ => numbered') task,
        fun t' ht' => ?_, ?_⟩
      · obtain rfl := Option.some.inj (task.symm.trans ht')
        rw [hincidents]
        rfl
      · rw [hqueued, hincidents]
        rfl

/-- A task that has started does not start again, so every moment is a `TaskTurn` of it: a task
starts under the next number of its client, and this one was given out. -/
theorem Started.taskTurn {body : TaskBody} (h : c.Started services conn generation body)
    (numbered : ∀ {other client}, c.world.client? other = some client → client.Numbered)
    (m : World.Moment) : World.TaskTurn c.world (c.world.pass m) conn generation m := by
  rcases World.pass_task (fun _ => numbered) m with hturn | ⟨-, found, next, -, -⟩
  · exact hturn
  · -- its number was given out before
    obtain ⟨client, found', hlt⟩ := h.given
    obtain rfl := Option.some.inj (found.symm.trans found')
    exact absurd next (Nat.ne_of_lt hlt)

/-- A moment after it has started. If the moment has an incident, the body takes one more step and
the message that goes with it, if there is one, is queued. -/
theorem Started.note {body : TaskBody} (h : c.Started services conn generation body)
    (numbered : ∀ {other client}, c.world.client? other = some client → client.Numbered)
    (m : World.Moment) : (c.note conn generation m).Started services conn generation body where
  origin := h.origin
  given := (World.pass_changes c.world m).given h.given
  task t' ht' := by
    change t'.body = (c.incidents ++ (c.world.incident? conn generation m).toList).foldl _ body
    obtain ⟨t, ht, -, hbody⟩ := (h.taskTurn numbered m).past t' ht'
    rw [hbody, List.foldl_append, ← h.task t ht]
    cases c.world.incident? conn generation m <;> rfl
  queued := by
    change _ = body.messages (c.incidents ++ (c.world.incident? conn generation m).toList)
    rw [queued_note, h.queued]
    -- A task that was dropped has neither incidents nor messages any more.
    cases htask : c.world.task? conn generation with
    | none =>
      rw [World.message?, htask, World.incident?_of_absent htask, Option.bind_none,
        Option.toList_none, Option.toList_none, List.append_nil, List.append_nil]
    | some t =>
      rw [World.message?, htask, Option.bind_some, h.task t htask]
      cases c.world.incident? conn generation m with
      | none => rw [Option.bind_none, Option.toList_none, Option.toList_none, List.append_nil,
          List.append_nil]
      | some i =>
        rw [Option.bind_some, Option.toList_some, TaskBody.messages_append, TaskBody.messages,
          TaskBody.messages, List.append_nil]

/-- A moment keeps the course in step with the task, by `Idle.note` before its start and
`Started.note` after it. -/
theorem Fits.note (h : c.Fits services conn generation) (m : World.Moment) :
    (c.note conn generation m).Fits services conn generation := by
  have hchanges := World.pass_changes c.world m
  have hnumbered : ∀ {other client}, (c.world.pass m).client? other = some client →
      client.Numbered :=
    hchanges.clients (Client.lasting_numbered c.world.services True) h.numbered
  refine ⟨hchanges.services.trans h.provided, hnumbered, ?_⟩
  have htask := h.task
  change (c.start.or (((c.world.pass m).task? conn generation).map (·.body))).elim _ _
  -- By whether the task has been started: it may be in this moment, or it was before.
  cases start : c.start with
  | none =>
    rw [start, Option.elim_none] at htask
    have hnote := htask.note h.provided h.numbered hnumbered (m := m) rfl
    rw [Option.none_or]
    cases task : (c.world.pass m).task? conn generation <;> rwa [task] at hnote
  | some body =>
    rw [start, Option.elim_some] at htask
    rw [Option.some_or, Option.elim_some]
    exact htask.note h.numbered m

/-- **Whatever happens to the agent from its start on,** the course tells what the task is at. The
induction is on the moments; `hfoldl` is general in the course, since `Course.of` begins with an
empty one. -/
theorem fits_of (services : Services) (conn : ConnId) (generation : Nat)
    (moments : List World.Moment) :
    (of services conn generation moments).Fits services conn generation := by
  have hfoldl : ∀ c : Course, c.Fits services conn generation →
      (moments.foldl (Course.note conn generation) c).Fits services conn generation := by
    induction moments with
    | nil => exact fun c h => h
    | cons m rest ih => exact fun c h => ih _ (h.note m)
  exact hfoldl _ ⟨rfl, nofun, rfl, rfl, rfl⟩

/-- A task that has started is at what its course tells: `fits_of` with the case without a start
ruled out. -/
theorem started_of {body : TaskBody} {moments : List World.Moment}
    (start : (of services conn generation moments).start = some body) :
    (of services conn generation moments).Started services conn generation body := by
  have htask := (fits_of services conn generation moments).task
  rwa [start, Option.elim_some] at htask

/-! ### What a course keeps -/

/-- What happened to a task stays so: `note` appends to the incidents and takes none away. -/
theorem incidents_foldl (c : Course) (later : List World.Moment) :
    c.incidents <+: (later.foldl (note conn generation) c).incidents := by
  induction later generalizing c with
  | nil => exact List.prefix_refl _
  | cons m rest ih =>
    have hnote : c.incidents <+: (c.note conn generation m).incidents := List.prefix_append _ _
    exact hnote.trans (ih _)

/-- A token that is not cancelled was never, since cancellation lasts (`Changes.isCancelled`). -/
theorem live_of_append {t : Token} {moments later : List World.Moment}
    (live : (of services conn generation (moments ++ later)).world.isCancelled t = false) :
    (of services conn generation moments).world.isCancelled t = false := by
  rw [of_append, world_foldl] at live
  generalize (of services conn generation moments).world = w at live ⊢
  induction later generalizing w with
  | nil => exact live
  | cons m rest ih =>
    have hpass : (w.pass m).isCancelled t = false := ih _ live
    refine Bool.eq_false_iff.mpr fun hcancelled => ?_
    rw [(World.pass_changes w m).isCancelled hcancelled] at hpass
    cases hpass

/-- What was queued stays so in the field `queued` of the course; from the queue itself it may have
been taken. -/
theorem queued_foldl (c : Course) (later : List World.Moment) :
    c.queued <+: (later.foldl (note conn generation) c).queued := by
  induction later generalizing c with
  | nil => exact List.prefix_refl _
  | cons m rest ih =>
    have hnote : c.queued <+: (c.note conn generation m).queued := List.prefix_append _ _
    exact hnote.trans (ih _)

/-- A task starts once: what is noted as its `start` is not overwritten. -/
theorem start_foldl {body : TaskBody} (start : c.start = some body) (later : List World.Moment) :
    (later.foldl (note conn generation) c).start = some body := by
  induction later generalizing c with
  | nil => exact start
  | cons m rest ih =>
    refine ih ?_
    rw [note, start]
    rfl

/-- Once it has come to its end for good, a task queues nothing. `finished` speaks of all further
incidents, because a reader may still bring some to a task that is at its end. -/
theorem queued_of_finished {body : TaskBody} {moments : List World.Moment}
    (start : (of services conn generation moments).start = some body)
    (finished : ∀ incidents : List Incident,
      (((of services conn generation moments).incidents ++ incidents).foldl
        TaskBody.undergo body).wait = .finished) (later : List World.Moment) :
    (of services conn generation (moments ++ later)).queued =
      (of services conn generation moments).queued := by
  have hstart : (of services conn generation (moments ++ later)).start = some body := by
    rw [of_append]
    exact start_foldl start later
  obtain ⟨rest, hrest⟩ : (of services conn generation moments).incidents <+:
      (of services conn generation (moments ++ later)).incidents := by
    rw [of_append]
    exact incidents_foldl _ later
  -- A body that waits for nothing has no message to send.
  have hnone : ((of services conn generation moments).incidents.foldl
      TaskBody.undergo body).messages rest = [] := by
    refine TaskBody.messages_of_finished (fun more => ?_) rest
    rw [← List.foldl_append]
    exact finished more
  rw [(started_of hstart).queued, (started_of start).queued, ← hrest, TaskBody.messages_append,
    hnone, List.append_nil]

/-- **The course ends with the token of the task:** from then on nothing is queued, and no incident
follows but the end of its reader. Why the number `n` is not fixed: the reader may be told of its
cancellation in many moments, and each is an incident of its own that changes nothing any more. -/
theorem foldl_of_cancelled
    (cancelled : c.world.isCancelled (subscriptionToken conn generation) = true)
    (later : List World.Moment) :
    (later.foldl (note conn generation) c).queued = c.queued ∧
      ∃ n, (later.foldl (note conn generation) c).incidents =
        c.incidents ++ List.replicate n .abandoned := by
  induction later generalizing c with
  | nil => exact ⟨rfl, 0, (List.append_nil _).symm⟩
  | cons m rest ih =>
    obtain ⟨hqueued, n, hincidents⟩ := ih (c := c.note conn generation m)
      ((World.pass_changes c.world m).isCancelled cancelled)
    -- None, or that the reader was abandoned; neither has a message.
    have hincident := World.incident?_of_cancelled cancelled m
    refine ⟨hqueued.trans ?_, ?_⟩
    · rw [queued_note, World.message?]
      cases c.world.task? conn generation with
      | none => exact List.append_nil _
      | some t => rcases hincident with h | h <;> rw [h] <;> exact List.append_nil _
    · rw [List.foldl_cons, hincidents]
      change ∃ n', (c.incidents ++ (c.world.incident? conn generation m).toList) ++ _ = _
      rcases hincident with h | h
      · exact ⟨n, by rw [h, Option.toList_none, List.append_nil]⟩
      · exact ⟨n + 1, by rw [h, Option.toList_some, List.append_assoc, List.replicate_succ]; rfl⟩

end Course

end Lookout
