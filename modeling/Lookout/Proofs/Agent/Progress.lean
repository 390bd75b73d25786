import Lookout.Proofs.Agent.Course
import Lookout.Proofs.Agent.Reply
import Mathlib.Data.List.Induction

/-!
# Turns of a task

Nothing in the agent chooses who goes on next, and what a task gets done depends on two things that
are not its own: how often its turn comes, and whether there is room in the queue of its client
then. Given these it gets everything done. It is there to take its turn until it is cancelled, ended
or at its end (`Course.runs_of`), and a turn that finds room queues the message that the task waits
to send (`World.incident?_of_turn`).

* `World.hasRoom` — there is room for a message;
* `World.makesWay` — there is whenever it is the turn of a task.
-/

namespace Lookout

namespace World

variable {w : World} {conn : ConnId} {generation : Nat} {m : Moment}

/-- Whether the client of a connection listens and its queue has room. A queue whose reader is gone
has room by its length alone, so both are asked. -/
def hasRoom (w : World) (conn : ConnId) : Bool :=
  (w.client? conn).any fun c => c.outbox.isOpen && c.outbox.hasRoom

/-- Whether in some moments there is room whenever it is the turn of a task. -/
def makesWay (w : World) (conn : ConnId) (generation : Nat) : List Moment → Bool
  | [] => true
  | m :: rest =>
    (!m.isTurnOf conn generation || w.hasRoom conn) && (w.pass m).makesWay conn generation rest

/-- A task that waits for room queues its message when it is its turn (`isTurnOf`) and there is
room. The message is any: what the task sends next is a matter of its body, not of its turn. -/
theorem incident?_of_turn {t : StreamTask} (task : w.task? conn generation = some t)
    (runs : t.done = false) (live : w.isCancelled (subscriptionToken conn generation) = false)
    {message : Envelope} (wait : t.body.wait = .room message)
    (turn : m.isTurnOf conn generation = true) (room : w.hasRoom conn = true) :
    w.incident? conn generation m = some (.sent true) := by
  obtain ⟨now, rfl⟩ := Moment.eq_of_isTurnOf turn
  obtain ⟨c, found, task⟩ := Option.bind_eq_some_iff.mp task
  rw [hasRoom, found, Option.any_some, Bool.and_eq_true] at room
  -- The body asks the queue itself, with the same two conditions as `hasRoom`.
  have hgoes : t.body.goesOn? c.outbox now = some (.sent true) := by
    rw [TaskBody.goesOn?, wait]
    dsimp only
    rw [Outbox.send_eq_queued room.1 room.2]
    rfl
  rw [(incident?_of_found found task).1 now, runs, live, hgoes]
  rfl

end World

namespace Course

variable {services : Services} {conn : ConnId} {generation : Nat}

/-- **A task runs until it has come to its end,** unless it is cancelled or ended by others. The
induction is on the moments from the last one backwards, as `Course.of` puts the newest incident at
its end; so `unfinished` is asked of every front of the incidents and not of the last body only. -/
theorem runs_of {body : TaskBody} {moments : List World.Moment}
    (start : (of services conn generation moments).start = some body)
    (unended : ∀ m ∈ moments, m.isEndOf conn generation = false)
    (live : (of services conn generation moments).world.isCancelled
      (subscriptionToken conn generation) = false)
    (unfinished : ∀ incidents, incidents <+: (of services conn generation moments).incidents →
      (incidents.foldl TaskBody.undergo body).isOver = false) :
    ∃ t, (of services conn generation moments).world.task? conn generation = some t ∧
      t.done = false := by
  induction moments using List.reverseRecOn with
  | nil => cases start
  | append_singleton moments m ih =>
    have hlive := live_of_append live
    have hfits := fits_of services conn generation moments
    rw [of_concat] at start unfinished ⊢
    change ∃ t, ((of services conn generation moments).world.pass m).task? conn generation =
      some t ∧ t.done = false
    -- Either the task starts in the last moment, or it ran before and goes on by induction.
    cases before : (of services conn generation moments).start with
    | none =>
      -- The task was not there before, and there is one that starts now.
      have hidle := hfits.task
      rw [before, Option.elim_none] at hidle
      rw [note, before, Option.none_or, Option.map_eq_some_iff] at start
      obtain ⟨t, task, -⟩ := start
      rcases World.pass_task (fun _ => hfits.numbered) m with hturn | ⟨-, -, -, -, task'⟩
      · obtain ⟨t', ht', -⟩ := hturn.past t task
        rw [hidle.absent] at ht'
        cases ht'
      · exact ⟨_, task', rfl⟩
    | some body' =>
      obtain rfl : body' = body := by
        rw [note, before, Option.some_or] at start
        exact Option.some.inj start
      have hstarted := started_of before
      obtain ⟨t, task, hdone⟩ := ih before
        (fun m' hm' => unended m' (List.mem_append_left _ hm')) hlive
        fun incidents hfront => unfinished incidents (hfront.trans (List.prefix_append _ _))
      have hover : t.body.isOver = false := by
        rw [hstarted.task t task]
        exact unfinished _ (List.prefix_append _ _)
      exact (hstarted.taskTurn hfits.numbered m).runs t task hdone hlive hover
        (unended m (List.mem_append_right _ (List.mem_singleton_self m)))

end Course

end Lookout
