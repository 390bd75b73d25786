import Lookout.Proofs.Agent.Progress
import Lookout.Proofs.Task.Logbook

/-!
# What a client gets of the host's snapshots

The agent, its other connections and its hub go on beside a sampler, whose token may be cancelled
at any moment and whose client may be slow or gone. In all of these histories what enters its
client's queue is what its logbook says. The sampler does not end by itself: as long as it is
neither cancelled nor refused it is there to take its turn (`Course.samples_of`), and after either
nothing is written down any more (`Course.logbook_of_ended`).

A sampler without a time between its ticks is never started, so every sampler has one.

* `TaskBody.of_ofStream_metrics` — what a sampler starts as;
* `World.snapshots_history` — what a client gets in every history.
-/

namespace Lookout

/-- A task that samples the host waits for its first tick, and has a time between its ticks. -/
theorem TaskBody.of_ofStream_metrics {limits : Limits} {stream : Stream} {interval : Option Int64}
    {now : Nat} {sampler : MetricsSampler}
    (h : TaskBody.ofStream limits stream interval now = some (.metrics sampler)) :
    0 < limits.intervalMillis interval ∧
      sampler = .start now (limits.intervalMillis interval) := by
  cases stream with
  | metrics =>
    simp only [TaskBody.ofStream] at h
    split at h
    · cases h
    · next hperiod =>
      cases h
      exact ⟨Nat.pos_of_ne_zero hperiod, rfl⟩
  -- No other stream is a sampler's.
  | logs | events | containerStats => cases h

namespace Course

variable {services : Services} {conn : ConnId} {generation : Nat} {c : Course}
  {sampler : MetricsSampler} {m : World.Moment} {moments : List World.Moment}

/-- A sampler starts with the period that the limits give for the interval that was asked for. -/
theorem Started.sampler_eq (h : c.Started services conn generation (.metrics sampler)) :
    ∃ now interval, 0 < services.limits.intervalMillis interval ∧
      sampler = .start now (services.limits.intervalMillis interval) := by
  obtain ⟨stream, interval, now, hstream⟩ := h.origin
  obtain ⟨hperiod, hsampler⟩ := TaskBody.of_ofStream_metrics hstream
  exact ⟨now, interval, hperiod, hsampler⟩

/-- The `Logbook` of a sampler is sound, from the start on. -/
theorem Started.logbook (h : c.Started services conn generation (.metrics sampler)) :
    (Logbook.of sampler c.incidents).Sound := by
  obtain ⟨now, interval, -, rfl⟩ := h.sampler_eq
  exact Logbook.sound_of rfl c.incidents

/-- **What the client's queue got** from this subscription is what the `Logbook` says was queued. -/
theorem Started.queued_eq_logbook (h : c.Started services conn generation (.metrics sampler)) :
    c.queued = (Logbook.of sampler c.incidents).queued := by
  rw [h.queued, Logbook.of, Logbook.queued_foldl]
  rfl

theorem Started.body_eq_sampler (h : c.Started services conn generation (.metrics sampler))
    {t : StreamTask} (task : c.world.task? conn generation = some t) :
    t.body = .metrics (Logbook.of sampler c.incidents).sampler := by
  rw [h.task t task, TaskBody.foldl_undergo_metrics, Logbook.of, Logbook.sampler_foldl]

/-- A sampler that was not refused was never at its end, however far it had come. -/
theorem isOver_of_unrefused {incidents : List Incident}
    (sound : (Logbook.of sampler incidents).Sound)
    (unrefused : (Logbook.of sampler incidents).refused = none) {earlier : List Incident}
    (before : earlier <+: incidents) :
    (earlier.foldl TaskBody.undergo (.metrics sampler)).isOver = false := by
  obtain ⟨rest, rfl⟩ := before
  rw [Logbook.of_append] at sound unrefused
  have hsampler : (Logbook.of sampler earlier).sampler = earlier.foldl _ sampler :=
    Logbook.sampler_foldl { sampler } earlier
  rw [TaskBody.foldl_undergo_metrics, TaskBody.isOver, TaskBody.wait, ← hsampler]
  generalize Logbook.of sampler earlier = r at sound unrefused ⊢
  cases phase : r.sampler.phase with
  -- A sampler that has ended was refused a message, and stays so.
  | finished =>
    rw [Logbook.foldl_of_finished phase] at sound unrefused
    exact absurd unrefused (sound.finished.mp phase)
  | waiting | collecting | sending => rw [MetricsSampler.wait, phase]

/-- **A sampler samples** until it is cancelled, refused, or ended by others: by `runs_of`, its task
is still there. -/
theorem samples_of
    (started : (of services conn generation moments).start = some (.metrics sampler))
    (unended : ∀ m ∈ moments, m.isEndOf conn generation = false)
    (live : (of services conn generation moments).world.isCancelled
      (subscriptionToken conn generation) = false)
    (unrefused : (Logbook.of sampler
      (of services conn generation moments).incidents).refused = none) :
    ∃ t, (of services conn generation moments).world.task? conn generation = some t ∧
      t.done = false :=
  runs_of started unended live fun _ => isOver_of_unrefused (started_of started).logbook unrefused

/-- A turn that finds room queues the snapshot in hand, and nothing else. -/
theorem queued_of_inHand
    (started : (of services conn generation moments).start = some (.metrics sampler))
    (unended : ∀ m ∈ moments, m.isEndOf conn generation = false)
    (live : (of services conn generation moments).world.isCancelled
      (subscriptionToken conn generation) = false)
    {snapshot : HostMetrics} (inHand : (Logbook.of sampler
      (of services conn generation moments).incidents).sampler.inHand? = some snapshot)
    (turn : m.isTurnOf conn generation = true)
    (room : (of services conn generation moments).world.hasRoom conn = true) :
    (of services conn generation (moments ++ [m])).queued =
      (of services conn generation moments).queued ++ [snapshot.toMessage] := by
  have hstarted := started_of started
  have hphase := MetricsSampler.phase_of_inHand inHand
  -- A sampler with something in hand has not ended, so that its task goes on.
  have hunrefused := hstarted.logbook.unrefused (by rw [hphase]; nofun)
  obtain ⟨t, task, hdone⟩ := samples_of started unended live hunrefused
  have hwait : t.body.wait = .room snapshot.toMessage := by
    rw [hstarted.body_eq_sampler task, TaskBody.wait, MetricsSampler.wait, hphase]
  have hincident := World.incident?_of_turn task hdone live hwait turn room
  rw [of_concat, queued_note, World.message?, task, Option.bind_some, hincident, Option.bind_some,
    TaskBody.message?, hwait, Option.toList_some]

/-- **Once it is cancelled or refused** nothing becomes of a sampler any more: its `Logbook` stays
as it is. A cancelled one has no more incidents, and a refused one is at its end, where `note` does
nothing. -/
theorem logbook_of_ended
    (started : (of services conn generation moments).start = some (.metrics sampler))
    (ended : (of services conn generation moments).world.isCancelled
        (subscriptionToken conn generation) = true ∨
      (Logbook.of sampler (of services conn generation moments).incidents).refused ≠ none)
    (later : List World.Moment) :
    Logbook.of sampler (of services conn generation (moments ++ later)).incidents =
      Logbook.of sampler (of services conn generation moments).incidents := by
  rw [of_append]
  -- Either nothing but `abandoned` is told to it any more, or it has ended itself.
  rcases ended with hcancelled | hrefused
  · obtain ⟨-, n, hincidents⟩ := foldl_of_cancelled hcancelled later
    rw [hincidents, Logbook.of_append]
    exact Logbook.foldl_abandoned _ n
  · have hgrown : (of services conn generation moments).incidents <+:
        (later.foldl (note conn generation) (of services conn generation moments)).incidents :=
      incidents_foldl _ later
    obtain ⟨rest, hrest⟩ := hgrown
    rw [← hrest, Logbook.of_append]
    exact Logbook.foldl_of_finished ((started_of started).logbook.finished.mpr hrefused) rest

end Course

namespace World

/-- **What a client gets of the host's snapshots.** In every history, from the start of a sampler
on, it asks for a snapshot at each of its ticks and at no other time, and the ticks are `Paced` by
the interval. What is queued is told by its `Logbook`, which is `Sound`: the snapshots that it took,
each one of them once, in order, but the one in its hand or the one that was refused. What could not
be taken queues nothing and ends nothing: the sampler is there until it is cancelled, or refused,
and whatever it is answered there is a way on. After either nothing is asked for and nothing is
queued. Until then a turn that finds room queues the snapshot in hand. -/
theorem snapshots_history (services : Services) (conn : ConnId) (generation : Nat)
    (moments : List Moment) {sampler : MetricsSampler}
    (started : (Course.of services conn generation moments).start = some (.metrics sampler)) :
    let course := Course.of services conn generation moments
    let logbook := Logbook.of sampler course.incidents
    (∃ now interval, 0 < services.limits.intervalMillis interval ∧
        sampler = .start now (services.limits.intervalMillis interval) ∧
          logbook.Paced now (min (services.limits.intervalMillis interval) longestWait)) ∧
      (∀ t, course.world.task? conn generation = some t → t.body = .metrics logbook.sampler) ∧
      course.queued = logbook.queued ∧ logbook.Sound ∧
      (∀ f, logbook.sampler.isCollecting = true →
        let next := logbook.note (.told (.snapshot (.error f)))
        next.queued = logbook.queued ∧ next.sampler.phase = .waiting) ∧
      (logbook.sampler.phase = .waiting → ∀ outcomes, ∃ incidents,
        let next := Logbook.of sampler (course.incidents ++ incidents)
        next.sampler.phase = .waiting ∧ next.outcomes = logbook.outcomes ++ outcomes ∧
          next.accepted = logbook.accepted ++ outcomes.filterMap (·.toOption)) ∧
      ((∀ m ∈ moments, m.isEndOf conn generation = false) →
        course.world.isCancelled (subscriptionToken conn generation) = false →
        (logbook.refused = none →
          ∃ t, course.world.task? conn generation = some t ∧ t.done = false) ∧
        ∀ m snapshot, logbook.sampler.inHand? = some snapshot →
          m.isTurnOf conn generation = true → course.world.hasRoom conn = true →
          (Course.of services conn generation (moments ++ [m])).queued =
            course.queued ++ [snapshot.toMessage]) ∧
      (course.world.isCancelled (subscriptionToken conn generation) = true ∨
          logbook.refused ≠ none →
        ∀ later, let course' := Course.of services conn generation (moments ++ later)
          course'.queued = course.queued ∧ Logbook.of sampler course'.incidents = logbook) := by
  intro course logbook
  have hstarted := Course.started_of started
  refine ⟨?_, fun t => hstarted.body_eq_sampler, hstarted.queued_eq_logbook, hstarted.logbook, ?_,
    ?_, ?_, ?_⟩
  · obtain ⟨now, interval, hperiod, hsampler⟩ := hstarted.sampler_eq
    refine ⟨now, interval, hperiod, hsampler, ?_⟩
    rw [show logbook = Logbook.of sampler course.incidents from rfl, hsampler]
    exact Logbook.paced_of now _ course.incidents
  · intro f collecting next
    have hnext : next = _ := Logbook.note_error collecting f
    rw [hnext]
    exact ⟨rfl, rfl⟩
  · intro waiting outcomes
    obtain ⟨incidents, h⟩ := Logbook.exists_incidents waiting outcomes
    refine ⟨incidents, ?_⟩
    rw [Logbook.of_append]
    exact h
  · intro unended live
    exact ⟨Course.samples_of started unended live, fun m snapshot inHand turn room =>
      Course.queued_of_inHand started unended live inHand turn room⟩
  · intro ended later course'
    have hstart : course'.start = some (.metrics sampler) := by
      rw [show course' = _ from Course.of_append moments later]
      exact Course.start_foldl started later
    have hlogbook := Course.logbook_of_ended started ended later
    refine ⟨?_, hlogbook⟩
    rw [hstarted.queued_eq_logbook, ← hlogbook]
    exact (Course.started_of hstart).queued_eq_logbook

/-- A snapshot of an idle host. -/
def idleHost (uptime : UInt64) : HostMetrics :=
  ⟨"idle", uptime, ⟨0, 1, none⟩, ⟨0, 0, 0⟩, []⟩

/-- The first snapshot cannot be taken, the second one is queued, and the third one is asked for
early in vain. The agent is shut down when it is taken but not queued yet. -/
def threeRounds : List Moment :=
  let act := fun a => Moment.happens (.act a)
  let tell := fun n => act (.tell 0 0 n)
  [act (.connect 0 8), act (.dispatch 0 (.of .subscribe Stream.metrics.ack.toJson)),
    act (.reply 0 0), tell (.time 0), tell (.snapshot (.error (.metrics "no sensors"))),
    tell (.time 3000), tell (.snapshot (.ok (idleHost 3))), act (.proceed 0 0 3000),
    tell (.time 5999), tell (.time 6000), tell (.snapshot (.ok (idleHost 6))), act .shutdown]

/-- What comes too late. -/
def belated : List Moment :=
  let act := fun a => Moment.happens (.act a)
  [act (.proceed 0 0 6000), act (.tell 0 0 (.time 9000)),
    act (.tell 0 0 (.snapshot (.ok (idleHost 9)))), act (.proceed 0 0 9000)]

/-- Of the two snapshots that were taken one is queued, and it stays the only one. -/
theorem snapshots_threeRounds :
    let sampler := MetricsSampler.start 0 3000
    let course := Course.of {} 0 0 threeRounds
    let logbook := Logbook.of sampler course.incidents
    course.start = some (.metrics sampler) ∧
      course.world.isCancelled (subscriptionToken 0 0) = true ∧
      logbook.ticks = [0, 3000, 6000] ∧ logbook.outcomes.length = 3 ∧
      logbook.snapshots.map (·.uptime) = [3, 6] ∧ logbook.accepted.map (·.uptime) = [3] ∧
      logbook.Sound ∧ course.queued.length = 1 ∧
      (Course.of {} 0 0 (threeRounds ++ belated)).queued = course.queued ∧
      Logbook.of sampler (Course.of {} 0 0 (threeRounds ++ belated)).incidents = logbook := by
  intro sampler course logbook
  have hstart : course.start = some (.metrics sampler) := by decide +kernel
  have hcancelled : course.world.isCancelled (subscriptionToken 0 0) = true := by decide +kernel
  obtain ⟨-, -, -, hsound, -, -, -, hended⟩ := snapshots_history {} 0 0 threeRounds hstart
  obtain ⟨hqueued, hlogbook⟩ := hended (Or.inl hcancelled) belated
  exact ⟨hstart, hcancelled, by decide +kernel, by decide +kernel, by decide +kernel,
    by decide +kernel, hsound, by decide +kernel, hqueued, hlogbook⟩

end World

end Lookout
