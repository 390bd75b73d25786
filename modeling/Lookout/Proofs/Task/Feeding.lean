import Lookout.Proofs.Task.Freshness

/-!
# What a client gets of a container's samples

The agent, its other connections and its hub go on beside a feed, the feed's token may be cancelled
at any moment, and its client's queue may be full or gone. In all of these histories what the client
gets is fresh, and as long as nothing fails it gets the last sample.

* `Course.samples` — the samples that were queued for a client;
* `World.fresh_history` — each was the newest one when it was taken, and none follows cancellation;
* `World.lastSample_history` — the last one is that which was stored last.
-/

namespace Lookout

/-- A task that feeds samples starts with nothing in its cell and without a reader, with the period
that `Limits` gives. -/
theorem TaskBody.of_ofStream_stats {limits : Limits} {stream : Stream} {interval : Option Int64}
    {now : Nat} {feed : StatsFeed}
    (h : TaskBody.ofStream limits stream interval now = some (.stats feed)) :
    ∃ id, stream = .containerStats id ∧
      feed = { containerId := id, period := limits.intervalMillis interval } := by
  cases stream with
  | containerStats id =>
    cases h
    exact ⟨id, rfl, rfl⟩
  | metrics =>
    simp only [TaskBody.ofStream] at h
    split at h <;> cases h
  | events | logs => cases h

/-- A sender that has come to its end stays there: `undergo` has no way out of `finished`. -/
theorem StatsFeed.foldl_of_finished {t : StatsFeed} (finished : t.phase = .finished)
    (incidents : List Incident) : (incidents.foldl undergo t).phase = .finished := by
  induction incidents generalizing t with
  | nil => exact finished
  | cons i rest ih => exact ih ((Chronicle.next_note { feed := t } i).finished finished).1

namespace Course

/-- The samples that were queued for a client. -/
def samples (c : Course) : List Envelope :=
  c.queued.filter fun e => e.type? = some .containerStats

variable {services : Services} {conn : ConnId} {generation : Nat} {c : Course} {feed : StatsFeed}

/-- What becomes of the samples of a feed that was started is sound: it starts without a reader,
with an empty cell, and with nothing stored. -/
theorem Started.sound (h : c.Started services conn generation (.stats feed)) :
    (Chronicle.of feed c.incidents).Sound := by
  obtain ⟨stream, interval, now, hstream⟩ := h.origin
  obtain ⟨id, -, rfl⟩ := TaskBody.of_ofStream_stats hstream
  exact Chronicle.sound_of rfl rfl rfl c.incidents

/-- **The samples that the client's queue got** are the pushes of the chronicle, in order. The
course also queues the report of a failure, which `samples` leaves out. -/
theorem Started.samples_eq (h : c.Started services conn generation (.stats feed)) :
    c.samples = (Chronicle.of feed c.incidents).pushes.map (·.message) := by
  rw [samples, h.queued, Chronicle.of, Chronicle.pushes_foldl]
  rfl

end Course

namespace World

/-- **What a client gets of a container's samples is fresh.** In every history, from the start of
the feed on, the samples that are queued are the pushes of a `Chronicle`, and this one is `Fresh`:
each of them was the newest one when the sender took it, they never go back, one tick passes between
two of them, and nothing is queued before a sample is stored. Nor is anything after the token of the
feed was cancelled or a message could not be sent. -/
theorem fresh_history (services : Services) (conn : ConnId) (generation : Nat)
    (moments later : List Moment) {feed : StatsFeed}
    (started : (Course.of services conn generation moments).start = some (.stats feed)) :
    let course := Course.of services conn generation moments
    let chronicle := Chronicle.of feed course.incidents
    (∀ t, course.world.task? conn generation = some t → t.body = .stats chronicle.feed) ∧
      course.samples = chronicle.pushes.map (·.message) ∧ chronicle.Fresh ∧
      (course.world.isCancelled (subscriptionToken conn generation) = true ∨
          chronicle.failed = true →
        (Course.of services conn generation (moments ++ later)).queued = course.queued) := by
  have hstarted := Course.started_of started
  have hsound := hstarted.sound
  refine ⟨fun t ht => ?_, hstarted.samples_eq, hsound.fresh, ?_⟩
  · rw [hstarted.task t ht, TaskBody.foldl_undergo_stats, Chronicle.of, Chronicle.feed_foldl]
  · rintro (hcancelled | hfailed)
    · rw [Course.of_append]
      exact (Course.foldl_of_cancelled hcancelled later).1
    · refine Course.queued_of_finished started (fun incidents => ?_) later
      have hphase := hsound.failed hfailed
      rw [Chronicle.of, Chronicle.feed_foldl] at hphase
      have hfinished := StatsFeed.foldl_of_finished hphase incidents
      rw [TaskBody.foldl_undergo_stats, List.foldl_append, TaskBody.wait, StatsFeed.wait, hfinished]

/-- A container whose samples are fed. -/
def sampled : ContainerId := ⟨"sampled", by decide⟩

/-- Four samples arrive at a feed. The sender notices the first, takes the second, and takes the
third after a tick; the fourth is there when the reader has stopped. -/
def fourSamples : List Moment :=
  let act := fun a => Moment.happens (.act a)
  let sample := fun n =>
    ("\x7b\"memory_stats\":\x7b\"usage\":" ++ n ++ "\x7d\x7d\n").toUTF8.toList
  [act (.connect 0 8),
    act (.dispatch 0 (.of .subscribe (Stream.containerStats sampled).ack.toJson)),
    act (.reply 0 0), act (.tell 0 0 (.opened (.ok ()))),
    act (.supply 0 0 (.bytes (sample "1" ++ sample "2" ++ sample "3" ++ sample "4"))),
    act (.read 0 0), act (.proceed 0 0 0), act (.read 0 0), act (.proceed 0 0 0),
    act (.read 0 0), act (.proceed 0 0 0), act (.tell 0 0 (.time 9000)), act (.proceed 0 0 9000),
    act (.proceed 0 0 9000), act (.proceed 0 0 9000), act (.read 0 0), act (.supply 0 0 .ended),
    act (.read 0 0), act (.tell 0 0 (.time 18000)), act (.proceed 0 0 18000),
    act (.proceed 0 0 18000)]

/-- The agent is shut down when the third sample was taken but is not queued yet, and so it never
is. -/
theorem fresh_shutdown :
    let feed : StatsFeed := { containerId := sampled, period := 3000 }
    let course := Course.of {} 0 0 (fourSamples.take 14 ++ [.happens (.act .shutdown)])
    let chronicle := Chronicle.of feed course.incidents
    course.start = some (.stats feed) ∧
      course.world.isCancelled (subscriptionToken 0 0) = true ∧ chronicle.stored.length = 3 ∧
      chronicle.takes = [⟨2, false⟩, ⟨3, false⟩] ∧ chronicle.pushes.length = 1 ∧
      chronicle.Fresh ∧
      (Course.of {} 0 0 (fourSamples.take 14 ++ [.happens (.act .shutdown)] ++
        fourSamples.drop 14)).queued = course.queued := by
  intro feed course chronicle
  have hstart : course.start = some (.stats feed) := by decide +kernel
  have hcancelled : course.world.isCancelled (subscriptionToken 0 0) = true := by decide +kernel
  obtain ⟨-, -, hfresh, hsilent⟩ := fresh_history {} 0 0
    (fourSamples.take 14 ++ [.happens (.act .shutdown)]) (fourSamples.drop 14) hstart
  exact ⟨hstart, hcancelled, by decide +kernel, by decide +kernel, by decide +kernel, hfresh,
    hsilent (Or.inl hcancelled)⟩

/-- **The last sample is not lost.** In every history in which the sender of a feed comes to its end
without a message that could not be sent, the last sample that was queued is the last one that was
`stored`, and none was queued if none was stored. A sample is taken when the reader has stopped
(`closing`) only if it was not taken before, and it is the last take of all. -/
theorem lastSample_history (services : Services) (conn : ConnId) (generation : Nat)
    (moments : List Moment) {feed : StatsFeed}
    (started : (Course.of services conn generation moments).start = some (.stats feed)) :
    let course := Course.of services conn generation moments
    let chronicle := Chronicle.of feed course.incidents
    (chronicle.feed.phase = .finished → chronicle.failed = false →
        course.samples.getLast? = chronicle.stored.getLast?.map (·.toMessage)) ∧
      ∀ before take after, chronicle.takes = before ++ take :: after → take.closing = true →
        after = [] ∧ take.count = chronicle.stored.length ∧
          ∀ earlier ∈ before, earlier.count < take.count := by
  have hstarted := Course.started_of started
  have hsound := hstarted.sound
  refine ⟨fun returned unfailed => ?_, fun before take after takes closing =>
    hsound.closing takes closing⟩
  rw [hstarted.samples_eq, List.getLast?_map]
  exact hsound.last returned unfailed

/-- The second sample, the third and the fourth are queued, and the fourth is the last one. -/
theorem lastSample_fourSamples :
    let feed : StatsFeed := { containerId := sampled, period := 3000 }
    let course := Course.of {} 0 0 fourSamples
    let chronicle := Chronicle.of feed course.incidents
    course.start = some (.stats feed) ∧ chronicle.feed.phase = .finished ∧
      chronicle.failed = false ∧ chronicle.stored.map (·.memUsed) = [1, 2, 3, 4] ∧
      chronicle.takes = [⟨2, false⟩, ⟨3, false⟩] ++ ⟨4, true⟩ :: [] ∧
      course.samples.getLast? = chronicle.stored.getLast?.map (·.toMessage) ∧
      ∀ earlier ∈ [(⟨2, false⟩ : Take), ⟨3, false⟩], earlier.count < 4 := by
  intro feed course chronicle
  have hstart : course.start = some (.stats feed) := by decide +kernel
  have hphase : chronicle.feed.phase = .finished := by decide +kernel
  have hfailed : chronicle.failed = false := by decide +kernel
  have htakes : chronicle.takes = [⟨2, false⟩, ⟨3, false⟩] ++ ⟨4, true⟩ :: [] := by decide +kernel
  obtain ⟨hlast, hclosing⟩ := lastSample_history {} 0 0 fourSamples hstart
  exact ⟨hstart, hphase, hfailed, by decide +kernel, htakes, hlast hphase hfailed,
    (hclosing _ _ _ htakes rfl).2.2⟩

end World

end Lookout
