import Lookout.Proofs.Task.Faithful

/-!
# What a client gets of a container's output

The agent, its other connections and its hub go on beside a follower, whose token may be cancelled
at any moment and whose client may be slow or gone. In all of these histories the client gets the
lines of the frames that are complete, from the first one on, in order. It gets all of them if the
follower is not cancelled and there is room whenever it is its turn.

* `Course.queued_of_turns` — each turn that finds room brings one line that is due;
* `World.faithful_history` — what a client gets in every history.
-/

namespace Lookout

/-- A task that follows a container's output starts with the request for the byte stream, in the
phase `opening`. -/
theorem TaskBody.of_ofStream_logs {limits : Limits} {stream : Stream} {interval : Option Int64}
    {now : Nat} {follower : LogFollower}
    (h : TaskBody.ofStream limits stream interval now = some (.logs follower)) :
    follower = { containerId := follower.containerId, maxFrame := limits.maxLogFrame.toNat } := by
  cases stream with
  | logs id =>
    cases h
    rfl
  | metrics =>
    simp only [TaskBody.ofStream] at h
    split at h <;> cases h
  | events | containerStats => cases h

namespace Course

variable {services : Services} {conn : ConnId} {generation : Nat} {c : Course}
  {follower : LogFollower} {m : World.Moment} {moments later : List World.Moment}

/-- A follower starts with the greatest length of a frame that was configured, and with nothing
read. -/
theorem Started.follower_eq (h : c.Started services conn generation (.logs follower)) :
    follower = { containerId := follower.containerId,
                 maxFrame := services.limits.maxLogFrame.toNat } := by
  obtain ⟨stream, interval, now, hstream⟩ := h.origin
  exact TaskBody.of_ofStream_logs hstream

/-- What becomes of a follower that has started is sound: its `Following` is one from the start
on. -/
theorem Started.following (h : c.Started services conn generation (.logs follower)) :
    (Following.of follower c.incidents).Sound :=
  Following.sound_of (by rw [h.follower_eq]) c.incidents

/-- **What the client's queue got** from this subscription is what the following says was queued.
The course watches the queue, the following the follower, and they agree. -/
theorem Started.queued_eq (h : c.Started services conn generation (.logs follower)) :
    c.queued = (Following.of follower c.incidents).queued := by
  rw [h.queued, Following.of, Following.queued_foldl]
  rfl

/-- The follower that the task holds is the one that its `Following` ends with. -/
theorem Started.body_eq (h : c.Started services conn generation (.logs follower)) {t : StreamTask}
    (task : c.world.task? conn generation = some t) :
    t.body = .logs (Following.of follower c.incidents).follower := by
  rw [h.task t task, TaskBody.foldl_undergo_logs, Following.of, Following.follower_foldl]

/-! ### Turns -/

/-- What becomes of the output in a moment: the incident is noted, if there is one. -/
theorem following_note (c : Course) (follower : LogFollower) (m : World.Moment) :
    Following.of follower (c.note conn generation m).incidents =
      (c.world.incident? conn generation m).elim (Following.of follower c.incidents)
        (Following.of follower c.incidents).note := by
  rw [note, Following.of, List.foldl_append]
  cases c.world.incident? conn generation m <;> rfl

/-- What is due only grows, whatever happens to anyone: one incident more at most. -/
theorem expected_note (h : c.Started services conn generation (.logs follower)) (m : World.Moment) :
    (Following.of follower c.incidents).expected <+:
      (Following.of follower (c.note conn generation m).incidents).expected := by
  rw [following_note]
  cases c.world.incident? conn generation m with
  | none => exact List.prefix_refl _
  | some i => exact (Following.next_note _ i).expected_isPrefix h.following

/-- A follower that has a message to send was never at its end before, as an end is for good. -/
theorem unfinished_of_wait {incidents : List Incident} {e : Envelope}
    (wait : (Following.of follower incidents).follower.wait = .room e) {earlier : List Incident}
    (before : earlier <+: incidents) :
    (earlier.foldl TaskBody.undergo (.logs follower)).isOver = false := by
  obtain ⟨rest, rfl⟩ := before
  rw [Following.of, Following.follower_foldl, List.foldl_append] at wait
  rw [TaskBody.foldl_undergo_logs, TaskBody.isOver, TaskBody.wait]
  cases phase : (earlier.foldl LogFollower.undergo follower).phase with
  | finished =>
    have hphase := LogFollower.foldl_of_finished phase rest
    rw [LogFollower.wait, hphase] at wait
    cases wait
  | opening | reporting | reading | sending => rw [LogFollower.wait, phase]

/-- **A turn that finds room** while something is due queues one message, and no other moment queues
any. -/
theorem queued_of_moment
    (started : (of services conn generation moments).start = some (.logs follower))
    (unended : ∀ m ∈ moments, m.isEndOf conn generation = false) :
    let c := of services conn generation moments
    let r := Following.of follower c.incidents
    c.world.isCancelled (subscriptionToken conn generation) = false → r.failed = false →
      r.queued.length < r.expected.length →
      (m.isTurnOf conn generation = false ∨ c.world.hasRoom conn = true) →
      (Following.of follower (c.note conn generation m).incidents).failed = false ∧
        (c.note conn generation m).queued.length =
          c.queued.length + if m.isTurnOf conn generation then 1 else 0 := by
  intro c r live unfailed due room
  have hstarted := started_of started
  -- Only the task's own turn can queue something.
  cases turn : m.isTurnOf conn generation with
  | false =>
    constructor
    · rw [following_note]
      cases hincident : c.world.incident? conn generation m with
      | none => exact unfailed
      | some i =>
        cases i with
        | sent accepted => exact absurd hincident (c.world.incident?_ne_sent turn accepted)
        | told | turned | read | supplied | abandoned => exact unfailed
    · rw [queued_note, c.world.message?_of_not_turn turn, Option.toList_none, List.append_nil,
        if_neg Bool.false_ne_true, Nat.add_zero]
  | true =>
    -- The follower has a message to send, so it is not at its end and its task is still there.
    have hroom : c.world.hasRoom conn = true := by simpa [turn] using room
    obtain ⟨e, wait⟩ := hstarted.following.wait unfailed due
    obtain ⟨t, task, hdone⟩ := runs_of started unended live fun _ => unfinished_of_wait wait
    have hwait : t.body.wait = .room e := by rw [hstarted.body_eq task, TaskBody.wait, wait]
    have hincident := World.incident?_of_turn task hdone live hwait turn hroom
    constructor
    · rw [following_note, hincident]
      exact unfailed
    · rw [queued_note, World.message?, task, Option.bind_some, hincident, Option.bind_some,
        TaskBody.message?, hwait, Option.toList_some, List.length_append]
      rfl

/-- **What a client gets in some turns.** If a follower is not cancelled and there is room whenever
it is its turn, each turn brings one more message of those that are due, and as many turns bring
them all. -/
theorem queued_of_turns
    (started : (of services conn generation moments).start = some (.logs follower))
    (unended : ∀ m ∈ moments ++ later, m.isEndOf conn generation = false)
    (live : (of services conn generation (moments ++ later)).world.isCancelled
      (subscriptionToken conn generation) = false)
    (unfailed : (Following.of follower
      (of services conn generation moments).incidents).failed = false)
    (way : (of services conn generation moments).world.makesWay conn generation later = true)
    {due : List Envelope}
    (expected : due <+:
      (Following.of follower (of services conn generation moments).incidents).expected) :
    due.take ((of services conn generation moments).queued.length +
        later.countP fun m => m.isTurnOf conn generation) <+:
      (of services conn generation (moments ++ later)).queued := by
  -- One moment after the other, since what is due only grows and what was queued stays queued.
  induction later generalizing moments with
  | nil =>
    rw [List.append_nil, List.countP_nil, Nat.add_zero]
    have hqueued := (started_of started).following.queued_isPrefix
    rw [← (started_of started).queued_eq] at hqueued
    refine List.prefix_of_prefix_length_le ((List.take_prefix _ _).trans expected) hqueued ?_
    rw [List.length_take]
    exact Nat.min_le_left _ _
  | cons m rest ih =>
    have hstarted := started_of started
    have hqueued := hstarted.following.queued_isPrefix
    rw [← hstarted.queued_eq] at hqueued
    rcases Nat.lt_or_ge (of services conn generation moments).queued.length due.length with
      hdue | hall
    · rw [List.append_cons] at unended live ⊢
      rw [World.makesWay, Bool.and_eq_true, Bool.or_eq_true, Bool.not_eq_true'] at way
      have hmoment := queued_of_moment started (m := m)
        (fun m' hm' => unended m' (by simp [hm'])) (live_of_append (live_of_append live)) unfailed
        (hstarted.queued_eq ▸ Nat.lt_of_lt_of_le hdue expected.length_le) way.1
      have hstart : (of services conn generation (moments ++ [m])).start =
          some (.logs follower) := by
        rw [of_append]
        exact start_foldl started [m]
      have hexpected := expected.trans (expected_note hstarted m)
      rw [← of_concat] at hmoment hexpected
      have hrest := ih hstart unended live hmoment.1 (by rw [of_concat]; exact way.2) hexpected
      rw [hmoment.2, Nat.add_assoc, Nat.add_comm (ite _ _ _), ← List.countP_cons] at hrest
      exact hrest
    · -- all that is due was queued before
      have hfront := List.prefix_of_prefix_length_le expected hqueued hall
      rw [of_append]
      exact (List.take_prefix _ _).trans (hfront.trans (queued_foldl _ _))

end Course

namespace World

/-- **What a client gets of a container's output.** In every history, from the start of the follower
on, what is queued is what its `Following` says, and that is `Faithful`: the front of what is due,
in order, where due is the one error if the byte stream cannot be opened, else a line for each frame
that is complete in the bytes that were taken and neither empty nor too long. All of it is queued
whenever the follower is `Settled`, so that the portions do not count. Nothing is queued after its
token was cancelled or a message could not be sent; until then every turn that finds room queues one
more, and every byte stream can be followed to its end (`Following.exists_incidents`). -/
theorem faithful_history (services : Services) (conn : ConnId) (generation : Nat)
    (moments : List Moment) {follower : LogFollower}
    (started : (Course.of services conn generation moments).start = some (.logs follower)) :
    let course := Course.of services conn generation moments
    let following := Following.of follower course.incidents
    follower = { containerId := follower.containerId,
                 maxFrame := services.limits.maxLogFrame.toNat } ∧
      (∀ t, course.world.task? conn generation = some t → t.body = .logs following.follower) ∧
      course.queued = following.queued ∧ following.Faithful follower ∧
      (∀ incidents, let other := Following.of follower incidents
        other.opened = following.opened → other.received = following.received →
          following.Settled → other.Settled → other.queued = following.queued) ∧
      (∀ later, course.world.isCancelled (subscriptionToken conn generation) = true ∨
          following.failed = true →
        (Course.of services conn generation (moments ++ later)).queued = course.queued) ∧
      (∀ later frames rest, Parted following.received frames rest →
        (∀ m ∈ moments ++ later, m.isEndOf conn generation = false) →
        (Course.of services conn generation (moments ++ later)).world.isCancelled
          (subscriptionToken conn generation) = false →
        following.failed = false → course.world.makesWay conn generation later = true →
        (follower.due following.opened frames).take (course.queued.length +
            later.countP fun m => m.isTurnOf conn generation) <+:
          (Course.of services conn generation (moments ++ later)).queued) ∧
      ∀ (chunks : List (List UInt8)) (last : Portion), last = .ended ∨ last = .failed →
        ∃ incidents, let whole := Following.of follower incidents
          whole.portions = chunks.map .bytes ++ [last] ∧ whole.follower.phase = .finished ∧
            whole.failed = false ∧ ∀ frames rest, Parted chunks.flatten frames rest →
              whole.queued = follower.due (some (.ok ())) frames := by
  intro course following
  have hstarted := Course.started_of started
  have hphase : follower.phase = .opening := by rw [hstarted.follower_eq]
  have hsame : ∀ incidents, ∃ phase, (Following.of follower incidents).follower =
      { follower with phase } := Following.follower_eq_foldl { follower }
  have hall : ∀ incidents, (Following.of follower incidents).Faithful follower :=
    fun incidents => (Following.sound_of hphase incidents).faithful (hsame incidents)
  refine ⟨hstarted.follower_eq, fun t => hstarted.body_eq, hstarted.queued_eq, hall _, ?_, ?_, ?_,
    ?_⟩
  -- Another follower that got the same bytes, in whatever portions.
  · intro incidents other opened received settled settled'
    exact (hall _).queued_eq (hall incidents) opened received settled settled'
  -- After cancellation the task does not go on; after a failed send the follower is at its end.
  · rintro later (hcancelled | hfailed)
    · rw [Course.of_append]
      exact (Course.foldl_of_cancelled hcancelled later).1
    · refine Course.queued_of_finished started (fun incidents => ?_) later
      have hphase := hstarted.following.failed hfailed
      rw [Following.of, Following.follower_foldl] at hphase
      have hfinished := LogFollower.foldl_of_finished hphase incidents
      rw [TaskBody.foldl_undergo_logs, List.foldl_append, TaskBody.wait, LogFollower.wait,
        hfinished]
  -- Turns that find room.
  · intro later frames rest parted unended live unfailed way
    refine Course.queued_of_turns started unended live unfailed way ?_
    rw [Following.due_of_parted (hsame _) parted]
    exact List.prefix_refl _
  -- The whole of a byte stream, in any chunks.
  · intro chunks last ends
    obtain ⟨incidents, hopened, hportions, hfinished, hunfailed⟩ :=
      Following.exists_incidents hphase chunks ends
    refine ⟨incidents, hportions, hfinished, hunfailed, fun frames rest parted => ?_⟩
    rw [← Following.received_of_chunks ends hportions] at parted
    rw [← hopened]
    exact (hall incidents).settled (Or.inl ⟨hfinished, hunfailed⟩) frames rest parted

/-- A container whose output is followed. -/
def followed : ContainerId := ⟨"followed", by decide⟩

/-- A line of two words, a frame of nine bytes, a line of one word, and a header that is cut. -/
def output : List UInt8 :=
  [1, 0, 0, 0, 0, 0, 0, 5, 116, 32, 104, 105, 10] ++
    [1, 0, 0, 0, 0, 0, 0, 9, 0, 0, 0, 0, 0, 0, 0, 0, 0] ++
    [2, 0, 0, 0, 0, 0, 0, 2, 104, 111] ++ [1, 0, 0, 0]

/-- The output arrives in three portions, of which the second is empty; then the byte stream
fails. -/
def followedOutput : List Moment :=
  let act := fun a => Moment.happens (.act a)
  let portion := fun p => act (.tell 0 0 (.portion p))
  [act (.connect 0 8), act (.dispatch 0 (.of .subscribe (Stream.logs followed).ack.toJson)),
    act (.reply 0 0), act (.tell 0 0 (.opened (.ok ()))), portion (.bytes (output.take 17)),
    act (.proceed 0 0 0), portion (.bytes []), portion (.bytes (output.drop 17)),
    act (.proceed 0 0 0), portion .failed, act (.proceed 0 0 0)]

/-- The two lines of the output. -/
def outputLines : List Envelope :=
  [(⟨"followed", "t", .stdout, "hi"⟩ : LogLine).toMessage,
    (⟨"followed", "", .stderr, "ho"⟩ : LogLine).toMessage]

/-- The example's bytes are three frames and half a header, and the second frame is too long for the
follower. A header has eight bytes, so that the rest holds no frame. -/
theorem exists_parted_output : ∃ frames rest, Parted output frames rest ∧
    ({ containerId := followed, maxFrame := 8 } : LogFollower).due (some (.ok ())) frames =
      outputLines := by
  let frames : List RawFrame :=
    [⟨1, 0, 0, 0, [116, 32, 104, 105, 10], by decide⟩,
      ⟨1, 0, 0, 0, [0, 0, 0, 0, 0, 0, 0, 0, 0], by decide⟩, ⟨2, 0, 0, 0, [104, 111], by decide⟩]
  have hcut : ∀ r : RawFrame, ¬r.bytes <+: [1, 0, 0, 0] := by
    intro r hr
    have hlength := hr.length_le
    rw [RawFrame.bytes_eq] at hlength
    simp only [List.length_cons, List.length_nil] at hlength
    omega
  have hlines : (frames.filterMap (·.frame? 8)).map (·.line "followed") =
      [⟨"followed", "t", .stdout, "hi"⟩, ⟨"followed", "", .stderr, "ho"⟩] := by decide +kernel
  exact ⟨frames, [1, 0, 0, 0], ⟨rfl, hcut⟩,
    List.map_map.symm.trans (congrArg (List.map LogLine.toMessage) hlines)⟩

/-- The two lines are queued, and the failure comes when both are; they are due, and turns are left
for them, when the third portion has come. -/
theorem faithful_followedOutput :
    let services : Services := { limits := { maxLogFrame := 8 } }
    let follower : LogFollower := { containerId := followed, maxFrame := 8 }
    let course := Course.of services 0 0 followedOutput
    let following := Following.of follower course.incidents
    course.start = some (.logs follower) ∧ following.received = output ∧
      Portion.failed ∈ following.portions ∧ course.queued = outputLines ∧
      (Course.of services 0 0 (followedOutput.take 8)).queued.length = 1 ∧
      outputLines.take (1 + 2) <+: (Course.of services 0 0
        (followedOutput.take 8 ++ followedOutput.drop 8)).queued := by
  intro services follower course following
  obtain ⟨frames, rest, hparted, hdue⟩ := exists_parted_output
  have hstart : course.start = some (.logs follower) := by decide +kernel
  have hopened : following.opened = some (.ok ()) := by decide +kernel
  have hreceived : following.received = output := by decide +kernel
  have hfailed : Portion.failed ∈ following.portions := by decide +kernel
  obtain ⟨-, -, hqueued, hfaithful, -⟩ := faithful_history services 0 0 followedOutput hstart
  have hlines : course.queued = outputLines := by
    have hlast := hfaithful.last _ hfailed (Or.inr rfl)
    have hsettled := hfaithful.settled (Or.inl hlast) frames rest (hreceived ▸ hparted)
    rw [hopened, hdue] at hsettled
    exact hqueued.trans hsettled
  -- Before the third portion is taken one line is queued, and two turns are left for the other.
  let before := Following.of follower (Course.of services 0 0 (followedOutput.take 8)).incidents
  have hopened' : before.opened = some (.ok ()) := by decide +kernel
  have hreceived' : before.received = output := by decide +kernel
  have hone : (Course.of services 0 0 (followedOutput.take 8)).queued.length = 1 := by
    decide +kernel
  have hturns := (faithful_history services 0 0 (followedOutput.take 8)
    (by decide +kernel : _ = some (TaskBody.logs follower))).2.2.2.2.2.2.1
    (followedOutput.drop 8) frames rest (hreceived' ▸ hparted) (by decide +kernel)
    (by decide +kernel) (by decide +kernel) (by decide +kernel)
  change ((follower.due before.opened frames).take _) <+: _ at hturns
  rw [hopened', hdue, hone] at hturns
  exact ⟨hstart, hreceived, hfailed, hlines, hone, hturns⟩

end World

end Lookout
