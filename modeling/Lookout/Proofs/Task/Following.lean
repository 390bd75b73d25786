import Lookout.Proofs.Agent.Progress
import Lookout.Proofs.Framing.Parted

/-!
# What becomes of a container's output

A follower holds at most one line, and takes the next frame as soon as that line is queued. So at
any time the lines of the frames in the bytes that it took are three groups, one behind the other:
those that were queued, the one in its hand, and those that its deframer still holds. This is
`Following.Sound`, stated for all bytes that may still come. It holds whatever portions the bytes
came in, since taking frames does not depend on them, and from it all else follows. The follower
waits for a portion only when nothing is left in its deframer, so when the end of the stream comes,
or a failure, every line has been queued.

* `Following`, `Following.of` — what became of the output in some incidents;
* `Following.Next`, `Following.next_note` — all that one incident can do;
* `Following.Sound`, `Following.sound_of` — queued, in hand, and to come;
* `Following.Next.expected_isPrefix` — what is due only grows.
-/

namespace Lookout

/-- The bytes in a portion. -/
def Portion.content : Portion → List UInt8
  | .bytes bs => bs
  | .ended | .failed => []

namespace TaskBody

/-- Whether a message could not be sent in an incident. -/
def fails (body : TaskBody) : Incident → Bool
  | .sent false =>
    match body.wait with
    | .room _ => true
    | _ => false
  | _ => false

end TaskBody

namespace LogFollower

/-- The message of a frame. -/
def message (t : LogFollower) (f : LogFrame) : Envelope := (f.line t.containerId.text).toMessage

/-- The messages of the frames that a deframer holds. -/
def held (t : LogFollower) (d : Deframer) : List Envelope := (d.drain t.maxFrame).2.map t.message

/-- The messages of the frames that some bytes give out. -/
def lines (t : LogFollower) (bytes : List UInt8) : List Envelope :=
  (Deframer.frames t.maxFrame bytes).map t.message

/-- What a client is to get, by the daemon's answer: the one message that tells of a failure, or
some lines. -/
def answered (opened : Option (Except Failure Unit)) (lines : List Envelope) : List Envelope :=
  match opened with
  | none => []
  | some (.error f) => [failureMessage f]
  | some (.ok ()) => lines

/-- More lines are due where more were read, and nothing else depends on the bytes. -/
theorem answered_isPrefix (opened : Option (Except Failure Unit)) {lines lines' : List Envelope}
    (h : lines <+: lines') : answered opened lines <+: answered opened lines' := by
  unfold answered
  split
  -- Not answered, or refused: the bytes do not matter.
  · exact List.prefix_refl _
  · exact List.prefix_refl _
  · exact h

/-- The follower after an incident. -/
def undergo (t : LogFollower) : Incident → LogFollower
  | .told n => t.resume n
  | .sent accepted => t.sent accepted
  | .turned _ | .read | .supplied _ | .abandoned => t

/-- The daemon's answer, if the follower is told it in an incident. -/
def opened? (t : LogFollower) : Incident → Option (Except Failure Unit)
  | .told (.opened answer) =>
    match t.phase with
    | .opening => some answer
    | _ => none
  | _ => none

/-- The portion that the follower takes in an incident. -/
def portion? (t : LogFollower) : Incident → Option Portion
  | .told (.portion p) =>
    match t.phase with
    | .reading _ => some p
    | _ => none
  | _ => none

/-- To look for a frame does not end a follower: it holds a line to send, or it waits for bytes. -/
theorem proceed_ne_finished (t : LogFollower) (d : Deframer) : t.proceed d ≠ .finished := by
  unfold proceed
  split <;> exact fun heq => by cases heq

/-- A follower that has come to its end stays there: `undergo` has no way out of `finished`. -/
theorem foldl_of_finished {t : LogFollower} (finished : t.phase = .finished)
    (incidents : List Incident) : (incidents.foldl undergo t).phase = .finished := by
  induction incidents generalizing t with
  | nil => exact finished
  | cons i rest ih =>
    obtain ⟨id, maxFrame, phase⟩ := t
    obtain rfl : phase = .finished := finished
    refine ih ?_
    cases i with
    | told n => cases n <;> rfl
    | sent | turned | read | supplied | abandoned => rfl

end LogFollower

/-- An incident of a task that follows output is one of its follower: `TaskBody.undergo` only passes
it on. -/
theorem TaskBody.undergo_logs (t : LogFollower) (i : Incident) :
    (TaskBody.logs t).undergo i = .logs (t.undergo i) := by
  cases i <;> rfl

/-- Many incidents of a task that follows output are those of its follower, one after the other. -/
theorem TaskBody.foldl_undergo_logs (t : LogFollower) (incidents : List Incident) :
    incidents.foldl TaskBody.undergo (.logs t) = .logs (incidents.foldl LogFollower.undergo t) :=
  List.foldl_hom TaskBody.logs TaskBody.undergo_logs

/-- **What became of a container's output.** -/
structure Following where
  follower : LogFollower
  /-- The daemon's answer to the request for the byte stream. -/
  opened : Option (Except Failure Unit) := none
  /-- The portions that the follower took, the first one first. -/
  portions : List Portion := []
  queued : List Envelope := []
  /-- Whether a message could not be sent. -/
  failed : Bool := false

namespace Following

/-- The bytes that the follower took. -/
def received (r : Following) : List UInt8 := r.portions.flatMap Portion.content

/-- What became of the output after an incident. -/
def note (r : Following) (i : Incident) : Following :=
  { follower := r.follower.undergo i
    opened := (r.follower.opened? i).or r.opened
    portions := (r.follower.portion? i).elim r.portions fun p => r.portions ++ [p]
    queued := ((TaskBody.logs r.follower).message? i).elim r.queued fun e => r.queued ++ [e]
    failed := (TaskBody.logs r.follower).fails i || r.failed }

/-- What becomes of the output of a follower that starts. -/
def of (follower : LogFollower) (incidents : List Incident) : Following :=
  incidents.foldl note { follower }

variable {r r' : Following}

/-- The follower is the same as without a record of it: to `note` something changes nothing. -/
theorem follower_foldl (r : Following) (incidents : List Incident) :
    (incidents.foldl note r).follower = incidents.foldl LogFollower.undergo r.follower :=
  (List.foldl_hom Following.follower fun _ _ => rfl).symm

/-- What a following says was queued is what the follower had to send whenever it was answered that
there was room. -/
theorem queued_foldl (r : Following) (incidents : List Incident) :
    (incidents.foldl note r).queued =
      r.queued ++ (TaskBody.logs r.follower).messages incidents := by
  -- On the incidents, for every record before.
  induction incidents generalizing r with
  | nil => exact (List.append_nil _).symm
  | cons i rest ih =>
    rw [List.foldl_cons, ih, TaskBody.messages, TaskBody.undergo_logs, ← List.append_assoc, note]
    cases (TaskBody.logs r.follower).message? i with
    | none => rw [Option.elim_none, Option.toList_none, List.append_nil]
    | some e => rfl

/-! ### What an incident can do -/

/-- **All that one incident can do.** -/
inductive Next (r : Following) : Following → Prop where
  /-- It does not concern the follower. -/
  | rests : Next r r
  /-- The byte stream is open. -/
  | opens (phase : r.follower.phase = .opening) :
    Next r { r with
      follower := { r.follower with phase := .reading {} }
      opened := some (.ok ()) }
  /-- It could not be opened, of which the client is told. -/
  | refused (phase : r.follower.phase = .opening) (f : Failure) :
    Next r { r with
      follower := { r.follower with phase := .reporting f }
      opened := some (.error f) }
  | reports {f : Failure} (phase : r.follower.phase = .reporting f) :
    Next r { r with
      follower := { r.follower with phase := .finished }
      queued := r.queued ++ [LogFollower.failureMessage f] }
  /-- A portion is taken, and the next frame from it if one is complete. -/
  | takes {d : Deframer} (phase : r.follower.phase = .reading d) (bs : List UInt8) :
    Next r { r with
      follower := { r.follower with phase := r.follower.proceed (d.feed bs) }
      portions := r.portions ++ [.bytes bs] }
  /-- The byte stream has ended or failed. -/
  | ends {d : Deframer} (phase : r.follower.phase = .reading d) {p : Portion}
    (last : p = .ended ∨ p = .failed) :
    Next r { r with
      follower := { r.follower with phase := .finished }
      portions := r.portions ++ [p] }
  /-- A line is queued, and the next frame is taken. -/
  | queues {line : LogLine} {d : Deframer} (phase : r.follower.phase = .sending line d) :
    Next r { r with
      follower := { r.follower with phase := r.follower.proceed d }
      queued := r.queued ++ [line.toMessage] }
  /-- A message could not be sent. -/
  | fails {e : Envelope} (wait : r.follower.wait = .room e) :
    Next r { r with
      follower := { r.follower with phase := .finished }
      failed := true }

/-- **One incident does one of the eight things.** The cases are those of the incident first and of
the phase then, as a follower looks only at what it waits for and all else is `rests`. -/
theorem next_note (r : Following) (i : Incident) : r.Next (r.note i) := by
  obtain ⟨⟨id, maxFrame, phase⟩, opened, portions, queued, failed⟩ := r
  -- By the incident and the phase of the follower; each phase waits for one kind of answer only.
  cases i with
  | told n =>
    cases phase with
    | opening =>
      cases n with
      | opened answer =>
        cases answer with
        | error f => exact .refused rfl f
        | ok => exact .opens rfl
      | portion | time | snapshot => exact .rests
    | reading d =>
      cases n with
      | portion p =>
        cases p with
        | bytes bs => exact .takes rfl bs
        | ended => exact .ends rfl (Or.inl rfl)
        | failed => exact .ends rfl (Or.inr rfl)
      | opened | time | snapshot => exact .rests
    | reporting | sending | finished => cases n <;> exact .rests
  | sent accepted =>
    cases phase with
    | reporting f =>
      cases accepted with
      | true => exact .reports rfl
      | false => exact .fails rfl
    | sending line d =>
      cases accepted with
      | true => exact .queues rfl
      | false => exact .fails rfl
    | opening | reading | finished => cases accepted <;> exact .rests
  | turned | read | supplied | abandoned => exact .rests

/-! ### Queued, in hand, and to come -/

/-- What is to be queued by the time that all that came is dealt with. -/
def expected (r : Following) : List Envelope :=
  LogFollower.answered r.opened (r.follower.lines r.received)

/-- While the byte stream is open what is due are the lines in the bytes that came. -/
theorem expected_of_opened (opened : r.opened = some (.ok ())) :
    r.expected = r.follower.lines r.received := by
  rw [expected, opened]
  rfl

/-- **Queued and to come.** Whatever bytes follow, the lines of all bytes are those that were queued
and then some others. -/
structure Splits (r : Following) (others : List UInt8 → List Envelope) : Prop where
  opened : r.opened = some (.ok ())
  lines : ∀ more, r.follower.lines (r.received ++ more) = r.queued ++ others more

/-- What holds of the output while the follower is at a phase. -/
def At (r : Following) : LogPhase → Prop
  | .opening => r.opened = none ∧ r.portions = [] ∧ r.queued = []
  | .reporting f => r.opened = some (.error f) ∧ r.queued = []
  | .reading d => d.next r.follower.maxFrame = (d, none) ∧
    r.Splits fun more => r.follower.held (d.feed more)
  | .sending line d => r.Splits fun more => line.toMessage :: r.follower.held (d.feed more)
  | .finished => if r.failed then r.queued <+: r.expected else r.queued = r.expected

/-- **What holds of the output** after every list of incidents. -/
structure Sound (r : Following) : Prop where
  phase : r.At r.follower.phase
  /-- A message that could not be sent was the last one. -/
  failed : r.failed = true → r.follower.phase = .finished
  /-- The end of the byte stream has not come yet if a message could not be sent. -/
  ongoing : (r.follower.phase = .finished → r.failed = true) →
    ∀ p ∈ r.portions, ∃ bs, p = .bytes bs
  /-- The follower does not end before the byte stream does. -/
  ended : r.follower.phase = .finished → r.failed = false → r.opened = some (.ok ()) →
    ∃ p ∈ r.portions, p = .ended ∨ p = .failed

/-- After a frame was taken, or none was found, the follower is `At` the phase to which `proceed`
leads. -/
theorem Splits.proceed {d : Deframer} (h : r.Splits fun more => r.follower.held (d.feed more)) :
    r.At (r.follower.proceed d) := by
  unfold LogFollower.proceed
  rcases hnext : d.next r.follower.maxFrame with ⟨d', _ | f⟩
  · -- a step that finds nothing may be made again
    have hagain : d'.next r.follower.maxFrame = (d', none) := by
      have heq := Deframer.next_feed_of_none [] hnext
      rwa [Deframer.feed_nil, Deframer.feed_nil, hnext] at heq
    refine ⟨hagain, h.opened, fun more => ?_⟩
    rw [h.lines, LogFollower.held, LogFollower.held,
      Deframer.drain_congr (Deframer.next_feed_of_none more hnext)]
  · refine ⟨h.opened, fun more => ?_⟩
    rw [h.lines, LogFollower.held, Deframer.drain_of_some (Deframer.next_feed_of_some more hnext)]
    rfl

/-- While the follower reads, all that came is queued: the bytes that it holds make no frame. -/
theorem Splits.queued_eq {d : Deframer} (h : r.Splits fun more => r.follower.held (d.feed more))
    (empty : d.next r.follower.maxFrame = (d, none)) : r.queued = r.expected := by
  have hlines := h.lines []
  rw [Deframer.feed_nil, LogFollower.held, Deframer.drain_of_none empty, List.map_nil,
    List.append_nil, List.append_nil] at hlines
  rw [expected_of_opened h.opened]
  exact hlines.symm

/-- What was queued is a front of what is due: `Splits` without further bytes. -/
theorem Splits.queued_isPrefix {others : List UInt8 → List Envelope} (h : r.Splits others) :
    r.queued <+: r.expected := by
  have hlines := h.lines []
  rw [List.append_nil] at hlines
  rw [expected_of_opened h.opened]
  exact ⟨others [], hlines.symm⟩

/-- **Nothing is queued but what is due, in order.** Each phase says by how much the one is behind
the other; `Splits.queued_isPrefix` is the case in which there are lines to come. -/
theorem Sound.queued_isPrefix (h : r.Sound) : r.queued <+: r.expected := by
  have hphase := h.phase
  cases phase : r.follower.phase with
  -- Nothing was queued.
  | opening =>
    rw [phase] at hphase
    rw [hphase.2.2]
    exact List.nil_prefix
  | reporting f =>
    rw [phase] at hphase
    rw [hphase.2]
    exact List.nil_prefix
  | reading d =>
    rw [phase] at hphase
    exact hphase.2.queued_isPrefix
  | sending line d =>
    rw [phase] at hphase
    exact hphase.queued_isPrefix
  -- A front if a send failed, else all.
  | finished =>
    rw [phase, At] at hphase
    split at hphase
    · exact hphase
    · exact hphase ▸ List.prefix_refl _

/-- The bytes of one more portion come after those that were `received`. -/
theorem received_concat (r : Following) (p : Portion) :
    (r.portions ++ [p]).flatMap Portion.content = r.received ++ p.content := by
  rw [received, List.flatMap_append, List.flatMap_singleton]

/-! ### One incident -/

/-- Until the follower has come to its end nothing has failed, and the byte stream goes on. -/
theorem Sound.going (h : r.Sound) (going : r.follower.phase ≠ .finished) :
    r.failed = false ∧ ∀ p ∈ r.portions, ∃ bs, p = .bytes bs :=
  ⟨Bool.eq_false_iff.mpr fun hfailed => going (h.failed hfailed),
    h.ongoing fun hphase => absurd hphase going⟩

/-- What remains to be shown of a follower that goes on: its phase, and that nothing has ended
yet. -/
theorem Sound.of_going (phase : r.At r.follower.phase) (unfinished : r.follower.phase ≠ .finished)
    (going : r.failed = false ∧ ∀ p ∈ r.portions, ∃ bs, p = .bytes bs) : r.Sound where
  phase := phase
  failed hfailed := by
    rw [going.1] at hfailed
    cases hfailed
  ongoing _ := going.2
  ended finished := absurd finished unfinished

/-- What remains to be shown of a follower that has come to its end: all is queued, and the byte
stream had ended. -/
theorem Sound.of_finished (finished : r.follower.phase = .finished) (unfailed : r.failed = false)
    (queued : r.queued = r.expected)
    (ended : r.opened = some (.ok ()) → ∃ p ∈ r.portions, p = .ended ∨ p = .failed) : r.Sound where
  phase := by
    rw [finished, At, unfailed, if_neg Bool.false_ne_true]
    exact queued
  failed _ := finished
  ongoing hfailed := by
    rw [unfailed] at hfailed
    cases hfailed finished
  ended _ _ := ended

/-- **Each step keeps what is sound.** The two that matter are `takes`, where the deframer is fed
and `Splits` holds since feeding twice is feeding both at once, and `queues`, where the line that
was held is the next one that is due. -/
theorem Next.sound (next : r.Next r') (h : r.Sound) : r'.Sound := by
  have hphase := h.phase
  cases next with
  | rests => exact h
  | opens phase =>
    obtain ⟨hunfailed, hbytes⟩ := h.going (by rw [phase]; nofun)
    rw [phase] at hphase
    obtain ⟨-, hportions, hqueued⟩ := hphase
    refine .of_going ⟨Deframer.nextFrom_of_short (by decide), rfl, fun more => ?_⟩
      (fun heq => by cases heq) ⟨hunfailed, hbytes⟩
    -- Nothing has come, and nothing was queued.
    change r.follower.lines (r.portions.flatMap _ ++ more) = r.queued ++ _
    rw [hportions, hqueued]
    rfl
  | refused phase f =>
    have hgoing := h.going (by rw [phase]; nofun)
    rw [phase] at hphase
    exact .of_going ⟨rfl, hphase.2.2⟩ (fun heq => by cases heq) hgoing
  -- The error is all that is due where the byte stream could not be opened.
  | reports phase =>
    have hgoing := h.going (by rw [phase]; nofun)
    rw [phase] at hphase
    refine .of_finished rfl hgoing.1 ?_ fun hopened => ?_
    · rw [expected, hphase.1, hphase.2]
      rfl
    · rw [hphase.1] at hopened
      cases hopened
  | @takes d phase bs =>
    obtain ⟨hunfailed, hbytes⟩ := h.going (by rw [phase]; nofun)
    rw [phase] at hphase
    obtain ⟨-, hsplits⟩ := hphase
    refine .of_going (Splits.proceed ⟨hsplits.opened, fun more => ?_⟩)
      (r.follower.proceed_ne_finished _) ⟨hunfailed, ?_⟩
    -- The bytes are now in the deframer, and they were the first of those that were to come.
    · change r.follower.lines ((r.portions ++ [Portion.bytes bs]).flatMap Portion.content ++ more) =
        r.queued ++ r.follower.held ((d.feed bs).feed more)
      rw [received_concat, List.append_assoc, Deframer.feed_feed]
      exact hsplits.lines (bs ++ more)
    · intro p hp
      rcases List.mem_append.mp hp with hp | hp
      · exact hbytes p hp
      · exact ⟨bs, List.mem_singleton.mp hp⟩
  | @ends d phase p last =>
    have hgoing := h.going (by rw [phase]; nofun)
    rw [phase] at hphase
    refine .of_finished rfl hgoing.1 ?_ fun _ =>
      ⟨p, List.mem_append_right _ (List.mem_singleton_self p), last⟩
    -- All that came was queued before.
    have hcontent : p.content = [] := by rcases last with rfl | rfl <;> rfl
    change r.queued = LogFollower.answered r.opened
      (r.follower.lines ((r.portions ++ [p]).flatMap Portion.content))
    rw [received_concat, hcontent, List.append_nil]
    exact hphase.2.queued_eq hphase.1
  | @queues line d phase =>
    have hgoing := h.going (by rw [phase]; nofun)
    rw [phase] at hphase
    refine .of_going (Splits.proceed ⟨hphase.opened, fun more => ?_⟩)
      (r.follower.proceed_ne_finished d) hgoing
    exact (hphase.lines more).trans (List.append_cons _ _ _)
  | fails wait =>
    have hgoing : r.follower.phase ≠ .finished := fun heq => by
      rw [LogFollower.wait, heq] at wait
      cases wait
    exact ⟨h.queued_isPrefix, fun _ => rfl, fun _ => (h.going hgoing).2,
      fun _ hfailed => by cases hfailed⟩

/-- Any steps keep what is sound, by `next_note` and `Next.sound` for each. -/
theorem sound_foldl (h : r.Sound) (incidents : List Incident) : (incidents.foldl note r).Sound := by
  induction incidents generalizing r with
  | nil => exact h
  | cons i rest ih => exact ih ((r.next_note i).sound h)

/-- A follower that has not opened its byte stream is sound, and so is all that becomes of it. -/
theorem sound_of {follower : LogFollower} (phase : follower.phase = .opening)
    (incidents : List Incident) : (of follower incidents).Sound := by
  refine sound_foldl (.of_going ?_ ?_ ⟨rfl, fun _ hp => absurd hp List.not_mem_nil⟩) incidents
  · dsimp only
    rw [phase]
    exact ⟨rfl, rfl, rfl⟩
  · dsimp only
    rw [phase]
    exact fun heq => by cases heq

/-- What is due only grows, as more bytes only add lines. -/
theorem Next.expected_isPrefix (next : r.Next r') (h : r.Sound) : r.expected <+: r'.expected := by
  have hphase := h.phase
  -- A portion adds to the bytes that came, and lines in them stay where they are.
  have hportion : ∀ p, r.expected <+: LogFollower.answered r.opened
      (r.follower.lines ((r.portions ++ [p]).flatMap Portion.content)) := by
    intro p
    rw [received_concat]
    exact LogFollower.answered_isPrefix _ ((Deframer.frames_isPrefix _ _ _).map _)
  cases next with
  | rests | reports | queues | fails => exact List.prefix_refl _
  | opens phase | refused phase =>
    rw [phase] at hphase
    rw [expected, hphase.1]
    exact List.nil_prefix
  | takes => exact hportion _
  | ends => exact hportion _

/-- A step changes the follower in nothing but its phase: `containerId` and `maxFrame` stay. -/
theorem Next.follower_eq (next : r.Next r') : ∃ phase, r'.follower = { r.follower with phase } := by
  cases next <;> exact ⟨_, rfl⟩

theorem follower_eq_foldl (r : Following) (incidents : List Incident) :
    ∃ phase, (incidents.foldl note r).follower = { r.follower with phase } := by
  induction incidents generalizing r with
  | nil => exact ⟨r.follower.phase, rfl⟩
  | cons i rest ih =>
    obtain ⟨phase, hrest⟩ := ih (r.note i)
    obtain ⟨phase', hnote⟩ := (r.next_note i).follower_eq
    exact ⟨phase, by rw [List.foldl_cons, hrest, hnote]⟩

end Following

end Lookout
