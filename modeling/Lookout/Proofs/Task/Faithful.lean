import Lookout.Proofs.Task.Following

/-!
# What is queued of a container's output

What a client is to get is told by the daemon's answer and by the frames that are complete in the
bytes, whatever portions they come in (`LogFollower.due`). A follower queues nothing else, at no
time, and it has queued all of it whenever it waits for bytes or is at its end. If there is room it
always gets that far: each message that is due is followed by the next until none is left, so every
byte stream is followed to its end (`Following.exists_incidents`).

* `Following.Settled` — the follower waits for bytes, or is at its end;
* `Following.Faithful` — what is queued is what is due;
* `Following.Sound.wait` — as long as something is due the follower waits to send a message.
-/

namespace Lookout

/-- **What a client is to get,** by the daemon's answer and the frames that are complete: a line for
each frame that is neither empty nor too long. -/
def LogFollower.due (t : LogFollower) (opened : Option (Except Failure Unit))
    (frames : List RawFrame) : List Envelope :=
  answered opened ((frames.filterMap (·.frame? t.maxFrame)).map t.message)

namespace Following

variable {r r' : Following}

/-! ### What it comes to -/

/-- Whether the follower waits for more bytes, or has come to its end with all its messages sent. -/
def Settled (r : Following) : Prop :=
  (r.follower.phase = .finished ∧ r.failed = false) ∨ ∃ d, r.follower.phase = .reading d

/-- **Whenever the follower is settled all is queued that is due.** At its end this is what `At`
says of the phase; while it waits for bytes it holds no complete frame, so that nothing is kept
back. -/
theorem Sound.settled (h : r.Sound) (settled : r.Settled) : r.queued = r.expected := by
  have hphase := h.phase
  rcases settled with ⟨finished, unfailed⟩ | ⟨d, reading⟩
  · rwa [finished, At, unfailed, if_neg Bool.false_ne_true] at hphase
  · rw [reading] at hphase
    exact hphase.2.queued_eq hphase.1

/-- **As long as something is due** the follower waits to send a message. -/
theorem Sound.wait (h : r.Sound) (unfailed : r.failed = false)
    (due : r.queued.length < r.expected.length) : ∃ e, r.follower.wait = .room e := by
  -- Else all that is due would be queued.
  have hunsettled : ¬r.Settled := fun settled => by
    rw [h.settled settled] at due
    exact Nat.lt_irrefl _ due
  cases phase : r.follower.phase with
  -- Nothing is due before the byte stream is open.
  | opening =>
    have hphase := h.phase
    rw [phase] at hphase
    rw [expected, hphase.1] at due
    exact absurd due (Nat.not_lt_zero _)
  | reporting f => exact ⟨_, by rw [LogFollower.wait, phase]⟩
  | reading d => exact absurd (Or.inr ⟨d, phase⟩) hunsettled
  | sending line d => exact ⟨_, by rw [LogFollower.wait, phase]⟩
  | finished => exact absurd (Or.inl ⟨phase, unfailed⟩) hunsettled

/-- When the byte stream has ended or failed, so has the follower, with all its messages sent. -/
theorem Sound.last (h : r.Sound) {p : Portion} (mem : p ∈ r.portions)
    (last : p = .ended ∨ p = .failed) : r.follower.phase = .finished ∧ r.failed = false := by
  by_contra hgoing
  obtain ⟨bs, rfl⟩ := h.ongoing (fun finished => by simpa [finished] using hgoing) p mem
  rcases last with last | last <;> cases last

/-- **What is queued of the output that a follower `t` is to follow.** -/
structure Faithful (t : LogFollower) (r : Following) : Prop where
  /-- There are frames that are complete, and a rest. -/
  parted : ∃ frames rest, Parted r.received frames rest
  /-- Nothing but what is due, in order. Whatever bytes follow, no line is taken back. -/
  queued : ∀ more frames rest, Parted (r.received ++ more) frames rest →
    r.queued <+: t.due r.opened frames
  /-- All that is due, whenever the follower waits for more bytes, and at its end. -/
  settled : r.Settled → ∀ frames rest, Parted r.received frames rest →
    r.queued = t.due r.opened frames
  /-- When the byte stream ends or fails, no line is lost, and it is not given up before. -/
  last : ∀ p ∈ r.portions, p = .ended ∨ p = .failed →
    r.follower.phase = .finished ∧ r.failed = false
  ended : r.follower.phase = .finished → r.failed = false → r.opened = some (.ok ()) →
    ∃ p ∈ r.portions, p = .ended ∨ p = .failed
  /-- The end of the byte stream does not complete a frame. -/
  nothing : ∀ d, r.follower.phase = .reading d → (d.nextAtEnd t.maxFrame).2 = .clean ∨
    (d.nextAtEnd t.maxFrame).2 = .cut

/-- What is due, told from the frames that are complete: `Parted` names them, and the deframer does
not occur. -/
theorem due_of_parted {t : LogFollower} (same : ∃ phase, r.follower = { t with phase })
    {bytes rest : List UInt8} {frames : List RawFrame} (parted : Parted bytes frames rest) :
    t.due r.opened frames = LogFollower.answered r.opened (r.follower.lines bytes) := by
  obtain ⟨phase, same⟩ := same
  rw [same, LogFollower.due, LogFollower.lines, Deframer.frames_of_parted parted]
  rfl

theorem Sound.faithful {t : LogFollower} (h : r.Sound)
    (same : ∃ phase, r.follower = { t with phase }) : r.Faithful t := by
  constructor
  case parted => exact exists_parted r.received
  -- Frames are only added by further bytes, so that those of the front are a front of those of all.
  case queued =>
    intro more frames rest parted
    refine h.queued_isPrefix.trans ?_
    rw [due_of_parted same parted, expected]
    exact LogFollower.answered_isPrefix _ ((Deframer.frames_isPrefix _ _ _).map _)
  case settled =>
    intro settled frames rest parted
    rw [h.settled settled, due_of_parted same parted, expected]
  case last => exact fun p hp hlast => h.last hp hlast
  case ended => exact h.ended
  -- `At` says that a step finds no frame; what is left is nothing at all, or a frame that was cut.
  case nothing =>
    intro d reading
    have hphase := h.phase
    rw [reading] at hphase
    have hnext : d.next t.maxFrame = (d, none) := by
      obtain ⟨phase, same⟩ := same
      have heq := hphase.1
      rwa [same] at heq
    rw [Deframer.nextAtEnd, hnext]
    dsimp only
    split
    · exact Or.inl rfl
    · exact Or.inr rfl

/-- **The portions do not count:** what is queued depends on the daemon's answer and the bytes. -/
theorem Faithful.queued_eq {t : LogFollower} (h : r.Faithful t) (h' : r'.Faithful t)
    (opened : r'.opened = r.opened) (received : r'.received = r.received) (settled : r.Settled)
    (settled' : r'.Settled) : r'.queued = r.queued := by
  obtain ⟨frames, rest, parted⟩ := h.parted
  rw [h.settled settled frames rest parted, h'.settled settled' frames rest (received ▸ parted),
    opened]

/-! ### Whole byte streams -/

/-- Where nothing more is due the follower is settled: it waits for bytes, or has come to its
end. -/
theorem Sound.settled_of_le (h : r.Sound) (unfailed : r.failed = false)
    (opened : r.opened = some (.ok ())) (all : r.expected.length ≤ r.queued.length) :
    r.Settled := by
  have hphase := h.phase
  cases phase : r.follower.phase with
  | opening =>
    rw [phase, At, opened] at hphase
    cases hphase.1
  | reporting f =>
    rw [phase, At, opened] at hphase
    cases hphase.1
  | reading d => exact Or.inr ⟨d, phase⟩
  | sending line d =>
    -- The line in hand is due.
    rw [phase] at hphase
    have hlines := hphase.lines []
    rw [List.append_nil] at hlines
    rw [expected_of_opened hphase.opened, hlines, List.length_append, List.length_cons] at all
    omega
  | finished => exact Or.inl ⟨phase, unfailed⟩

/-- A message that is due is queued if there is room, and it is the next of those that are due. -/
theorem Sound.note_sent (h : r.Sound) (unfailed : r.failed = false)
    (due : r.queued.length < r.expected.length) :
    let r' := r.note (.sent true)
    r'.queued.length = r.queued.length + 1 ∧ r'.expected = r.expected ∧ r'.failed = false ∧
      r'.opened = r.opened ∧ r'.portions = r.portions := by
  intro r'
  obtain ⟨e, wait⟩ := h.wait unfailed due
  -- The follower waits for room, so that the answer concerns it.
  have hmessage : (TaskBody.logs r.follower).message? (.sent true) = some e := by
    rw [TaskBody.message?, TaskBody.wait, wait]
  obtain ⟨phase, hfollower⟩ := (r.next_note (.sent true)).follower_eq
  have hexpected : r'.expected = r.expected := by
    rw [expected, hfollower]
    rfl
  refine ⟨?_, hexpected, unfailed, rfl, rfl⟩
  change (((TaskBody.logs r.follower).message? (.sent true)).elim r.queued
    fun e => r.queued ++ [e]).length = _
  rw [hmessage, Option.elim_some, List.length_append, List.length_singleton]

/-- If there is room for all messages, all that is due is queued. The induction is on how many are
missing, with `Sound.note_sent` as the step. -/
theorem Sound.exists_settled (h : r.Sound) (unfailed : r.failed = false)
    (opened : r.opened = some (.ok ())) : ∃ incidents : List Incident,
      let r' := incidents.foldl note r
      r'.Settled ∧ r'.failed = false ∧ r'.opened = some (.ok ()) ∧ r'.portions = r.portions := by
  -- On the number of messages that are still to be queued.
  induction hleft : r.expected.length - r.queued.length generalizing r with
  | zero =>
    have hall : r.expected.length ≤ r.queued.length := Nat.sub_eq_zero_iff_le.mp hleft
    exact ⟨[], h.settled_of_le unfailed opened hall, unfailed, opened, rfl⟩
  | succ left ih =>
    have hdue : r.queued.length < r.expected.length := Nat.lt_of_sub_eq_succ hleft
    obtain ⟨hqueued, hexpected, hunfailed, hopened, hportions⟩ := h.note_sent unfailed hdue
    obtain ⟨incidents, hsettled⟩ := ih ((r.next_note _).sound h) hunfailed (hopened.trans opened)
      (by rw [hqueued, hexpected]; omega)
    rw [hportions] at hsettled
    exact ⟨.sent true :: incidents, hsettled⟩

/-- A follower that reads takes the `Portion` that comes, and holds it with what it had. -/
theorem note_portion {d : Deframer} (reading : r.follower.phase = .reading d) (p : Portion) :
    let r' := r.note (.told (.portion p))
    r'.portions = r.portions ++ [p] ∧ r'.opened = r.opened ∧ r'.failed = r.failed := by
  refine ⟨?_, rfl, rfl⟩
  rw [note, LogFollower.portion?, reading]
  rfl

/-- Portions are taken one after the other, each when the lines of those before are queued. -/
theorem Sound.exists_reading (h : r.Sound) {d : Deframer} (reading : r.follower.phase = .reading d)
    (chunks : List (List UInt8)) : ∃ incidents : List Incident,
      let r' := incidents.foldl note r
      (∃ d', r'.follower.phase = .reading d') ∧ r'.portions = r.portions ++ chunks.map .bytes := by
  -- On the chunks: each one is taken, then what it completes is queued before the next one comes.
  induction chunks generalizing r d with
  | nil => exact ⟨[], ⟨d, reading⟩, (List.append_nil _).symm⟩
  | cons bs rest ih =>
    obtain ⟨hunfailed, hbytes⟩ := h.going (by rw [reading]; nofun)
    have hphase := h.phase
    rw [reading] at hphase
    obtain ⟨hportions, hopened, hfailed⟩ := note_portion reading (.bytes bs)
    have hnote := (r.next_note (.told (.portion (.bytes bs)))).sound h
    obtain ⟨incidents, hsettled, hunfailed', hopened', hportions'⟩ :=
      hnote.exists_settled (hfailed.trans hunfailed) (hopened.trans hphase.2.opened)
    rw [hportions] at hportions'
    have hsound := sound_foldl hnote incidents
    rcases hsettled with ⟨finished, -⟩ | ⟨d', reading'⟩
    · -- only the end of the byte stream ends the follower, and all that came are bytes
      obtain ⟨p, hp, hlast⟩ := hsound.ended finished hunfailed' hopened'
      rw [hportions', List.mem_append, List.mem_singleton] at hp
      obtain ⟨bs', rfl⟩ : ∃ bs', p = .bytes bs' := hp.elim (hbytes p) fun heq => ⟨bs, heq⟩
      rcases hlast with hlast | hlast <;> cases hlast
    · obtain ⟨more, hreading, hmore⟩ := ih hsound reading'
      refine ⟨.told (.portion (.bytes bs)) :: (incidents ++ more), ?_⟩
      rw [List.foldl_cons, List.foldl_append]
      refine ⟨hreading, hmore.trans ?_⟩
      rw [hportions', List.append_assoc]
      rfl

/-- **Every byte stream is followed to its end,** in any portions, if there is room for the
lines. -/
theorem exists_incidents {t : LogFollower} (phase : t.phase = .opening)
    (chunks : List (List UInt8)) {last : Portion} (ends : last = .ended ∨ last = .failed) :
    ∃ incidents, let r := of t incidents
      r.opened = some (.ok ()) ∧ r.portions = chunks.map .bytes ++ [last] ∧
        r.follower.phase = .finished ∧ r.failed = false := by
  have hsound : (of t [.told (.opened (.ok ()))]).Sound := sound_of phase _
  -- The stream is opened, the chunks are taken one by one, and the last portion ends it.
  have hopens : (of t [.told (.opened (.ok ()))]).follower.phase = .reading {} := by
    change (t.resume (.opened (.ok ()))).phase = _
    simp only [LogFollower.resume, phase]
  obtain ⟨incidents, ⟨d, hreading⟩, hportions⟩ := hsound.exists_reading hopens chunks
  have hsound' := sound_foldl hsound incidents
  have hphase := hsound'.phase
  rw [hreading] at hphase
  obtain ⟨hportions', hopened, -⟩ := note_portion hreading last
  refine ⟨.told (.opened (.ok ())) :: (incidents ++ [.told (.portion last)]), ?_⟩
  rw [of, List.foldl_cons, List.foldl_append]
  refine ⟨hopened.trans hphase.2.opened, ?_, ?_⟩
  · rw [hportions] at hportions'
    exact hportions'
  · have hmem : last ∈ (note _ (.told (.portion last))).portions :=
      hportions' ▸ List.mem_append_right _ (List.mem_singleton_self last)
    exact ((next_note _ _).sound hsound').last hmem ends

theorem received_of_chunks {chunks : List (List UInt8)} {last : Portion}
    (ends : last = .ended ∨ last = .failed)
    (portions : r.portions = chunks.map .bytes ++ [last]) : r.received = chunks.flatten := by
  have hcontent : last.content = [] := by rcases ends with rfl | rfl <;> rfl
  rw [received, portions, List.flatMap_append, List.flatMap_singleton, hcontent, List.append_nil,
    List.flatMap_map]
  exact List.flatMap_id'

end Following

end Lookout
