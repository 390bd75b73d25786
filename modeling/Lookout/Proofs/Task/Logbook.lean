import Lookout.Proofs.Agent.Incident
import Mathlib.Data.List.Chain

/-!
# Rounds of a sampler

A sampler goes round: it waits for its tick, asks for a snapshot, and sends it. There is only one
place from which it asks, behind a tick, and only one answer that it waits for, so what it was
answered is one behind what it asked as long as it collects, and as much else. A snapshot is in its
hand until its message is queued or refused, and only then the next round begins; so the snapshots
that it took are those that were queued, followed by the one in its hand or the one that was
refused. This is `Logbook.Sound`, which every incident keeps. A snapshot that could not be taken
only shows in the answers.

How often it ticks is another matter. Each tick puts the next one off by the period, or by the
longest wait if that is less (`Ticker.stride`): from when it was due, and up to the tolerance also
from when it was taken. So ticks that were missed are not made up for.

* `Logbook`, `Logbook.of` — what became of the rounds in some incidents;
* `Logbook.Next`, `Logbook.next_note` — all that one incident can do;
* `Logbook.Sound`, `Logbook.sound_of` — what was asked, answered, queued, and is in hand;
* `Logbook.Paced`, `Logbook.paced_of` — when it ticked;
* `Logbook.exists_incidents` — whatever it is answered, it goes on.
-/

namespace Lookout

namespace Ticker

/-- How far apart the ticks are at least, in milliseconds. -/
def stride (t : Ticker) : Nat := min t.period longestWait

variable (t : Ticker) {now : Nat}

/-- A `tick` does not change how far apart ticks are. -/
@[simp] theorem stride_tick (now : Nat) : (t.tick now).stride = t.stride := rfl

/-- A `tick` puts the next one off by a stride or more, from when this one was due. -/
theorem due_tick (due : t.due ≤ now) : t.due + t.stride ≤ (t.tick now).due := by
  simp only [tick, stride]
  split
  · omega
  · split <;> omega

theorem le_due_tick (now : Nat) : now + t.stride ≤ (t.tick now).due + tickTolerance := by
  simp only [tick, stride]
  split
  · omega
  · split <;> omega

end Ticker

namespace MetricsSampler

/-- The snapshot that the sampler has yet to send. -/
def inHand? (t : MetricsSampler) : Option HostMetrics :=
  match t.phase with
  | .sending m => some m
  | .waiting | .collecting | .finished => none

/-- What is in hand is being sent: `inHand?` finds a snapshot in the phase `sending` only. -/
theorem phase_of_inHand {t : MetricsSampler} {m : HostMetrics} (inHand : t.inHand? = some m) :
    t.phase = .sending m := by
  rw [inHand?] at inHand
  split at inHand
  · next phase => rw [phase, Option.some.inj inHand]
  all_goals cases inHand

/-- Whether the sampler has asked for a snapshot and was not answered yet. -/
def isCollecting (t : MetricsSampler) : Bool :=
  match t.phase with
  | .collecting => true
  | .waiting | .sending _ | .finished => false

/-- The sampler after an incident. -/
def undergo (t : MetricsSampler) : Incident → MetricsSampler
  | .told n => t.resume n
  | .sent accepted => t.sent accepted
  | .turned _ | .read | .supplied _ | .abandoned => t

/-- When the sampler ticks, if it does in an incident. -/
def tick? (t : MetricsSampler) : Incident → Option Nat
  | .told (.time now) =>
    match t.phase with
    | .waiting => if t.ticker.due ≤ now then some now else none
    | .collecting | .sending _ | .finished => none
  | _ => none

/-- Whether the sampler asks for a snapshot in an incident. -/
def asks (t : MetricsSampler) (i : Incident) : Bool := !t.isCollecting && (t.undergo i).isCollecting

/-- What the sampler is answered in an incident. -/
def outcome? (t : MetricsSampler) : Incident → Option (Except Failure HostMetrics)
  | .told (.snapshot outcome) => if t.isCollecting then some outcome else none
  | _ => none

/-- The snapshot whose message is accepted in an incident. -/
def accepted? (t : MetricsSampler) : Incident → Option HostMetrics
  | .sent true => t.inHand?
  | _ => none

/-- The snapshot whose message is refused in an incident. -/
def refused? (t : MetricsSampler) : Incident → Option HostMetrics
  | .sent false => t.inHand?
  | _ => none

end MetricsSampler

/-- An incident of a task that samples the host is one of its sampler: `TaskBody.undergo` only
passes it on. -/
theorem TaskBody.undergo_metrics (t : MetricsSampler) (i : Incident) :
    (TaskBody.metrics t).undergo i = .metrics (t.undergo i) := by
  cases i <;> rfl

/-- Many incidents of a task that samples the host are those of its sampler, one after the other. -/
theorem TaskBody.foldl_undergo_metrics (t : MetricsSampler) (incidents : List Incident) :
    incidents.foldl TaskBody.undergo (.metrics t) =
      .metrics (incidents.foldl MetricsSampler.undergo t) :=
  List.foldl_hom TaskBody.metrics TaskBody.undergo_metrics

/-- **What became of the rounds of a sampler.** -/
structure Logbook where
  sampler : MetricsSampler
  /-- When it ticked, the first time first. -/
  ticks : List Nat := []
  /-- How often it asked for a snapshot. -/
  asked : Nat := 0
  /-- What it was answered. -/
  outcomes : List (Except Failure HostMetrics) := []
  /-- The snapshots whose messages were accepted. -/
  accepted : List HostMetrics := []
  /-- The snapshot whose message was refused. -/
  refused : Option HostMetrics := none
  queued : List Envelope := []

namespace Logbook

/-- The snapshots that were taken; what could not be taken is left out. -/
def snapshots (r : Logbook) : List HostMetrics := r.outcomes.filterMap (·.toOption)

/-- What became of the rounds after an incident. -/
def note (r : Logbook) (i : Incident) : Logbook :=
  { sampler := r.sampler.undergo i
    ticks := (r.sampler.tick? i).elim r.ticks fun now => r.ticks ++ [now]
    asked := if r.sampler.asks i then r.asked + 1 else r.asked
    outcomes := (r.sampler.outcome? i).elim r.outcomes fun o => r.outcomes ++ [o]
    accepted := (r.sampler.accepted? i).elim r.accepted fun m => r.accepted ++ [m]
    refused := (r.sampler.refused? i).or r.refused
    queued := ((TaskBody.metrics r.sampler).message? i).elim r.queued fun e => r.queued ++ [e] }

/-- What becomes of the rounds of a sampler that starts. -/
def of (sampler : MetricsSampler) (incidents : List Incident) : Logbook :=
  incidents.foldl note { sampler }

variable {r r' : Logbook} {start : Nat}

theorem of_append (sampler : MetricsSampler) (incidents more : List Incident) :
    of sampler (incidents ++ more) = more.foldl note (of sampler incidents) :=
  List.foldl_append

/-- The sampler is the same as without a logbook: to `note` something changes nothing. -/
theorem sampler_foldl (r : Logbook) (incidents : List Incident) :
    (incidents.foldl note r).sampler = incidents.foldl MetricsSampler.undergo r.sampler :=
  (List.foldl_hom Logbook.sampler fun _ _ => rfl).symm

/-- What a logbook says was queued is what the sampler had to send whenever it was answered that
there was room. -/
theorem queued_foldl (r : Logbook) (incidents : List Incident) :
    (incidents.foldl note r).queued =
      r.queued ++ (TaskBody.metrics r.sampler).messages incidents := by
  -- On the incidents, for every logbook before.
  induction incidents generalizing r with
  | nil => exact (List.append_nil _).symm
  | cons i rest ih =>
    rw [List.foldl_cons, ih, TaskBody.messages, TaskBody.undergo_metrics, ← List.append_assoc, note]
    cases (TaskBody.metrics r.sampler).message? i with
    | none => rw [Option.elim_none, Option.toList_none, List.append_nil]
    | some e => rfl

/-! ### What an incident can do -/

/-- **All that one incident can do.** -/
inductive Next (r : Logbook) : Logbook → Prop where
  /-- It does not concern the sampler. -/
  | rests : Next r r
  /-- A tick is taken, and a snapshot asked for. -/
  | ticks (phase : r.sampler.phase = .waiting) {now : Nat} (due : r.sampler.ticker.due ≤ now) :
    Next r { r with
      sampler := { ticker := r.sampler.ticker.tick now, phase := .collecting }
      ticks := r.ticks ++ [now]
      asked := r.asked + 1 }
  /-- A snapshot was taken. -/
  | collects (phase : r.sampler.phase = .collecting) (m : HostMetrics) :
    Next r { r with
      sampler := { r.sampler with phase := .sending m }
      outcomes := r.outcomes ++ [.ok m] }
  /-- It could not be taken, and the next tick is waited for. -/
  | misses (phase : r.sampler.phase = .collecting) (f : Failure) :
    Next r { r with
      sampler := { r.sampler with phase := .waiting }
      outcomes := r.outcomes ++ [.error f] }
  | queues {m : HostMetrics} (phase : r.sampler.phase = .sending m) :
    Next r { r with
      sampler := { r.sampler with phase := .waiting }
      accepted := r.accepted ++ [m]
      queued := r.queued ++ [m.toMessage] }
  /-- A message could not be sent. -/
  | fails {m : HostMetrics} (phase : r.sampler.phase = .sending m) :
    Next r { r with
      sampler := { r.sampler with phase := .finished }
      refused := some m }

/-- A sampler that waits takes its tick when it is due, and asks for a snapshot; that is written
down as a round. -/
theorem note_time (waiting : r.sampler.phase = .waiting) {now : Nat}
    (due : r.sampler.ticker.due ≤ now) :
    r.note (.told (.time now)) = { r with
      sampler := { ticker := r.sampler.ticker.tick now, phase := .collecting }
      ticks := r.ticks ++ [now]
      asked := r.asked + 1 } := by
  obtain ⟨⟨ticker, phase⟩, ticks, asked, outcomes, accepted, refused, queued⟩ := r
  obtain rfl : phase = .waiting := waiting
  -- A tick that is due is taken, and with it the collecting starts.
  have hresume : ({ ticker, phase := .waiting } : MetricsSampler).resume (.time now) =
      { ticker := ticker.tick now, phase := .collecting } := if_pos due
  have htick : ({ ticker, phase := .waiting } : MetricsSampler).tick? (.told (.time now)) =
      some now := if_pos due
  rw [note, MetricsSampler.asks, MetricsSampler.undergo, hresume, htick]
  rfl

/-- A tick that is not due is not taken, in whatever phase the sampler is. -/
theorem note_time_of_lt {now : Nat} (early : now < r.sampler.ticker.due) :
    r.note (.told (.time now)) = r := by
  obtain ⟨⟨ticker, phase⟩, ticks, asked, outcomes, accepted, refused, queued⟩ := r
  cases phase with
  | waiting =>
    have hresume : ({ ticker, phase := .waiting } : MetricsSampler).resume (.time now) =
        { ticker, phase := .waiting } := if_neg (Nat.not_le_of_lt early)
    have htick : ({ ticker, phase := .waiting } : MetricsSampler).tick? (.told (.time now)) =
        none := if_neg (Nat.not_le_of_lt early)
    rw [note, MetricsSampler.asks, MetricsSampler.undergo, hresume, htick]
    rfl
  | collecting | sending | finished => rfl

/-- **One incident does one of the six things.** A sampler waits for one kind of notice at a time,
so that all others are `rests`. -/
theorem next_note (r : Logbook) (i : Incident) : r.Next (r.note i) := by
  obtain ⟨⟨ticker, phase⟩, ticks, asked, outcomes, accepted, refused, queued⟩ := r
  -- By the incident and the phase of the sampler; each phase waits for one kind of answer only.
  cases i with
  | told n =>
    cases phase with
    | waiting =>
      cases n with
      | time now =>
        rcases Nat.lt_or_ge now ticker.due with early | due
        · rw [note_time_of_lt early]
          exact .rests
        · rw [note_time rfl due]
          exact .ticks rfl due
      | opened | portion | snapshot => exact .rests
    | collecting =>
      cases n with
      | snapshot outcome =>
        cases outcome with
        | error f => exact .misses rfl f
        | ok m => exact .collects rfl m
      | opened | portion | time => exact .rests
    | sending | finished => cases n <;> exact .rests
  | sent accepted =>
    cases phase with
    | sending m =>
      cases accepted with
      | true => exact .queues rfl
      | false => exact .fails rfl
    | waiting | collecting | finished => cases accepted <;> exact .rests
  | turned | read | supplied | abandoned => cases phase <;> exact .rests

/-! ### What was asked, answered and queued -/

/-- **What holds of the rounds** after every list of incidents. -/
structure Sound (r : Logbook) : Prop where
  /-- A snapshot is asked for at a tick, and at no other time. -/
  asked : r.asked = r.ticks.length
  /-- Each time it is asked for is answered once, before the next one. -/
  answered : r.asked = r.outcomes.length + if r.sampler.isCollecting then 1 else 0
  /-- No snapshot is lost, and none is sent twice. -/
  snapshots : r.snapshots = r.accepted ++ r.refused.toList ++ r.sampler.inHand?.toList
  queued : r.queued = r.accepted.map (·.toMessage)
  /-- Only a message that is refused ends the sampler. -/
  finished : r.sampler.phase = .finished ↔ r.refused ≠ none

/-- One more outcome brings one more snapshot if it is one, and none if it is a failure. -/
theorem snapshots_concat (r : Logbook) (o : Except Failure HostMetrics) :
    (r.outcomes ++ [o]).filterMap (·.toOption) = r.snapshots ++ o.toOption.toList := by
  rw [snapshots, List.filterMap_append]
  cases o <;> rfl

/-- Until the sampler has come to its end nothing was `refused`. -/
theorem Sound.unrefused (h : r.Sound) (going : r.sampler.phase ≠ .finished) : r.refused = none := by
  by_contra hrefused
  exact going (h.finished.mpr hrefused)

/-- **Each step keeps what is sound.** In each case the phase before settles whether the sampler was
collecting and what it had in hand, and with this the equations of `Sound` are read off. -/
theorem Next.sound (next : r.Next r') (h : r.Sound) : r'.Sound := by
  have hanswered := h.answered
  have hsnapshots := h.snapshots
  rw [MetricsSampler.isCollecting] at hanswered
  rw [MetricsSampler.inHand?] at hsnapshots
  cases next with
  | rests => exact h
  | ticks phase due =>
    have hunrefused := h.unrefused (by rw [phase]; nofun)
    rw [phase] at hanswered hsnapshots
    refine ⟨?_, congrArg (· + 1) hanswered, hsnapshots, h.queued, ⟨nofun, (absurd hunrefused ·)⟩⟩
    rw [List.length_append, List.length_singleton, h.asked]
  | collects phase m =>
    have hunrefused := h.unrefused (by rw [phase]; nofun)
    rw [phase] at hanswered hsnapshots
    refine ⟨h.asked, ?_, ?_, h.queued, ⟨nofun, (absurd hunrefused ·)⟩⟩
    · rw [List.length_append]
      exact hanswered
    · rw [Option.toList_none, List.append_nil] at hsnapshots
      exact (r.snapshots_concat _).trans (congrArg (· ++ [m]) hsnapshots)
  -- A failure is an answer, but no snapshot.
  | misses phase f =>
    have hunrefused := h.unrefused (by rw [phase]; nofun)
    rw [phase] at hanswered hsnapshots
    refine ⟨h.asked, ?_, ?_, h.queued, ⟨nofun, (absurd hunrefused ·)⟩⟩
    · rw [List.length_append]
      exact hanswered
    · exact (r.snapshots_concat _).trans ((List.append_nil _).trans hsnapshots)
  | @queues m phase =>
    have hunrefused := h.unrefused (by rw [phase]; nofun)
    rw [phase] at hanswered hsnapshots
    refine ⟨h.asked, hanswered, ?_, ?_, ⟨nofun, (absurd hunrefused ·)⟩⟩
    · -- the snapshot goes from the hand to those that were queued
      rw [hunrefused, Option.toList_none, List.append_nil] at hsnapshots
      change r.snapshots = r.accepted ++ [m] ++ r.refused.toList ++ []
      rw [hunrefused, Option.toList_none, List.append_nil, List.append_nil]
      exact hsnapshots
    · rw [List.map_append, h.queued]
      rfl
  | @fails m phase =>
    have hunrefused := h.unrefused (by rw [phase]; nofun)
    rw [phase] at hanswered hsnapshots
    refine ⟨h.asked, hanswered, ?_, h.queued, ⟨fun _ => Option.some_ne_none m, fun _ => rfl⟩⟩
    rw [hunrefused, Option.toList_none, List.append_nil] at hsnapshots
    exact hsnapshots.trans (List.append_nil _).symm

/-- Any steps keep what is sound, by `next_note` and `Next.sound` for each. -/
theorem sound_foldl (h : r.Sound) (incidents : List Incident) : (incidents.foldl note r).Sound := by
  induction incidents generalizing r with
  | nil => exact h
  | cons i rest ih => exact ih ((r.next_note i).sound h)

/-- A sampler that waits for its first tick is sound, and so is all that becomes of it. -/
theorem sound_of {sampler : MetricsSampler} (phase : sampler.phase = .waiting)
    (incidents : List Incident) : (of sampler incidents).Sound := by
  refine sound_foldl ⟨rfl, ?_, ?_, rfl, ?_⟩ incidents
  -- It has asked for nothing, and has nothing in hand.
  · rw [MetricsSampler.isCollecting, phase]
    rfl
  · rw [MetricsSampler.inHand?, phase]
    rfl
  · rw [phase]
    exact ⟨nofun, fun h => absurd rfl h⟩

/-- **A snapshot that could not be taken** queues nothing, and the sampler is `waiting` for its next
tick again. -/
theorem note_error (collecting : r.sampler.isCollecting = true) (f : Failure) :
    r.note (.told (.snapshot (.error f))) = { r with
      sampler := { r.sampler with phase := .waiting }
      outcomes := r.outcomes ++ [.error f] } := by
  obtain ⟨⟨ticker, phase⟩, ticks, asked, outcomes, accepted, refused, queued⟩ := r
  cases phase with
  | collecting => rfl
  | waiting | sending | finished => cases collecting

/-- **At its end** the sampler neither ticks nor asks nor queues any more: in the phase `finished`
no incident does anything. -/
theorem note_of_finished (finished : r.sampler.phase = .finished) (i : Incident) :
    r.note i = r := by
  obtain ⟨⟨ticker, phase⟩, ticks, asked, outcomes, accepted, refused, queued⟩ := r
  obtain rfl : phase = .finished := finished
  cases i with
  | told n => cases n <;> rfl
  | sent accepted => cases accepted <;> rfl
  | turned | read | supplied | abandoned => rfl

/-- A sampler that has ended notes nothing more, however many incidents there are. -/
theorem foldl_of_finished (finished : r.sampler.phase = .finished) (incidents : List Incident) :
    incidents.foldl note r = r := by
  induction incidents with
  | nil => rfl
  | cons i rest ih => rw [List.foldl_cons, note_of_finished finished, ih]

theorem note_abandoned (r : Logbook) : r.note .abandoned = r := by
  obtain ⟨⟨ticker, phase⟩, ticks, asked, outcomes, accepted, refused, queued⟩ := r
  cases phase <;> rfl

theorem foldl_abandoned (r : Logbook) (n : Nat) :
    (List.replicate n .abandoned).foldl note r = r := by
  induction n with
  | zero => rfl
  | succ n ih => rw [List.replicate_succ, List.foldl_cons, note_abandoned, ih]

/-! ### When it ticked -/

/-- **How often a sampler ticks** that starts at some time. -/
structure Paced (start stride : Nat) (r : Logbook) : Prop where
  ticker : r.sampler.ticker.stride = stride
  /-- Before each tick there was time for all those before it. -/
  early : ∀ k now, r.ticks[k]? = some now → start + k * stride ≤ now
  due : start + r.ticks.length * stride ≤ r.sampler.ticker.due
  /-- No two ticks are closer, up to the tolerance. -/
  apart : r.ticks.IsChain fun now next => now + stride ≤ next + tickTolerance
  last : ∀ now ∈ r.ticks.getLast?, now + stride ≤ r.sampler.ticker.due + tickTolerance

/-- **Each step keeps the pace.** Only a tick matters: it is taken when it is due, so that the next
one is due a `stride` later than this one was (`due_tick`), and not much earlier than a stride from
now (`le_due_tick`). -/
theorem Next.paced {stride : Nat} (next : r.Next r') (h : r.Paced start stride) :
    r'.Paced start stride := by
  cases next with
  | rests => exact h
  | @ticks phase now due =>
    have hdue := r.sampler.ticker.due_tick due
    have hlate := r.sampler.ticker.le_due_tick now
    rw [h.ticker] at hdue hlate
    refine ⟨(r.sampler.ticker.stride_tick now).trans h.ticker, ?_, ?_, ?_, ?_⟩
    -- No tick is taken before its time, counted from the start.
    · intro k now' hk
      rcases Nat.lt_or_ge k r.ticks.length with hlt | hge
      · rw [List.getElem?_append_left hlt] at hk
        exact h.early k now' hk
      · -- it is the tick that was just taken
        rw [List.getElem?_append_right hge, List.getElem?_singleton] at hk
        split at hk
        · obtain rfl := Option.some.inj hk
          obtain rfl : k = r.ticks.length := by omega
          exact h.due.trans due
        · cases hk
    -- Nor is the next one due before.
    · have hbefore := h.due
      rw [List.length_append, List.length_singleton, Nat.succ_mul]
      dsimp only
      omega
    -- Two ticks are a stride apart, but for the tolerance.
    · refine h.apart.append (List.isChain_singleton now) fun earlier hearlier next hnext => ?_
      obtain rfl : next = now := by simpa using hnext.symm
      exact (h.last earlier hearlier).trans (Nat.add_le_add_right due _)
    · intro now' hnow'
      obtain rfl : now' = now := by simpa using hnow'.symm
      exact hlate
  | collects | misses | queues | fails => exact ⟨h.ticker, h.early, h.due, h.apart, h.last⟩

/-- Any steps keep the pace, by `next_note` and `Next.paced` for each. -/
theorem paced_foldl {stride : Nat} (h : r.Paced start stride) (incidents : List Incident) :
    (incidents.foldl note r).Paced start stride := by
  induction incidents generalizing r with
  | nil => exact h
  | cons i rest ih => exact ih ((r.next_note i).paced h)

theorem paced_of (start period : Nat) (incidents : List Incident) :
    (of (.start start period) incidents).Paced start (min period longestWait) := by
  have hdue : start + 0 * min period longestWait ≤ start := by rw [Nat.zero_mul, Nat.add_zero]
  refine paced_foldl (r := { sampler := .start start period }) ⟨rfl, ?_, hdue, .nil, ?_⟩ incidents
  · exact fun k now hk => by cases hk
  · exact fun now hnow => by cases hnow

/-! ### Whatever it is answered -/

/-- A sampler that waits takes its tick when it is due, and what it is answered then. A failure
brings it back to waiting; a snapshot does once it is queued. -/
theorem exists_round (waiting : r.sampler.phase = .waiting) (o : Except Failure HostMetrics) :
    ∃ incidents : List Incident,
      let r' := incidents.foldl note r
      r'.sampler.phase = .waiting ∧ r'.outcomes = r.outcomes ++ [o] ∧
        r'.accepted = r.accepted ++ o.toOption.toList := by
  have htime := note_time waiting (Nat.le_refl _)
  -- A failure takes two incidents, a snapshot three: it has to be queued as well.
  cases o with
  | error f =>
    refine ⟨[.told (.time r.sampler.ticker.due), .told (.snapshot (.error f))], ?_⟩
    rw [List.foldl_cons, htime]
    exact ⟨rfl, rfl, (List.append_nil _).symm⟩
  | ok m =>
    refine ⟨[.told (.time r.sampler.ticker.due), .told (.snapshot (.ok m)), .sent true], ?_⟩
    rw [List.foldl_cons, htime]
    exact ⟨rfl, rfl, rfl⟩

/-- **Whatever it is answered,** a sampler that waits goes on: for all outcomes there are incidents
that bring them, after which it waits again, and each snapshot among them is queued. By
`exists_round`, one outcome after the other. -/
theorem exists_incidents (waiting : r.sampler.phase = .waiting)
    (outcomes : List (Except Failure HostMetrics)) : ∃ incidents : List Incident,
      let r' := incidents.foldl note r
      r'.sampler.phase = .waiting ∧ r'.outcomes = r.outcomes ++ outcomes ∧
        r'.accepted = r.accepted ++ outcomes.filterMap (·.toOption) := by
  induction outcomes generalizing r with
  | nil => exact ⟨[], waiting, (List.append_nil _).symm, (List.append_nil _).symm⟩
  | cons o rest ih =>
    obtain ⟨incidents, hwaiting, houtcomes, haccepted⟩ := exists_round waiting o
    obtain ⟨more, hwaiting', houtcomes', haccepted'⟩ := ih hwaiting
    refine ⟨incidents ++ more, ?_⟩
    rw [List.foldl_append]
    refine ⟨hwaiting', ?_, ?_⟩
    · rw [houtcomes', houtcomes, List.append_assoc]
      rfl
    · rw [haccepted', haccepted, List.append_assoc]
      cases o <;> rfl

end Logbook

end Lookout
