import Lookout.Proofs.Agent.Course

/-!
# What becomes of samples

A reader stores samples in a cell, each in place of the one before, and a sender takes what is
there. The two go on in any order, so samples are left out, and one that the sender holds may be old
by the time it is queued. The chronicle of a feed counts: which samples were stored, how many of
them there were whenever the sender took one, and how many ticks had passed whenever one was queued.

Six kinds of incidents and nine phases of the sender make sixteen things that can become of a
chronicle in one incident. `Chronicle.Next` lists them, each with all that it needs to happen and
all that it does, so that what is true of chronicles is proved once for each of them.

* `StatsFeed.stored?`, `StatsFeed.taken?`, `StatsFeed.pushed?` — what an incident is to the samples;
* `Chronicle`, `Chronicle.of` — what became of them in some incidents;
* `Chronicle.pushes_foldl` — its pushes are the samples among the messages of the feed;
* `Chronicle.Next`, `Chronicle.next_note` — all that one incident can do.
-/

namespace Lookout

/-! ### What an incident is to the samples -/

/-- The sample that a sender holds, and whether it is the last one that it sends. -/
def SenderPhase.holds? : SenderPhase → Option (ContainerStats × Bool)
  | .sending s _ => some (s, false)
  | .sendingLast s => some (s, true)
  | _ => none

namespace StatsFeed

/-- The feed after an incident. -/
def undergo (t : StatsFeed) : Incident → StatsFeed
  | .told n => t.resume n
  | .turned now => t.turn now
  | .sent accepted => t.sent accepted
  | .read => t.readerStep
  | .supplied p => t.readerArrived p
  | .abandoned => t.readerCancelled

/-- The sample that the reader decodes and stores in an incident. -/
def stored? (t : StatsFeed) : Incident → Option ContainerStats
  | .read =>
    match t.reader.map StatsReader.step with
    | some (.store s _) => some (s.toStats t.containerId.text)
    | _ => none
  | _ => none

/-- Whether the sender takes a sample in an incident, and if so whether it is the last one that it
sends. -/
def taken? (t : StatsFeed) (i : Incident) : Option Bool :=
  match t.phase.holds?, (t.undergo i).phase.holds? with
  | none, some (_, closing) => some closing
  | _, _ => none

/-- Whether the sender passes a tick in an incident. -/
def ticks (t : StatsFeed) (i : Incident) : Bool :=
  match t.phase, (t.undergo i).phase with
  | .waiting _, .checking _ => true
  | _, _ => false

/-- The sample that is queued in an incident, as a message. -/
def pushed? (t : StatsFeed) (i : Incident) : Option Envelope :=
  ((TaskBody.stats t).message? i).filter fun e => e.type? = some .containerStats

/-- Whether a message could not be sent in an incident. -/
def fails (t : StatsFeed) : Incident → Bool
  | .sent false =>
    match t.wait with
    | .room _ => true
    | _ => false
  | _ => false

/-! ### What the sender does -/

/-- **What a notice does to the sender:** it is awaited in two phases only, while the byte stream is
being opened and between two ticks. In all others, and if a tick is not due, nothing happens. The
four cases are all that `Chronicle.next_told` has to know of `StatsFeed.resume`. -/
theorem resume_cases (t : StatsFeed) (n : Notice) :
    (t.phase = .opening ∧ t.resume n = { t with phase := .awaiting, reader := some {} }) ∨
      (∃ f, t.phase = .opening ∧ t.resume n = { t with phase := .reporting f }) ∨
      (∃ ticker now, t.phase = .waiting ticker ∧
        t.resume n = { t with phase := .checking (ticker.tick now) }) ∨
      t.resume n = t := by
  -- The byte stream is open, it could not be opened, a tick is due, and whatever else.
  unfold resume
  split
  · next hphase => exact Or.inl ⟨hphase, rfl⟩
  · next f hphase => exact Or.inr (Or.inl ⟨f, hphase, rfl⟩)
  · next ticker now hphase =>
    split
    · exact Or.inr (Or.inr (Or.inl ⟨ticker, now, hphase, rfl⟩))
    · exact Or.inr (Or.inr (Or.inr rfl))
  · exact Or.inr (Or.inr (Or.inr rfl))

/-- Only samples and the report of a failure are sent: in all other phases the sender does not wait
for room. -/
theorem wait_ne_room (t : StatsFeed) (holds : t.phase.holds? = none)
    (reporting : ∀ f, t.phase ≠ .reporting f) (e : Envelope) : t.wait ≠ .room e := by
  rw [wait]
  cases hphase : t.phase with
  | reporting f => exact absurd hphase (reporting f)
  | sending | sendingLast =>
    rw [hphase] at holds
    cases holds
  -- While there is no sample the sender waits for the cell, or for a turn.
  | awaiting =>
    dsimp only
    split_ifs <;> nofun
  | opening | taking | waiting | checking | finished => nofun

end StatsFeed

/-- An incident of a task that feeds samples is one of its feed: `TaskBody.undergo` only passes it
on. -/
theorem TaskBody.undergo_stats (t : StatsFeed) (i : Incident) :
    (TaskBody.stats t).undergo i = .stats (t.undergo i) := by
  cases i <;> rfl

/-- Many incidents of a task that feeds samples are those of its feed, one after the other. -/
theorem TaskBody.foldl_undergo_stats (t : StatsFeed) (incidents : List Incident) :
    incidents.foldl TaskBody.undergo (.stats t) = .stats (incidents.foldl StatsFeed.undergo t) :=
  List.foldl_hom TaskBody.stats TaskBody.undergo_stats

/-! ### Chronicles -/

/-- The sender took a sample. -/
structure Take where
  /-- How many samples had been stored, of which it took the last one. -/
  count : Nat
  /-- Whether the reader had stopped, so that it was the last one to be sent. -/
  closing : Bool
  deriving DecidableEq

/-- A sample was queued. -/
structure SamplePush where
  message : Envelope
  /-- How many ticks the sender had passed. -/
  ticks : Nat

/-- **What became of the samples of a feed.** -/
structure Chronicle where
  feed : StatsFeed
  /-- The samples that the reader stored, the first one first. -/
  stored : List ContainerStats := []
  takes : List Take := []
  /-- How many ticks the sender has passed. -/
  ticks : Nat := 0
  pushes : List SamplePush := []
  /-- Whether a message could not be sent. -/
  failed : Bool := false

namespace Chronicle

/-- The chronicle after an incident. -/
def note (r : Chronicle) (i : Incident) : Chronicle :=
  { feed := r.feed.undergo i
    stored := (r.feed.stored? i).elim r.stored fun s => r.stored ++ [s]
    takes := (r.feed.taken? i).elim r.takes fun closing => r.takes ++ [⟨r.stored.length, closing⟩]
    ticks := if r.feed.ticks i then r.ticks + 1 else r.ticks
    pushes := (r.feed.pushed? i).elim r.pushes fun message => r.pushes ++ [⟨message, r.ticks⟩]
    failed := if r.feed.fails i then true else r.failed }

/-- The chronicle of a feed that starts. -/
def of (feed : StatsFeed) (incidents : List Incident) : Chronicle := incidents.foldl note { feed }

/-- The feed is the same in the chronicle as without one: to note something changes nothing. -/
theorem feed_foldl (r : Chronicle) (incidents : List Incident) :
    (incidents.foldl note r).feed = incidents.foldl StatsFeed.undergo r.feed :=
  (List.foldl_hom Chronicle.feed fun _ _ => rfl).symm

/-- The pushes are the samples among the messages that are queued; the only other one is the report
of a failure. -/
theorem pushes_foldl (r : Chronicle) (incidents : List Incident) :
    (incidents.foldl note r).pushes.map (·.message) =
      r.pushes.map (·.message) ++
        ((TaskBody.stats r.feed).messages incidents).filter fun e =>
          e.type? = some .containerStats := by
  -- On the incidents, for every chronicle before, since each one is noted on top of those before.
  induction incidents generalizing r with
  | nil => exact (List.append_nil _).symm
  | cons i rest ih =>
    rw [List.foldl_cons, ih, TaskBody.messages, List.filter_append, TaskBody.undergo_stats,
      ← List.append_assoc]
    congr 1
    rw [note, StatsFeed.pushed?]
    dsimp only
    cases (TaskBody.stats r.feed).message? i with
    | none => exact (List.append_nil _).symm
    | some e =>
      rw [Option.filter_some, Option.toList_some, List.filter_singleton]
      -- A message is a push if it is a sample, and this is what the filter keeps of it.
      cases decide (e.type? = some .containerStats) with
      | true => exact List.map_append
      | false => exact (List.append_nil _).symm

/-! ### What an incident can do -/

/-- **All that one incident can do** to a chronicle. -/
inductive Next (r : Chronicle) : Chronicle → Prop where
  /-- Nothing but that bytes arrive at the reader, that it skips a line, or that it stops. -/
  | rests (reader : Option StatsReader) (stopped : r.feed.reader = none → reader = none) :
    Next r { r with feed := { r.feed with reader } }
  /-- The reader stores a sample. -/
  | stores (s : ContainerStats) (reader : StatsReader) (reads : r.feed.reader.isSome = true) :
    Next r { r with
      feed := { r.feed with reader := some reader, cell := r.feed.cell.store s }
      stored := r.stored ++ [s] }
  /-- The byte stream is open. -/
  | opens (phase : r.feed.phase = .opening) :
    Next r { r with feed := { r.feed with phase := .awaiting, reader := some {} } }
  /-- It could not be opened, of which the client is told. -/
  | refused (phase : r.feed.phase = .opening) (f : Failure) :
    Next r { r with feed := { r.feed with phase := .reporting f } }
  | reports {f : Failure} (phase : r.feed.phase = .reporting f) (failed : Bool) :
    Next r { r with
      feed := { r.feed with phase := .finished }
      failed := if failed then true else r.failed }
  /-- The first sample is there. -/
  | notices (phase : r.feed.phase = .awaiting) (unseen : r.feed.cell.unseen = true)
    (t : Ticker) :
    Next r { r with feed := { r.feed with phase := .taking t, cell := r.feed.cell.see } }
  /-- There will be none. -/
  | leaves (phase : r.feed.phase = .awaiting) (unseen : r.feed.cell.unseen = false)
    (stopped : r.feed.reader = none) :
    Next r { r with feed := { r.feed with phase := .finished } }
  /-- The sample is taken. -/
  | takes {t : Ticker} {s : ContainerStats} (phase : r.feed.phase = .taking t)
    (latest : r.feed.cell.latest = some s) :
    Next r { r with
      feed := { r.feed with phase := .sending s t, cell := r.feed.cell.see }
      takes := r.takes ++ [⟨r.stored.length, false⟩] }
  | misses {t : Ticker} (phase : r.feed.phase = .taking t) (latest : r.feed.cell.latest = none) :
    Next r { r with feed := { r.feed with phase := .waiting t, cell := r.feed.cell.see } }
  /-- It is queued. -/
  | pushes {t : Ticker} {s : ContainerStats} (phase : r.feed.phase = .sending s t) :
    Next r { r with
      feed := { r.feed with phase := .waiting t }
      pushes := r.pushes ++ [⟨s.toMessage, r.ticks⟩] }
  /-- A tick has passed. -/
  | ticks {t t' : Ticker} (phase : r.feed.phase = .waiting t) :
    Next r { r with feed := { r.feed with phase := .checking t' }, ticks := r.ticks + 1 }
  /-- The reader has not stopped. -/
  | goesOn {t : Ticker} (phase : r.feed.phase = .checking t) :
    Next r { r with feed := { r.feed with phase := .taking t } }
  /-- It has stopped, and the last sample is new. -/
  | takesLast {t : Ticker} {s : ContainerStats} (phase : r.feed.phase = .checking t)
    (stopped : r.feed.reader = none) (unseen : r.feed.cell.unseen = true)
    (latest : r.feed.cell.latest = some s) :
    Next r { r with
      feed := { r.feed with phase := .sendingLast s, cell := r.feed.cell.see }
      takes := r.takes ++ [⟨r.stored.length, true⟩] }
  /-- It has stopped, and there is nothing new. -/
  | ends {t : Ticker} (phase : r.feed.phase = .checking t) (stopped : r.feed.reader = none)
    (seen : r.feed.cell.unseen = false ∨ r.feed.cell.latest = none) :
    Next r { r with feed := { r.feed with phase := .finished, cell := r.feed.cell.see } }
  | pushesLast {s : ContainerStats} (phase : r.feed.phase = .sendingLast s) :
    Next r { r with
      feed := { r.feed with phase := .finished }
      pushes := r.pushes ++ [⟨s.toMessage, r.ticks⟩] }
  /-- It could not be queued. -/
  | fails {s : ContainerStats} {closing : Bool} (phase : r.feed.phase.holds? = some (s, closing)) :
    Next r { r with feed := { r.feed with phase := .finished }, failed := true }

/-- Where the phase stays the same the sender takes nothing and passes no tick. -/
theorem taken?_of_phase {t : StatsFeed} {i : Incident} (h : (t.undergo i).phase = t.phase) :
    t.taken? i = none ∧ t.ticks i = false := by
  rw [StatsFeed.taken?, StatsFeed.ticks, h]
  constructor
  -- A sample is held before if and only if one is held afterwards.
  · split
    · next hnone hsome =>
      rw [hnone] at hsome
      cases hsome
    · rfl
  -- A tick leads from one phase to another.
  · split
    · next hwaiting hchecking =>
      rw [hwaiting] at hchecking
      cases hchecking
    · rfl

/-- Nothing changes, which is a case of `rests` as the reader may stay as it is. -/
theorem next_refl (r : Chronicle) : r.Next r := .rests r.feed.reader fun h => h

/-- What the reader does leaves the sender alone: where the phase stays, nothing is taken, pushed or
counted. -/
theorem note_of_phase {r : Chronicle} {i : Incident} (h : (r.feed.undergo i).phase = r.feed.phase)
    (sent : r.feed.pushed? i = none ∧ r.feed.fails i = false) :
    r.note i = { r with
      feed := r.feed.undergo i
      stored := (r.feed.stored? i).elim r.stored fun s => r.stored ++ [s] } := by
  obtain ⟨htaken, hticks⟩ := taken?_of_phase h
  rw [note, htaken, hticks, sent.1, sent.2]
  rfl

/-- The reader makes a step, and each of the four that there are is a case of its own. It is only
here that a sample is stored. -/
theorem next_read (r : Chronicle) : r.Next (r.note .read) := by
  -- The sender's phase is not the reader's to change.
  have hphase : (r.feed.undergo .read).phase = r.feed.phase := by
    rw [StatsFeed.undergo, StatsFeed.readerStep]
    split
    · rfl
    · split <;> rfl
  rw [note_of_phase hphase ⟨rfl, rfl⟩, StatsFeed.undergo, StatsFeed.readerStep, StatsFeed.stored?]
  cases hreader : r.feed.reader with
  | none => exact r.next_refl
  | some reader =>
    rw [Option.map_some]
    dsimp only
    cases reader.step with
    | wait => exact r.next_refl
    | skip reader' => exact .rests (some reader') fun h => by rw [hreader] at h; cases h
    | store s reader' => exact .stores _ reader' (by rw [hreader, Option.isSome_some])
    | stop => exact .rests none fun _ => rfl

/-- Bytes arrive, which are only put aside by the reader. None brings back a reader that has
stopped. -/
theorem next_supplied (r : Chronicle) (p : Portion) : r.Next (r.note (.supplied p)) := by
  rw [note_of_phase (i := .supplied p) rfl ⟨rfl, rfl⟩]
  refine .rests (r.feed.reader.bind (·.arrived p)) fun h => ?_
  rw [h, Option.bind_none]

/-- The reader is cancelled, which is a case of `rests` without a reader. -/
theorem next_abandoned (r : Chronicle) : r.Next (r.note .abandoned) := by
  rw [note_of_phase (i := .abandoned) rfl ⟨rfl, rfl⟩]
  exact .rests none fun _ => rfl

/-- Where nothing changes nothing is written down, and the chronicle `rests`. -/
theorem next_of_undergo {r : Chronicle} {i : Incident} (h : r.feed.undergo i = r.feed)
    (stored : r.feed.stored? i = none)
    (sent : r.feed.pushed? i = none ∧ r.feed.fails i = false) : r.Next (r.note i) := by
  rw [note_of_phase (by rw [h]) sent, h, stored]
  exact r.next_refl

/-- A notice opens the byte stream, or it brings a tick. None of the four takes a sample from the
cell. -/
theorem next_told (r : Chronicle) (n : Notice) : r.Next (r.note (.told n)) := by
  rcases r.feed.resume_cases n with ⟨hphase, h⟩ | ⟨f, hphase, h⟩ | ⟨t, now, hphase, h⟩ | h
  · rw [note, StatsFeed.taken?, StatsFeed.ticks, StatsFeed.undergo, h, hphase]
    exact .opens hphase
  · rw [note, StatsFeed.taken?, StatsFeed.ticks, StatsFeed.undergo, h, hphase]
    exact .refused hphase f
  · rw [note, StatsFeed.taken?, StatsFeed.ticks, StatsFeed.undergo, h, hphase]
    exact .ticks hphase
  · exact next_of_undergo (i := .told n) h rfl ⟨rfl, rfl⟩

/-- The sender goes on by itself, in the three phases in which it waits for nothing from outside. It
is only here that a sample is taken: in `taking`, and in `checking` if it is to be the last one. -/
theorem next_turned (r : Chronicle) (now : Nat) : r.Next (r.note (.turned now)) := by
  cases hphase : r.feed.phase with
  -- It looks for the first sample, and ends if there will be none.
  | awaiting =>
    have hturn : r.feed.turn now = r.feed.noticeFirst now := by rw [StatsFeed.turn, hphase]
    unfold StatsFeed.noticeFirst at hturn
    split at hturn
    · next unseen =>
      rw [note, StatsFeed.taken?, StatsFeed.ticks, StatsFeed.undergo, hturn, hphase]
      exact .notices hphase unseen _
    · next unseen =>
      split at hturn
      · next stopped =>
        rw [note, StatsFeed.taken?, StatsFeed.ticks, StatsFeed.undergo, hturn, hphase]
        exact .leaves hphase (by simpa using unseen) (by simpa using stopped)
      · exact next_of_undergo (i := .turned now) hturn rfl ⟨rfl, rfl⟩
  | taking t =>
    have hturn : r.feed.turn now = r.feed.take t := by rw [StatsFeed.turn, hphase]
    rw [note, StatsFeed.taken?, StatsFeed.ticks, StatsFeed.undergo, hturn, hphase, StatsFeed.take]
    cases latest : r.feed.cell.latest with
    | none => exact .misses hphase latest
    | some s => exact .takes hphase latest
  -- The reader goes on, or it has stopped and what it stored last is seen or not.
  | checking t =>
    have hturn : r.feed.turn now = r.feed.check t := by rw [StatsFeed.turn, hphase]
    unfold StatsFeed.check at hturn
    split at hturn
    · next stopped =>
      rw [Option.isNone_iff_eq_none] at stopped
      rw [note, StatsFeed.taken?, StatsFeed.ticks, StatsFeed.undergo, hturn, hphase]
      cases unseen : r.feed.cell.unseen with
      | false => exact .ends hphase stopped (Or.inl unseen)
      | true =>
        cases latest : r.feed.cell.latest with
        | none => exact .ends hphase stopped (Or.inr latest)
        | some s => exact .takesLast hphase stopped unseen latest
    · rw [note, StatsFeed.taken?, StatsFeed.ticks, StatsFeed.undergo, hturn, hphase]
      exact .goesOn hphase
  -- In the other phases the sender waits for something else than its turn.
  | opening | reporting f | sending s t | waiting t | sendingLast s | finished =>
    exact next_of_undergo (i := .turned now) (by rw [StatsFeed.undergo, StatsFeed.turn, hphase]) rfl
      ⟨rfl, rfl⟩

/-- A sample that the phase `holds?` is queued as it is. -/
theorem pushed?_of_holds {t : StatsFeed} {s : ContainerStats} {closing : Bool}
    (h : t.phase.holds? = some (s, closing)) : t.wait = .room s.toMessage ∧
      t.pushed? (.sent true) = some s.toMessage := by
  have hwait : t.wait = .room s.toMessage := by
    unfold SenderPhase.holds? at h
    split at h <;> cases h
    · next hphase => rw [StatsFeed.wait, hphase]
    · next hphase => rw [StatsFeed.wait, hphase]
  refine ⟨hwait, ?_⟩
  have hmessage : (TaskBody.stats t).message? (.sent true) = some s.toMessage := by
    rw [TaskBody.message?, TaskBody.wait, hwait]
  rw [StatsFeed.pushed?, hmessage, Option.filter_some]
  exact if_pos (decide_eq_true (Envelope.type?_of .containerStats s.toJson))

/-- **Where the sender does not wait for room** in the queue no answer about it is meant for it:
nothing is pushed, and nothing fails. -/
theorem pushed?_of_no_room {t : StatsFeed} (h : ∀ e, t.wait ≠ .room e) (accepted : Bool) :
    t.pushed? (.sent accepted) = none ∧ t.fails (.sent accepted) = false := by
  rw [StatsFeed.pushed?]
  -- An answer that accepts pushes what is waited for, one that refuses fails it, and there is
  -- nothing.
  cases accepted with
  | true =>
    refine ⟨?_, rfl⟩
    rw [TaskBody.message?, TaskBody.wait]
    split
    · next e hwait => exact absurd hwait (h e)
    · rfl
  | false =>
    refine ⟨rfl, ?_⟩
    rw [StatsFeed.fails]
    split
    · next e hwait => exact absurd hwait (h e)
    · rfl

/-- The queue answers. It is only here that a sample is pushed, and only here that anything
fails. -/
theorem next_sent (r : Chronicle) (accepted : Bool) : r.Next (r.note (.sent accepted)) := by
  cases hphase : r.feed.phase with
  -- A sample that is not the last one: another tick is waited for.
  | sending s t =>
    obtain ⟨hwait, hpushed⟩ := pushed?_of_holds (t := r.feed) (by rw [hphase]; rfl)
    cases accepted with
    | true =>
      rw [note, hpushed, StatsFeed.taken?, StatsFeed.ticks, StatsFeed.undergo, StatsFeed.sent,
        hphase]
      exact .pushes hphase
    | false =>
      rw [note, StatsFeed.taken?, StatsFeed.ticks, StatsFeed.undergo, StatsFeed.sent,
        StatsFeed.fails, hwait, hphase]
      exact .fails (by rw [hphase]; rfl : r.feed.phase.holds? = some (s, false))
  -- The last one: the feed ends, whatever the answer is.
  | sendingLast s =>
    obtain ⟨hwait, hpushed⟩ := pushed?_of_holds (t := r.feed) (by rw [hphase]; rfl)
    cases accepted with
    | true =>
      rw [note, hpushed, StatsFeed.taken?, StatsFeed.ticks, StatsFeed.undergo, StatsFeed.sent,
        hphase]
      exact .pushesLast hphase
    | false =>
      rw [note, StatsFeed.taken?, StatsFeed.ticks, StatsFeed.undergo, StatsFeed.sent,
        StatsFeed.fails, hwait, hphase]
      exact .fails (by rw [hphase]; rfl : r.feed.phase.holds? = some (s, true))
  | reporting f =>
    have hpushed : r.feed.pushed? (.sent accepted) = none := by
      have hwait : r.feed.wait = .room (StatsFeed.failureMessage f) := by
        rw [StatsFeed.wait, hphase]
      cases accepted with
      | false => rfl
      | true =>
        -- It is an error that is queued, not a sample.
        have htype : (StatsFeed.failureMessage f).type? = some .error :=
          MessageType.ofName?_name .error
        rw [StatsFeed.pushed?, TaskBody.message?, TaskBody.wait, hwait, Option.filter_some, htype]
        rfl
    rw [note, hpushed, StatsFeed.taken?, StatsFeed.ticks, StatsFeed.undergo, StatsFeed.sent, hphase]
    exact .reports hphase _
  | opening | awaiting | taking t | waiting t | checking t | finished =>
    -- There is no message that could be sent.
    have hroom := r.feed.wait_ne_room (by rw [hphase]; rfl) fun f heq => by
      rw [hphase] at heq
      cases heq
    exact next_of_undergo (i := .sent accepted)
      (by rw [StatsFeed.undergo, StatsFeed.sent, hphase]) rfl (pushed?_of_no_room hroom accepted)

/-- **One incident does one of the sixteen things.** What is shown of `Chronicle.Next` case by case
is true of every step of a chronicle, and by induction of `Chronicle.of` any incidents. -/
theorem next_note (r : Chronicle) (i : Incident) : r.Next (r.note i) := by
  cases i with
  | told n => exact r.next_told n
  | turned now => exact r.next_turned now
  | sent accepted => exact r.next_sent accepted
  | read => exact r.next_read
  | supplied p => exact r.next_supplied p
  | abandoned => exact r.next_abandoned

end Chronicle

end Lookout
