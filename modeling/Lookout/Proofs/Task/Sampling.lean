import Lookout.Proofs.Task.Following
import Lookout.Proofs.Task.Freshness
import Lookout.Proofs.Task.Lines

/-!
# What the reader of a feed stores

A reader stores the samples in the lines of its byte stream, in order, up to the first line that is
not readable. It takes the bytes in portions, and reads all that it can before it asks for the next
one. So at any time the samples that are due are those that were stored and, behind them, those that
the bytes in its buffer and the bytes to come have in them. This is `Sampling.At`, stated for every
byte stream that begins with what has come; that a line may be cut anywhere never shows in it.

When the byte stream ends the rest in the buffer is one more line, and when it fails the rest is
dropped. The reader asks for no portion before all lines in its buffer are read, so a failure finds
nothing in it that is due (`StatsReader.outlook_of_asks`).

* `ByteStream` — a byte stream that comes to its end, in some chunks;
* `Sampling`, `Sampling.of` — what became of the reader in some incidents;
* `Sampling.At`, `Sampling.Sound` — stored, and to come;
* `Sampling.sound_of` — they are what is due, whatever happens.
-/

namespace Lookout

/-! ### Byte streams -/

/-- **A byte stream that comes to its end,** in some chunks. -/
structure ByteStream where
  chunks : List (List UInt8)
  /-- Whether it comes to its end by a failure. -/
  fails : Bool

namespace ByteStream

variable {s : ByteStream}

/-- All its bytes. -/
def bytes (s : ByteStream) : List UInt8 := s.chunks.flatten

/-- How it ends. -/
def last (s : ByteStream) : Portion := if s.fails then .failed else .ended

/-- What arrives of it: each chunk as a portion, and the end or the failure. -/
def portions (s : ByteStream) : List Portion := s.chunks.map .bytes ++ [s.last]

/-- The lines that a reader gets of it. -/
def lines (s : ByteStream) : List (List UInt8) := linesOf s.bytes s.fails

/-- There is at least one portion, its last one: `ended` or `failed`. -/
theorem portions_ne_nil (s : ByteStream) : s.portions ≠ [] :=
  List.append_ne_nil_of_right_ne_nil _ (List.cons_ne_nil _ _)

/-- The portions bring the bytes and nothing else, as the last one has no content. -/
theorem content_portions (s : ByteStream) : s.portions.flatMap Portion.content = s.bytes := by
  have hlast : s.last.content = [] := by
    rw [last]
    split <;> rfl
  rw [portions, List.flatMap_append, List.flatMap_singleton, hlast, List.append_nil,
    List.flatMap_map]
  exact List.flatMap_id'

theorem exists_chunks {before after : List Portion} (h : s.portions = before ++ after)
    (ne : after ≠ []) : ∃ chunks : List (List UInt8), before = chunks.map .bytes := by
  obtain ⟨front, p, rfl⟩ := (List.eq_nil_or_concat after).resolve_left ne
  rw [portions, List.concat_eq_append, ← List.append_assoc] at h
  obtain ⟨hchunks, -⟩ := List.append_inj' h rfl
  obtain ⟨chunks, -, -, hbefore, -⟩ := List.map_eq_append_iff.mp hchunks
  exact ⟨chunks, hbefore.symm⟩

theorem portion_cases {before after : List Portion} {p : Portion}
    (h : s.portions = before ++ p :: after) :
    (∃ bs, p = .bytes bs ∧ after ≠ []) ∨ p = s.last ∧ after = [] := by
  rcases List.eq_nil_or_concat after with rfl | ⟨front, q, rfl⟩
  · obtain ⟨-, hlast⟩ := List.append_inj' h rfl
    exact Or.inr ⟨(List.singleton_inj.mp hlast).symm, rfl⟩
  · rw [List.append_cons] at h
    obtain ⟨chunks, hchunks⟩ := exists_chunks h (by simp)
    obtain ⟨bs, -, hp⟩ : ∃ bs ∈ chunks, Portion.bytes bs = p := by
      rw [← List.mem_map, ← hchunks]
      exact List.mem_append_right _ (List.mem_singleton_self p)
    exact Or.inl ⟨bs, hp.symm, by simp⟩

end ByteStream

/-- A reader that asks for a portion has read all the lines in its buffer, so nothing would be
stored if the stream failed now. -/
theorem StatsReader.outlook_of_asks {r : StatsReader} (asks : r.isReady = false) :
    r.ended = false ∧ r.outlook [] true = [] := by
  rw [isReady] at asks
  rcases nextLine_cases maxLine r.buffer with ⟨text, rest, -, -, -, hnext⟩ |
    ⟨text, rest, -, -, -, hnext⟩ | ⟨hfree, -, hnext⟩
  · rw [hnext] at asks
    cases asks
  · rw [hnext] at asks
    cases asks
  · rw [hnext] at asks
    refine ⟨asks, ?_⟩
    rw [outlook, List.append_nil, linesOf_of_free true hfree, if_pos (Or.inl rfl), samplesOf_nil]

namespace StatsFeed

/-! ### What an incident is to the reader -/

/-- The portion that the reader takes in an incident. -/
def portion? (t : StatsFeed) : Incident → Option Portion
  | .supplied p => if t.reader.isSome then some p else none
  | _ => none

/-- Whether an incident disturbs the reader: it is cancelled, or a portion comes that it did not ask
for. -/
def disturbs (t : StatsFeed) : Incident → Bool
  | .supplied _ => t.readerReady
  | .abandoned => t.reader.isSome
  | _ => false

/-- **What is to be stored** of some lines. -/
def due (t : StatsFeed) (lines : List (List UInt8)) : List ContainerStats :=
  (samplesOf lines).map (·.toStats t.containerId.text)

/-- What the sender does leaves the reader alone. -/
structure LeavesReader (t t' : StatsFeed) : Prop where
  reader : t'.reader = t.reader
  containerId : t'.containerId = t.containerId
  /-- The byte stream is opened only once. -/
  phase : t'.phase = .opening → t.phase = .opening

namespace LeavesReader

theorem refl (t : StatsFeed) : t.LeavesReader t := ⟨rfl, rfl, id⟩

/-- The sender is past the opening, the only phase in which it gives the reader something. -/
theorem of_ne {t t' : StatsFeed} (reader : t'.reader = t.reader)
    (containerId : t'.containerId = t.containerId) (phase : t'.phase ≠ .opening) :
    t.LeavesReader t' :=
  ⟨reader, containerId, fun opening => absurd opening phase⟩

end LeavesReader

/-- **A turn leaves the reader alone.** It may see the cell, and it never leads back to
`opening`. -/
theorem leavesReader_turn (t : StatsFeed) (now : Nat) : t.LeavesReader (t.turn now) := by
  -- In the order of the phases in which a turn does something: `awaiting`, `taking`, `checking`.
  unfold turn
  split
  · unfold noticeFirst
    split_ifs
    · exact .of_ne rfl rfl (by rintro ⟨⟩)
    · exact .of_ne rfl rfl (by rintro ⟨⟩)
    · exact .refl t
  · refine .of_ne rfl rfl fun h => ?_
    rw [take] at h
    dsimp only at h
    split at h <;> cases h
  · unfold check
    split_ifs
    · refine .of_ne rfl rfl fun h => ?_
      dsimp only at h
      split at h <;> cases h
    · exact .of_ne rfl rfl (by rintro ⟨⟩)
  · exact .refl t

theorem leavesReader_sent (t : StatsFeed) (accepted : Bool) : t.LeavesReader (t.sent accepted) := by
  unfold sent
  split
  · refine .of_ne rfl rfl ?_
    cases accepted <;> rintro ⟨⟩
  · exact .of_ne rfl rfl (by rintro ⟨⟩)
  · exact .of_ne rfl rfl (by rintro ⟨⟩)
  · exact .refl t

end StatsFeed

/-! ### What became of the reader -/

/-- **What became of the reader of a feed.** -/
structure Sampling extends Chronicle where
  /-- Whether there was ever a reader. -/
  began : Bool := false
  /-- The portions that it took, the first one first. -/
  portions : List Portion := []
  /-- Whether it was cancelled, or given a portion that it did not ask for. -/
  disturbed : Bool := false

namespace Sampling

/-- The bytes that the reader took. -/
def received (r : Sampling) : List UInt8 := r.portions.flatMap Portion.content

/-- What became of the reader after an incident. -/
def note (r : Sampling) (i : Incident) : Sampling :=
  { toChronicle := r.toChronicle.note i
    began := r.began || (r.feed.undergo i).reader.isSome
    portions := (r.feed.portion? i).elim r.portions fun p => r.portions ++ [p]
    disturbed := r.disturbed || r.feed.disturbs i }

/-- What becomes of the reader of a feed that starts. -/
def of (feed : StatsFeed) (incidents : List Incident) : Sampling := incidents.foldl note { feed }

theorem of_append (feed : StatsFeed) (incidents later : List Incident) :
    of feed (incidents ++ later) = later.foldl note (of feed incidents) :=
  List.foldl_append

/-- Without its own fields a sampling is the chronicle of the same incidents, so that what was shown
of `Chronicle.of` is true of it. -/
theorem toChronicle_of (feed : StatsFeed) (incidents : List Incident) :
    (of feed incidents).toChronicle = Chronicle.of feed incidents :=
  (List.foldl_hom Sampling.toChronicle fun _ _ => rfl).symm

variable {r r' : Sampling} {s : ByteStream}

/-! ### Stored, and to come -/

/-- **Stored, and to come,** while a reader reads a byte stream of which some portions are left. -/
structure Reads (r : Sampling) (reader : StatsReader) (s : ByteStream) (todo : List Portion) :
    Prop where
  portions : s.portions = r.portions ++ todo
  ended : reader.ended = true ↔ todo = []
  /-- A failure stops the reader. -/
  unfailed : reader.ended = true → s.fails = false
  due : r.feed.due s.lines = r.stored ++
    (reader.outlook (todo.flatMap Portion.content) s.fails).map (·.toStats r.feed.containerId.text)

/-- What holds of a reader and its byte stream. All samples are stored if it has stopped. -/
def At (r : Sampling) (s : ByteStream) : Prop :=
  match r.feed.reader with
  | none => r.stored = r.feed.due s.lines
  | some reader => ∃ todo, r.Reads reader s todo

/-- **What holds of the reader** after every list of incidents. -/
structure Sound (r : Sampling) : Prop where
  /-- Before there is a reader nothing is taken and nothing stored. -/
  idle : r.began = false → r.feed.reader = none ∧ r.portions = [] ∧ r.stored = []
  /-- There is none before the byte stream is open. -/
  opening : r.feed.phase = .opening → r.began = false
  reads : r.began = true → r.disturbed = false → ∀ s : ByteStream, r.portions <+: s.portions →
    r.At s

/-- While the reader goes on it `Reads` the byte stream, with some portions to come. -/
theorem At.exists_reads {reader : StatsReader} (h : r.At s)
    (reading : r.feed.reader = some reader) : ∃ todo, r.Reads reader s todo := by
  rw [At, reading] at h
  exact h

/-- That the reader `Reads` the byte stream is all that is to be shown while it goes on. -/
theorem At.of_reads {reader : StatsReader} (reading : r.feed.reader = some reader)
    (todo : List Portion) (h : r.Reads reader s todo) : r.At s := by
  rw [At, reading]
  exact ⟨todo, h⟩

theorem At.of_stopped (stopped : r.feed.reader = none) (all : r.stored = r.feed.due s.lines) :
    r.At s := by
  rw [At, stopped]
  exact all

theorem Sound.began_of_reader (h : r.Sound) {reader : StatsReader}
    (reading : r.feed.reader = some reader) : r.began = true := by
  rw [← Bool.not_eq_false]
  intro idle
  rw [(h.idle idle).1] at reading
  cases reading

/-- **While the reader goes on undisturbed** it reads every byte stream that begins with the
portions that came: what it has stored, and what it will store of the bytes put aside and of those
to come, is all that is due. -/
theorem Sound.exists_reads (h : r.Sound) {reader : StatsReader}
    (reading : r.feed.reader = some reader) (undisturbed : r.disturbed = false)
    (front : r.portions <+: s.portions) : ∃ todo, r.Reads reader s todo :=
  (h.reads (h.began_of_reader reading) undisturbed s front).exists_reads reading

/-- What has begun has begun for good, as `note` never takes `began` back. -/
theorem began_note (began : r.began = true) (i : Incident) : (r.note i).began = true := by
  change (r.began || _) = true
  rw [began, Bool.true_or]

/-- While there is a reader, only what is stored can change, and what is to be shown is `Reads`
again. -/
theorem Sound.of_reading (h : r.Sound) {reader : StatsReader}
    (reading : r.feed.reader = some reader) {i : Incident}
    (phase : (r.note i).feed.phase = r.feed.phase)
    (reads : (r.note i).disturbed = false → ∀ s : ByteStream,
      (r.note i).portions <+: s.portions → (r.note i).At s) : (r.note i).Sound := by
  have began := h.began_of_reader reading
  refine ⟨fun idle => ?_, fun opening => ?_, fun _ => reads⟩
  · rw [began_note began] at idle
    cases idle
  · rw [phase] at opening
    rw [h.opening opening] at began
    cases began

/-- An incident that leaves the reader alone keeps the invariant: nothing is stored, and no portion
comes. -/
theorem Sound.leaves (h : r.Sound) {i : Incident}
    (leaves : r.feed.LeavesReader (r.feed.undergo i)) (stored : r.feed.stored? i = none)
    (portion : r.feed.portion? i = none) (disturbs : r.feed.disturbs i = false) :
    (r.note i).Sound := by
  have hstored : (r.note i).stored = r.stored := by
    change (r.feed.stored? i).elim _ _ = _
    rw [stored, Option.elim_none]
  have hportions : (r.note i).portions = r.portions := by
    change (r.feed.portion? i).elim _ _ = _
    rw [portion, Option.elim_none]
  have hdisturbed : (r.note i).disturbed = r.disturbed := by
    change (r.disturbed || r.feed.disturbs i) = _
    rw [disturbs, Bool.or_false]
  have hreader : (r.note i).feed.reader = r.feed.reader := leaves.reader
  have hbegan : (r.note i).began = r.began := by
    change (r.began || (r.feed.undergo i).reader.isSome) = _
    rw [leaves.reader]
    cases reading : r.feed.reader with
    | none => rw [Option.isSome_none, Bool.or_false]
    | some reader => rw [h.began_of_reader reading, Bool.true_or]
  -- What is due depends on nothing of the feed but its container.
  have hid : (r.note i).feed.containerId = r.feed.containerId := leaves.containerId
  -- Each clause of the invariant speaks of what has just been shown to stay.
  refine ⟨?_, fun opening => ?_, ?_⟩
  · rw [hbegan, hreader, hportions, hstored]
    exact h.idle
  · rw [hbegan]
    exact h.opening (leaves.phase opening)
  · rw [hbegan, hdisturbed, hportions]
    intro began undisturbed s hfront
    have hat := h.reads began undisturbed s hfront
    cases reading : r.feed.reader with
    | none =>
      rw [At, reading] at hat
      refine .of_stopped (hreader.trans reading) ?_
      rw [hstored, hat, StatsFeed.due, StatsFeed.due, hid]
    | some reader =>
      obtain ⟨todo, hreads⟩ := hat.exists_reads reading
      refine .of_reads (hreader.trans reading) todo ⟨?_, hreads.ended, hreads.unfailed, ?_⟩
      · rw [hportions, hreads.portions]
      · rw [hstored, StatsFeed.due, hid]
        exact hreads.due

/-- A notice keeps the invariant. Only the one that opens the byte stream concerns the reader, and
with it all of the stream is to come. -/
theorem Sound.note_told (h : r.Sound) (n : Notice) : (r.note (.told n)).Sound := by
  rcases r.feed.resume_cases n with ⟨hphase, hresume⟩ | ⟨f, hphase, hresume⟩ |
    ⟨t, now, hphase, hresume⟩ | hresume
  · -- the reader starts with an empty buffer, and all of the byte stream is to come
    obtain ⟨-, hportions, hstored⟩ := h.idle (h.opening hphase)
    have hfeed : (r.note (.told n)).feed =
        { r.feed with phase := .awaiting, reader := some {} } := hresume
    refine ⟨fun idle => ?_, fun opening => ?_, fun _ _ s _ => ?_⟩
    · change (r.began || (r.feed.resume n).reader.isSome) = false at idle
      rw [hresume, Option.isSome_some, Bool.or_true] at idle
      cases idle
    · rw [hfeed] at opening
      cases opening
    · have hreader : (r.note (.told n)).feed.reader = some {} := by rw [hfeed]
      refine .of_reads hreader s.portions ⟨?_, ?_, ?_, ?_⟩
      · change s.portions = r.portions ++ s.portions
        rw [hportions, List.nil_append]
      · exact iff_of_false Bool.false_ne_true s.portions_ne_nil
      · exact fun hended => absurd hended Bool.false_ne_true
      · rw [hfeed]
        change _ = r.stored ++ _
        rw [hstored, s.content_portions]
        rfl
  -- It could not be opened: the failure is to be reported, and there is no reader.
  · refine h.leaves ?_ rfl rfl rfl
    rw [StatsFeed.undergo, hresume]
    exact .of_ne rfl rfl (by rintro ⟨⟩)
  -- A tick is due, which is the sender's business.
  · refine h.leaves ?_ rfl rfl rfl
    rw [StatsFeed.undergo, hresume]
    exact .of_ne rfl rfl (by rintro ⟨⟩)
  · refine h.leaves ?_ rfl rfl rfl
    rw [StatsFeed.undergo, hresume]
    exact .refl _

/-- What a reader does by itself: no portion comes, and the feed is changed by `step` alone. -/
theorem note_read {reader : StatsReader} (reading : r.feed.reader = some reader) :
    (r.note .read).portions = r.portions ∧ (r.note .read).disturbed = r.disturbed ∧
    (r.note .read).feed.containerId = r.feed.containerId ∧
    (r.note .read).feed.phase = r.feed.phase ∧
    match reader.step with
    | .wait => (r.note .read).feed.reader = some reader ∧ (r.note .read).stored = r.stored
    | .skip reader' => (r.note .read).feed.reader = some reader' ∧ (r.note .read).stored = r.stored
    | .store sample reader' => (r.note .read).feed.reader = some reader' ∧
      (r.note .read).stored = r.stored ++ [sample.toStats r.feed.containerId.text]
    | .stop => (r.note .read).feed.reader = none ∧ (r.note .read).stored = r.stored := by
  refine ⟨rfl, Bool.or_false _, ?_⟩
  change r.feed.readerStep.containerId = _ ∧ r.feed.readerStep.phase = _ ∧ _
  have hfeed : (r.note .read).feed = r.feed.readerStep := rfl
  have hstored : (r.note .read).stored = (r.feed.stored? .read).elim r.stored _ := rfl
  -- The feed's step and the sample that is noted are both read off the reader's step.
  rw [hfeed, hstored, StatsFeed.readerStep, StatsFeed.stored?, reading]
  dsimp only [Option.map_some]
  cases reader.step with
  | wait => exact ⟨rfl, rfl, reading, rfl⟩
  | skip | store | stop => exact ⟨rfl, rfl, rfl, rfl⟩

/-- The reader goes on, and what it stores was due first; the rest is still due. -/
theorem Reads.goesOn {reader reader' : StatsReader} {todo : List Portion}
    (h : r.Reads reader s todo) (portions : r'.portions = r.portions)
    (id : r'.feed.containerId = r.feed.containerId) (ended : reader'.ended = reader.ended)
    (due : r'.stored ++ (reader'.outlook (todo.flatMap Portion.content) s.fails).map
        (·.toStats r.feed.containerId.text) =
      r.stored ++ (reader.outlook (todo.flatMap Portion.content) s.fails).map
        (·.toStats r.feed.containerId.text)) : r'.Reads reader' s todo where
  portions := by rw [portions, h.portions]
  ended := by rw [ended, h.ended]
  unfailed := by rw [ended]; exact h.unfailed
  due := by
    rw [StatsFeed.due, id, due]
    exact h.due

/-- To a reader that was told of the end nothing is to come, and the stream did not fail. -/
theorem Reads.closed {reader : StatsReader} {todo : List Portion} (h : r.Reads reader s todo)
    (ended : reader.ended = true) : todo.flatMap Portion.content = [] ∧ s.fails = false :=
  ⟨by rw [h.ended.mp ended, List.flatMap_nil], h.unfailed ended⟩

/-- **A step of the reader keeps the invariant.** What it takes from what is to be stored it stores,
and `outlook_of_step` says so of each of its steps. -/
theorem Sound.read (h : r.Sound) : (r.note .read).Sound := by
  cases reading : r.feed.reader with
  | none =>
    refine h.leaves ?_ ?_ rfl rfl
    · rw [StatsFeed.undergo, StatsFeed.readerStep, reading]
      exact .refl _
    · rw [StatsFeed.stored?, reading]
      rfl
  | some reader =>
    obtain ⟨hportions, hdisturbed, hid, hphase, hstep⟩ := note_read reading
    refine h.of_reading reading hphase fun undisturbed s hfront => ?_
    rw [hportions] at hfront
    rw [hdisturbed] at undisturbed
    obtain ⟨todo, hreads⟩ := h.exists_reads reading undisturbed hfront
    have hsteps := reader.outlook_of_step (todo.flatMap Portion.content) s.fails hreads.closed
    -- What the step stores is what it takes from the front of what is to come.
    generalize reader.step = step at hstep hsteps
    cases hsteps with
    | wait => exact .of_reads hstep.1 todo (hreads.goesOn hportions hid rfl (by rw [hstep.2]))
    | skip reader' _ ended outlook =>
      exact .of_reads hstep.1 todo (hreads.goesOn hportions hid ended (by rw [hstep.2, outlook]))
    | store sample reader' _ ended outlook =>
      refine .of_reads hstep.1 todo (hreads.goesOn hportions hid ended ?_)
      rw [hstep.2, outlook, List.map_cons, List.append_assoc, List.singleton_append]
    -- A reader that stops has nothing more to store.
    | stop outlook =>
      refine .of_stopped hstep.1 ?_
      rw [hstep.2, StatsFeed.due, hid]
      have hdue := hreads.due
      rw [outlook, List.map_nil, List.append_nil] at hdue
      exact hdue.symm

/-- To be cancelled keeps the invariant, which says nothing of a reader that was disturbed. -/
theorem Sound.abandoned (h : r.Sound) : (r.note .abandoned).Sound := by
  cases reading : r.feed.reader with
  | none =>
    refine h.leaves ⟨?_, rfl, id⟩ rfl rfl ?_
    · exact reading.symm
    · rw [StatsFeed.disturbs, reading]
      rfl
  | some reader =>
    -- A reader that is cancelled has been disturbed.
    refine h.of_reading reading rfl fun undisturbed => ?_
    change (r.disturbed || r.feed.reader.isSome) = false at undisturbed
    rw [reading, Option.isSome_some, Bool.or_true] at undisturbed
    cases undisturbed

/-- What it does to the reader that a portion comes: it is put aside, and a reader that was not
asking is disturbed. -/
theorem note_supplied {reader : StatsReader} (reading : r.feed.reader = some reader)
    (p : Portion) : (r.note (.supplied p)).portions = r.portions ++ [p] ∧
    (r.note (.supplied p)).disturbed = (r.disturbed || reader.isReady) ∧
    (r.note (.supplied p)).feed = { r.feed with reader := reader.arrived p } ∧
    (r.note (.supplied p)).stored = r.stored := by
  -- A portion that comes while the reader is still busy disturbs it, since it was not asked for.
  refine ⟨?_, ?_, ?_, rfl⟩
  · change (if r.feed.reader.isSome then some p else none).elim _ _ = _
    rw [reading]
    rfl
  · change (r.disturbed || r.feed.reader.any StatsReader.isReady) = _
    rw [reading]
    rfl
  · change { r.feed with reader := r.feed.reader.bind (·.arrived p) } = _
    rw [reading]
    rfl

/-- Bytes that come are to come no longer, and stand in the buffer: what is due stays the same. -/
theorem Reads.at_bytes {reader : StatsReader} {bs : List UInt8} {later : List Portion}
    (h : r.Reads reader s (.bytes bs :: later)) (reading : r.feed.reader = some reader)
    (asks : reader.isReady = false) (hne : later ≠ []) : (r.note (.supplied (.bytes bs))).At s := by
  obtain ⟨hportions, -, hfeed, hstored⟩ := note_supplied reading (.bytes bs)
  obtain ⟨hended, -⟩ := StatsReader.outlook_of_asks asks
  have hreader : (r.note (.supplied (.bytes bs))).feed.reader =
      some { reader with buffer := reader.buffer ++ bs } := by
    rw [hfeed]
    rfl
  refine .of_reads hreader later ⟨?_, ?_, ?_, ?_⟩
  · rw [hportions, h.portions, List.append_assoc, List.singleton_append]
  -- The reader was not told of the end, and it is still to come.
  · simp only [hended, Bool.false_eq_true, hne]
  · exact fun ended => absurd (hended.symm.trans ended) Bool.false_ne_true
  -- The bytes go from the front of what is to come to the end of what is put aside.
  · have hdue := h.due
    rw [StatsReader.outlook, List.flatMap_cons, ← List.append_assoc] at hdue
    rw [hfeed, hstored, StatsFeed.due]
    exact hdue

/-- After the last portion the reader has what is left of the buffer before it, if the byte stream
ended, and stops at once, if it failed. -/
theorem Reads.at_last {reader : StatsReader} (h : r.Reads reader s [s.last])
    (reading : r.feed.reader = some reader) (asks : reader.isReady = false) :
    (r.note (.supplied s.last)).At s := by
  obtain ⟨hportions, -, hfeed, hstored⟩ := note_supplied reading s.last
  have hdue := h.due
  cases fails : s.fails with
  | false =>
    have hreader : (r.note (.supplied s.last)).feed.reader =
        some { reader with ended := true } := by
      rw [hfeed, ByteStream.last, fails]
      rfl
    refine .of_reads hreader [] ⟨?_, iff_of_true rfl rfl, fun _ => fails, ?_⟩
    · rw [hportions, h.portions, List.append_nil]
    · rw [ByteStream.last, fails] at hdue
      rw [hfeed, hstored, StatsFeed.due, fails]
      exact hdue
  | true =>
    -- It asked, so that nothing in its buffer is a line.
    obtain ⟨-, hnothing⟩ := StatsReader.outlook_of_asks asks
    refine .of_stopped (by rw [hfeed, ByteStream.last, fails]; rfl) ?_
    rw [ByteStream.last, fails] at hdue
    rw [hfeed, hstored, StatsFeed.due]
    refine (hdue.trans ?_).symm
    change _ ++ (reader.outlook [] true).map _ = _
    rw [hnothing, List.map_nil, List.append_nil]

/-- **A portion keeps the invariant.** If it is the one that comes next in the byte stream, the
reader puts its bytes aside or learns of the end; if it is any other, the sampling is not one of
that stream any more. -/
theorem Sound.supplied (h : r.Sound) (p : Portion) : (r.note (.supplied p)).Sound := by
  cases reading : r.feed.reader with
  | none =>
    refine h.leaves ⟨?_, rfl, id⟩ rfl ?_ ?_
    · change r.feed.reader.bind _ = r.feed.reader
      rw [reading, Option.bind_none]
    · rw [StatsFeed.portion?, reading]
      rfl
    · rw [StatsFeed.disturbs, StatsFeed.readerReady, reading]
      rfl
  | some reader =>
    obtain ⟨hportions, hdisturbed, hfeed, -⟩ := note_supplied reading p
    refine h.of_reading reading (by rw [hfeed]) fun undisturbed s hfront => ?_
    -- The reader asked for it, as else it would have been disturbed.
    rw [hdisturbed, Bool.or_eq_false_iff] at undisturbed
    obtain ⟨undisturbed, hasks⟩ := undisturbed
    rw [hportions] at hfront
    obtain ⟨todo, hreads⟩ := h.exists_reads reading undisturbed
      ((List.prefix_append _ _).trans hfront)
    -- The portion that came is the next one.
    obtain ⟨later, hlater⟩ := hfront
    rw [hreads.portions, List.append_assoc, List.append_cancel_left_eq] at hlater
    subst hlater
    rcases ByteStream.portion_cases hreads.portions with ⟨bs, rfl, hne⟩ | ⟨rfl, rfl⟩
    · exact hreads.at_bytes reading hasks hne
    · exact hreads.at_last reading hasks

/-- **Every incident keeps the invariant.** Those of the sender leave the reader alone. -/
theorem Sound.note (h : r.Sound) (i : Incident) : (r.note i).Sound := by
  cases i with
  | told n => exact h.note_told n
  | turned now => exact h.leaves (r.feed.leavesReader_turn now) rfl rfl rfl
  | sent accepted => exact h.leaves (r.feed.leavesReader_sent accepted) rfl rfl rfl
  | read => exact h.read
  | supplied p => exact h.supplied p
  | abandoned => exact h.abandoned

/-- Any incidents keep the invariant, by `Sound.note` for each. -/
theorem sound_foldl (h : r.Sound) (incidents : List Incident) :
    (incidents.foldl Sampling.note r).Sound := by
  induction incidents generalizing r with
  | nil => exact h
  | cons i rest ih => exact ih (h.note i)

theorem sound_of {feed : StatsFeed} (reader : feed.reader = none) (incidents : List Incident) :
    (of feed incidents).Sound :=
  sound_foldl ⟨fun _ => ⟨reader, rfl, rfl⟩, fun _ => rfl, fun began => (by cases began)⟩ incidents

end Sampling

end Lookout
