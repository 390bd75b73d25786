import Lookout.Proofs.Task.Feeding
import Lookout.Proofs.Task.Sampling

/-!
# What is stored of a container's samples

The agent, its other connections and its hub go on beside a feed, and so does the sender that takes
samples from the cell. None of them is anything to the reader. As long as it is not cancelled it
stores the samples that its byte stream has in its lines, up to the first line that is not readable,
whatever chunks the bytes come in; and as long as its byte stream goes on it gets on, so it reads
every byte stream to its end.

* `Sampling.Exact` — what is stored of a byte stream;
* `Sampling.Sound.exists_hasRead` — every byte stream is read to its end;
* `World.exactSamples_history` — what is stored in every history.
-/

namespace Lookout

namespace Chronicle

theorem Next.containerId_eq {r r' : Chronicle} (next : r.Next r') :
    r'.feed.containerId = r.feed.containerId := by
  cases next <;> rfl

/-- A reader that has stopped does nothing more, since the byte stream is opened only once. -/
theorem Next.stopped {r r' : Chronicle} (next : r.Next r') (stopped : r.feed.reader = none)
    (phase : r.feed.phase ≠ .opening) : r'.feed.reader = none ∧ r'.stored = r.stored := by
  cases next with
  | rests reader h => exact ⟨h stopped, rfl⟩
  | stores s reader reads =>
    rw [stopped] at reads
    cases reads
  | opens opening => exact absurd opening phase
  | refused | reports | notices | leaves | takes | misses | pushes | ticks | goesOn | takesLast
  | ends | pushesLast | fails => exact ⟨stopped, rfl⟩

end Chronicle

/-- What comes goes to the back of the `buffer`, if the reader goes on. -/
theorem StatsReader.buffer_of_arrived {r r' : StatsReader} {p : Portion}
    (arrived : r.arrived p = some r') : r'.buffer = r.buffer ++ p.content := by
  cases p with
  | bytes bs =>
    obtain rfl := Option.some.inj arrived
    rfl
  | ended =>
    obtain rfl := Option.some.inj arrived
    exact (List.append_nil _).symm
  | failed => cases arrived

/-- Whether an incident is one of a reader that is not cancelled. -/
def Incident.isReaders : Incident → Bool
  | .read | .supplied _ => true
  | .told _ | .turned _ | .sent _ | .abandoned => false

namespace Sampling

variable {r r' : Sampling} {s : ByteStream}

/-! ### What follows from it -/

theorem containerId_of (feed : StatsFeed) (incidents : List Incident) :
    (of feed incidents).feed.containerId = feed.containerId := by
  have hfoldl : ∀ r : Sampling,
      (incidents.foldl Sampling.note r).feed.containerId = r.feed.containerId := by
    induction incidents with
    | nil => exact fun r => rfl
    | cons i rest ih => exact fun r => (ih _).trans (r.next_note i).containerId_eq
  exact hfoldl _

/-- What lines come to therefore does not depend on what happened: `StatsFeed.due` uses only the
container's name. -/
theorem due_of (feed : StatsFeed) (incidents : List Incident) :
    (of feed incidents).feed.due = feed.due := by
  funext lines
  rw [StatsFeed.due, StatsFeed.due, containerId_of]

/-- Whether the reader has read a byte stream, and has come to its end. -/
structure HasRead (r : Sampling) (s : ByteStream) : Prop where
  began : r.began = true
  stopped : r.feed.reader = none
  undisturbed : r.disturbed = false
  /-- What is behind a line that is not readable need not come. -/
  portions : r.portions <+: s.portions

/-- **A reader that has read a byte stream to its end stored all its samples,** which is what the
invariant `Sound` says of a reader that has stopped. -/
theorem Sound.stored_eq (h : r.Sound) (read : r.HasRead s) : r.stored = r.feed.due s.lines := by
  have hat := h.reads read.began read.undisturbed s read.portions
  rwa [At, read.stopped] at hat

/-- **What is stored of a byte stream** by the reader of a feed `t`. -/
structure Exact (t : StatsFeed) (r : Sampling) (s : ByteStream) : Prop where
  /-- Nothing but what is due, in order. -/
  stored : r.stored <+: t.due s.lines
  /-- All of it, when the reader has come to its end. -/
  all : r.began = true → r.feed.reader = none → r.stored = t.due s.lines
  /-- The reader asks for a portion only as long as there is one, and not before what is due of the
  lines that have ended is stored. -/
  asks : ∀ reader, r.feed.reader = some reader → reader.isReady = false →
    r.portions ≠ s.portions ∧ r.stored = t.due (linesOf r.received true)

/-- A reader that asks has stored what is due of the lines that have ended: the byte stream might
fail now, and then no more is stored. -/
theorem Sound.stored_of_asks (h : r.Sound) {reader : StatsReader}
    (reading : r.feed.reader = some reader) (asks : reader.isReady = false)
    (undisturbed : r.disturbed = false) {todo : List Portion}
    (portions : s.portions = r.portions ++ todo) (hne : todo ≠ []) :
    r.stored = r.feed.due (linesOf r.received true) := by
  -- The portions that came are all bytes, so that they could be all there is of a stream that fails
  -- now.
  obtain ⟨chunks, hchunks⟩ := ByteStream.exists_chunks portions hne
  have hfront : r.portions <+: (ByteStream.mk chunks true).portions :=
    ⟨[.failed], by rw [hchunks]; rfl⟩
  obtain ⟨rest, hreads⟩ := h.exists_reads reading undisturbed hfront
  have hbytes : r.received = chunks.flatten := by
    rw [received, hchunks, List.flatMap_map]
    exact List.flatMap_id'
  obtain rfl : rest = [.failed] := by
    have hportions := hreads.portions
    rw [hchunks] at hportions
    exact (List.append_cancel_left hportions).symm
  have hdue := hreads.due
  change _ = _ ++ (reader.outlook [] true).map _ at hdue
  -- And of such a stream a reader that asks for more has stored all.
  rw [(StatsReader.outlook_of_asks asks).2, List.map_nil, List.append_nil] at hdue
  rw [hbytes]
  exact hdue.symm

/-- **The invariant gives the client what it can rely on,** for every byte stream that begins with
the portions that came. The three fields of `Exact` are those of a reader that goes on, of one that
has stopped, and of one that asks for more. -/
theorem Sound.exact {t : StatsFeed} (h : r.Sound) (same : r.feed.due = t.due)
    (undisturbed : r.disturbed = false) (hfront : r.portions <+: s.portions) : r.Exact t s := by
  constructor
  -- Before the reader starts, after it has stopped, and in between.
  case stored =>
    cases began : r.began with
    | false =>
      rw [(h.idle began).2.2]
      exact List.nil_prefix
    | true =>
      rw [← same]
      cases reading : r.feed.reader with
      | none => exact h.stored_eq ⟨began, reading, undisturbed, hfront⟩ ▸ List.prefix_refl _
      | some reader =>
        obtain ⟨todo, hreads⟩ := h.exists_reads reading undisturbed hfront
        exact ⟨_, hreads.due.symm⟩
  case all =>
    intro began stopped
    rw [← same]
    exact h.stored_eq ⟨began, stopped, undisturbed, hfront⟩
  case asks =>
    intro reader reading asks
    obtain ⟨hended, -⟩ := StatsReader.outlook_of_asks asks
    obtain ⟨todo, hreads⟩ := h.exists_reads reading undisturbed hfront
    -- A reader that asks was not told of the end, so there is a portion to come.
    have hne : todo ≠ [] := fun hnil => by
      rw [hreads.ended.mpr hnil] at hended
      cases hended
    refine ⟨fun heq => hne ?_, ?_⟩
    · have hportions := hreads.portions
      rwa [heq, List.self_eq_append_right] at hportions
    · rw [← same]
      exact h.stored_of_asks reading asks undisturbed hreads.portions hne

/-- **A reader stops for good,** and what is stored then stays all that is stored; by `Next.stopped`
for each incident. -/
theorem Sound.stopped_foldl (h : r.Sound) (began : r.began = true)
    (stopped : r.feed.reader = none) (later : List Incident) :
    (later.foldl Sampling.note r).feed.reader = none ∧
      (later.foldl Sampling.note r).stored = r.stored := by
  induction later generalizing r with
  | nil => exact ⟨stopped, rfl⟩
  | cons i rest ih =>
    have hphase : r.feed.phase ≠ .opening := fun opening => by
      rw [h.opening opening] at began
      cases began
    obtain ⟨hstopped, hstored⟩ := (r.next_note i).stopped stopped hphase
    obtain ⟨hreader, hrest⟩ := ih (h.note i) (began_note began i) hstopped
    exact ⟨hreader, hrest.trans hstored⟩

/-! ### Whole byte streams -/

/-- How much is left to be done for the reader of a byte stream. -/
def left (r : Sampling) (s : ByteStream) : Nat :=
  r.feed.reader.elim 0 fun reader =>
    let todo := s.portions.drop r.portions.length
    reader.buffer.length + (todo.flatMap Portion.content).length + todo.length + 1

/-- While the reader goes on, what is left are the bytes it has put aside, those that are to come,
and one for each portion and one for the reader. -/
theorem left_eq {reader : StatsReader} (reading : r.feed.reader = some reader)
    {todo : List Portion} (portions : s.portions = r.portions ++ todo) :
    r.left s =
      reader.buffer.length + (todo.flatMap Portion.content).length + todo.length + 1 := by
  rw [left, reading, Option.elim_some, portions, List.drop_left]

/-- What the reader of a byte stream does next: it goes on by itself, or takes the next portion. -/
def next (r : Sampling) (s : ByteStream) : Incident :=
  if r.feed.readerReady then .read
  else .supplied ((s.portions.drop r.portions.length).headD .ended)

/-- A reader that does not ask has something to do, and then less is left. -/
theorem Reads.left_read_lt {reader : StatsReader} {todo : List Portion}
    (h : r.Reads reader s todo) (reading : r.feed.reader = some reader)
    (ready : reader.isReady = true) : (r.note .read).left s < r.left s := by
  obtain ⟨hportions, -, -, -, hstep⟩ := note_read reading
  have hsteps := reader.outlook_of_step (todo.flatMap Portion.content) s.fails h.closed
  rw [left_eq reading h.portions]
  generalize reader.step = step at hstep hsteps
  cases hsteps with
  -- A reader that is ready does not wait.
  | wait asks =>
    rw [ready] at asks
    cases asks
  -- A line is taken from what was put aside.
  | skip reader' shrinks | store sample reader' shrinks =>
    rw [left_eq hstep.1 (hportions ▸ h.portions)]
    omega
  -- A reader that stops leaves nothing, and it counted for one.
  | stop =>
    rw [left, hstep.1]
    exact Nat.succ_pos _

/-- A portion that has come is not to come any more, so less is left. -/
theorem Reads.left_supplied_lt {reader : StatsReader} {p : Portion} {later : List Portion}
    (h : r.Reads reader s (p :: later)) (reading : r.feed.reader = some reader) :
    (r.note (.supplied p)).left s < r.left s := by
  obtain ⟨hportions, -, hfeed, -⟩ := note_supplied reading p
  rw [left_eq reading h.portions, List.flatMap_cons, List.length_append, List.length_cons]
  cases arrived : reader.arrived p with
  | none =>
    rw [left, hfeed, arrived]
    exact Nat.succ_pos _
  -- The bytes of the portion count as much as before, and the portion itself no more.
  | some reader' =>
    have hreader : (r.note (.supplied p)).feed.reader = some reader' := by
      rw [hfeed]
      exact arrived
    have hlater : s.portions = (r.note (.supplied p)).portions ++ later := by
      rw [hportions, h.portions, List.append_cons]
    rw [left_eq hreader hlater, StatsReader.buffer_of_arrived arrived, List.length_append]
    omega

/-- **The reader of a byte stream gets on:** by what it does next, a step of its own or a portion
that comes, less is left. This is what the induction of `exists_hasRead` goes by. -/
theorem Sound.left_lt (h : r.Sound) {reader : StatsReader} (reading : r.feed.reader = some reader)
    (undisturbed : r.disturbed = false) (hfront : r.portions <+: s.portions) :
    let r' := r.note (r.next s)
    r'.left s < r.left s ∧ r'.disturbed = false ∧ r'.portions <+: s.portions := by
  obtain ⟨todo, hreads⟩ := h.exists_reads reading undisturbed hfront
  have hready : r.feed.readerReady = reader.isReady := by
    rw [StatsFeed.readerReady, reading, Option.any_some]
  cases ready : reader.isReady with
  -- A reader that is ready makes a step.
  | true =>
    rw [next, hready, ready, if_pos rfl]
    obtain ⟨hportions, hdisturbed, -⟩ := note_read reading
    exact ⟨hreads.left_read_lt reading ready, hdisturbed.trans undisturbed, hportions ▸ hfront⟩
  -- One that asks gets the next portion, which is there: a reader that has them all asks no more.
  | false =>
    rw [next, hready, ready, if_neg Bool.false_ne_true]
    obtain ⟨hended, -⟩ := StatsReader.outlook_of_asks ready
    cases todo with
    | nil =>
      rw [hreads.ended.mpr rfl] at hended
      cases hended
    | cons p later =>
      have hp : (s.portions.drop r.portions.length).headD .ended = p := by
        rw [hreads.portions, List.drop_left, List.headD_cons]
      rw [hp]
      obtain ⟨hportions, hdisturbed, -⟩ := note_supplied reading p
      refine ⟨hreads.left_supplied_lt reading, ?_, later, ?_⟩
      · rw [hdisturbed, undisturbed, ready]
        rfl
      · rw [hportions, hreads.portions, List.append_assoc, List.singleton_append]

/-- **Every byte stream is read to its end,** wherever the reader is. The induction is on what is
`left`. -/
theorem Sound.exists_hasRead (h : r.Sound) (began : r.began = true)
    (undisturbed : r.disturbed = false) (hfront : r.portions <+: s.portions) :
    ∃ later : List Incident, (∀ i ∈ later, i.isReaders = true) ∧
      (later.foldl Sampling.note r).HasRead s := by
  -- On what is left, which every next incident makes less.
  induction hleft : r.left s using Nat.strongRecOn generalizing r with
  | ind n ih =>
    cases reading : r.feed.reader with
    | none => exact ⟨[], nofun, began, reading, undisturbed, hfront⟩
    | some reader =>
      obtain ⟨hless, hundisturbed, hfront'⟩ := h.left_lt reading undisturbed hfront
      obtain ⟨later, hlater, hread⟩ :=
        ih _ (hleft ▸ hless) (h.note _) (began_note began _) hundisturbed hfront' rfl
      refine ⟨r.next s :: later, ?_, hread⟩
      rintro i (_ | ⟨_, hi⟩)
      · rw [next]
        split <;> rfl
      · exact hlater i hi

end Sampling

/-! ### In the agent -/

namespace World

variable {w : World} {conn : ConnId} {generation : Nat}

/-- The moment that brings an incident of a reader about. -/
def Moment.ofReader (conn : ConnId) (generation : Nat) : Incident → Moment
  | .supplied p => .happens (.act (.supply conn generation p))
  | .told _ | .turned _ | .sent _ | .read | .abandoned => .happens (.act (.read conn generation))

/-- A task that is not done is still there when its `body` has changed. -/
theorem task?_updateBody {c : Client} (found : w.client? conn = some c) (numbered : c.Numbered)
    {t : StreamTask} (task : c.task? generation = some t) (runs : t.done = false)
    (f : TaskBody → TaskBody) :
    (w.updateBody conn generation f).task? conn generation = some { t with body := f t.body } := by
  let update := fun t : StreamTask => { t with body := f t.body }
  rw [task?_eq_find?, tasksOf_updateBody found]
  change (c.updateTask generation update).task? generation = some (update t)
  have hkeeps : ∀ t, (update t).subscription = t.subscription := fun _ => rfl
  have hruns : (update t).done = false := runs
  have hstays : (!(update t).isGone) = true := by
    rw [StreamTask.isGone, hruns, Bool.false_and, Bool.not_false]
  rw [Client.task?_updateTask numbered.nodup generation generation hkeeps, task, Option.map_some,
    if_pos rfl, Option.filter_some, if_pos hstays]

/-- A reader that is not cancelled goes on, and its task goes on with it. -/
theorem pass_ofReader {t : StreamTask} (task : w.task? conn generation = some t)
    (runs : t.done = false) (live : w.isCancelled (readerToken conn generation) = false)
    (numbered : ∀ {client}, w.client? conn = some client → client.Numbered) {i : Incident}
    (readers : i.isReaders = true) :
    let m := Moment.ofReader conn generation i
    w.incident? conn generation m = some i ∧
      (∃ t', (w.pass m).task? conn generation = some t' ∧ t'.done = false) ∧
      (w.pass m).isCancelled (readerToken conn generation) = false := by
  obtain ⟨c, found, ctask⟩ := Option.bind_eq_some_iff.mp task
  -- The incident is the reader's own, and what it does to the body it does to nothing else.
  obtain ⟨-, -, hread, hsupply⟩ := incident?_of_found found ctask
  have hbody : ∀ f : TaskBody → TaskBody,
      ∃ t', (w.updateBody conn generation f).task? conn generation = some t' ∧ t'.done = false :=
    fun f => ⟨_, task?_updateBody found (numbered found) ctask runs f, runs⟩
  have hlive : ∀ f : TaskBody → TaskBody,
      (w.updateBody conn generation f).isCancelled (readerToken conn generation) = false :=
    fun f => (isCancelled_modify _ _ _ _).trans live
  -- Only the two incidents of a reader are left.
  cases i with
  | read =>
    have hpass : w.pass (.happens (.act (.read conn generation))) =
        w.updateBody conn generation (·.readerStep) := by
      change w.read conn generation = _
      rw [read, if_neg (by rw [live]; exact Bool.false_ne_true)]
    refine ⟨by rw [Moment.ofReader, hread, live]; rfl, ?_⟩
    rw [Moment.ofReader, hpass]
    exact ⟨hbody _, hlive _⟩
  | supplied p =>
    have hpass : w.pass (.happens (.act (.supply conn generation p))) =
        w.updateBody conn generation (·.readerArrived p) := by
      change w.supply conn generation p = _
      rw [supply, if_neg (by rw [live]; exact Bool.false_ne_true)]
    refine ⟨by rw [Moment.ofReader, hsupply, if_pos live], ?_⟩
    rw [Moment.ofReader, hpass]
    exact ⟨hbody _, hlive _⟩
  | told | turned | sent | abandoned => cases readers

end World

namespace Course

variable {services : Services} {conn : ConnId} {generation : Nat} {moments : List World.Moment}

/-- What a reader can do it does in the agent: for each list of incidents of a reader there are
moments that bring them. -/
theorem incidents_ofReader {t : StreamTask}
    (task : (of services conn generation moments).world.task? conn generation = some t)
    (runs : t.done = false)
    (live : (of services conn generation moments).world.isCancelled
      (readerToken conn generation) = false)
    (later : List Incident) (readers : ∀ i ∈ later, i.isReaders = true) :
    (of services conn generation
        (moments ++ later.map (World.Moment.ofReader conn generation))).incidents =
      (of services conn generation moments).incidents ++ later := by
  -- On the incidents, each of which is the moment that brings it.
  induction later generalizing moments t with
  | nil => rw [List.map_nil, List.append_nil, List.append_nil]
  | cons i rest ih =>
    obtain ⟨hincident, ⟨t', task', hdone⟩, hlive⟩ := World.pass_ofReader task runs live
      (fits_of services conn generation moments).numbered (readers i List.mem_cons_self)
    change (note conn generation _ _).world.task? conn generation = some t' at task'
    change (note conn generation _ _).world.isCancelled _ = false at hlive
    have hrest : ∀ i' ∈ rest, i'.isReaders = true :=
      fun i' hi' => readers i' (List.mem_cons_of_mem i hi')
    rw [← of_concat] at task' hlive
    rw [List.map_cons, List.append_cons, ih task' hdone hlive hrest, of_concat, note, hincident,
      Option.toList_some, List.append_assoc, List.singleton_append]

end Course

namespace World

/-- **What is stored of a container's samples.** In every history, from the start of the feed on,
the cell holds the sample that was stored last. As long as its `Sampling` is not `disturbed`, that
is the reader is not cancelled and portions come when it asks for them, what is stored of a byte
stream is `Exact`: the front of what is due, which are the samples in its lines, in order, up to the
first line that is neither blank nor a sample, is too long or spells no text. All of it is stored
when the reader has come to its end, and nothing after that. The chunks do not count, nor do blank
lines. And wherever the reader is, it can read every byte stream that begins with what has come, to
its end (`HasRead`), if its task goes on. -/
theorem exactSamples_history (services : Services) (conn : ConnId) (generation : Nat)
    (moments : List Moment) {feed : StatsFeed}
    (started : (Course.of services conn generation moments).start = some (.stats feed)) :
    let course := Course.of services conn generation moments
    let sampling := Sampling.of feed course.incidents
    (∀ t, course.world.task? conn generation = some t → t.body = .stats sampling.feed) ∧
      sampling.feed.cell.latest = sampling.stored.getLast? ∧
      (sampling.disturbed = false → ∀ s : ByteStream, sampling.portions <+: s.portions →
        sampling.Exact feed s) ∧
      (sampling.began = true → sampling.feed.reader = none → ∀ later,
        let after := Sampling.of feed
          (Course.of services conn generation (moments ++ later)).incidents
        after.feed.reader = none ∧ after.stored = sampling.stored) ∧
      (∀ incidents (s s' : ByteStream), let other := Sampling.of feed incidents
        sampling.HasRead s → other.HasRead s' → s'.bytes = s.bytes → s'.fails = s.fails →
          other.stored = sampling.stored) ∧
      (∀ incidents (s s' : ByteStream), let other := Sampling.of feed incidents
        sampling.HasRead s → other.HasRead s' →
          (s'.lines.filter fun line => !StatsLine.isBlank line) =
            (s.lines.filter fun line => !StatsLine.isBlank line) →
          other.stored = sampling.stored) ∧
      ∀ (t : StreamTask) (s : ByteStream), course.world.task? conn generation = some t →
        t.done = false → course.world.isCancelled (readerToken conn generation) = false →
        sampling.began = true → sampling.disturbed = false → sampling.portions <+: s.portions →
          ∃ later, (Sampling.of feed
            (Course.of services conn generation (moments ++ later)).incidents).HasRead s := by
  intro course sampling
  have hstarted := Course.started_of started
  have hreader : feed.reader = none := by
    obtain ⟨stream, interval, now, hstream⟩ := hstarted.origin
    obtain ⟨id, -, rfl⟩ := TaskBody.of_ofStream_stats hstream
    rfl
  have hsound : ∀ incidents, (Sampling.of feed incidents).Sound := Sampling.sound_of hreader
  have hsame : ∀ incidents, (Sampling.of feed incidents).feed.due = feed.due :=
    Sampling.due_of feed
  have hchronicle : sampling.toChronicle = Chronicle.of feed course.incidents :=
    Sampling.toChronicle_of feed course.incidents
  have hstored : ∀ incidents s, (Sampling.of feed incidents).HasRead s →
      (Sampling.of feed incidents).stored = feed.due s.lines := fun incidents s read => by
    rw [(hsound incidents).stored_eq read, hsame]
  -- In the order of the clauses: the task's body and the cell; an undisturbed reader; one that has
  -- stopped; the same bytes; the same lines but for blank ones; and the rest of the stream.
  refine ⟨fun t ht => ?_, ?_, fun undisturbed s => (hsound _).exact (hsame _) undisturbed, ?_, ?_,
    ?_, ?_⟩
  · rw [hstarted.task t ht, TaskBody.foldl_undergo_stats, hchronicle, Chronicle.of,
      Chronicle.feed_foldl]
  · rw [hchronicle]
    exact hstarted.sound.latest
  · intro began stopped later after
    obtain ⟨rest, hrest⟩ : course.incidents <+:
        (Course.of services conn generation (moments ++ later)).incidents := by
      rw [Course.of_append]
      exact Course.incidents_foldl _ later
    have hafter : after = rest.foldl Sampling.note sampling := by
      rw [← Sampling.of_append, hrest]
    rw [hafter]
    exact (hsound _).stopped_foldl began stopped rest
  · intro incidents s s' other read read' bytes fails
    rw [hstored _ s read, hstored _ s' read', ByteStream.lines, ByteStream.lines, bytes, fails]
  · intro incidents s s' other read read' unblank
    rw [hstored _ s read, hstored _ s' read', StatsFeed.due, StatsFeed.due, ← samplesOf_filter,
      unblank, samplesOf_filter]
  · intro t s task runs live began undisturbed hfront
    obtain ⟨later, hlater, hread⟩ := (hsound _).exists_hasRead began undisturbed hfront
    refine ⟨later.map (Moment.ofReader conn generation), ?_⟩
    rw [Course.incidents_ofReader task runs live later hlater, Sampling.of_append]
    exact hread

/-- Two samples, the second one without a line feed, and two blank lines between them. One chunk
ends between a carriage return and its line feed, another one within a character. -/
def cutLines : ByteStream :=
  let bytes := ("\x7b\"memory_stats\":\x7b\"usage\":1\x7d\x7d\r\n \n\n" ++
    "\x7b\"name\":\"é\",\"memory_stats\":\x7b\"usage\":2\x7d\x7d").toUTF8.toList
  { chunks := [bytes.take 29, (bytes.drop 29).take 14, bytes.drop 43], fails := false }

/-- The two samples are read. -/
def readCutLines : List Moment :=
  let act := fun a => Moment.happens (.act a)
  let portions := cutLines.portions.map fun p => act (.supply 0 0 p)
  [act (.connect 0 8),
    act (.dispatch 0 (.of .subscribe (Stream.containerStats sampled).ack.toJson)),
    act (.reply 0 0), act (.tell 0 0 (.opened (.ok ())))] ++ portions.take 2 ++
    [act (.read 0 0), act (.proceed 0 0 0), act (.read 0 0), act (.read 0 0)] ++
    portions.drop 2 ++ [act (.read 0 0), act (.read 0 0)]

/-- Both samples are stored. When only the first chunk has come, the rest can be read. -/
theorem exactSamples_cutLines :
    let feed : StatsFeed := { containerId := sampled, period := 3000 }
    let course := Course.of {} 0 0 readCutLines
    let sampling := Sampling.of feed course.incidents
    course.start = some (.stats feed) ∧ sampling.HasRead cutLines ∧
      sampling.stored.map (·.memUsed) = [1, 2] ∧ sampling.stored = feed.due cutLines.lines ∧
      ∃ later, (Sampling.of feed
        (Course.of {} 0 0 (readCutLines.take 5 ++ later)).incidents).HasRead cutLines := by
  intro feed course sampling
  have hstart : course.start = some (.stats feed) := by decide +kernel
  have hread : sampling.HasRead cutLines :=
    ⟨by decide +kernel, by decide +kernel, by decide +kernel, by decide +kernel⟩
  obtain ⟨-, -, hexact, -⟩ := exactSamples_history {} 0 0 readCutLines hstart
  have hall := (hexact hread.undisturbed cutLines hread.portions).all hread.began hread.stopped
  refine ⟨hstart, hread, by decide +kernel, hall, ?_⟩
  -- After five moments the reader has the first chunk, and its task goes on.
  have hruns : ((Course.of {} 0 0 (readCutLines.take 5)).world.task? 0 0).any (!·.done) = true := by
    decide +kernel
  obtain ⟨t, task, hdone⟩ := (Option.any_eq_true ..).mp hruns
  exact (exactSamples_history {} 0 0 (readCutLines.take 5)
    (by decide +kernel : _ = some (TaskBody.stats feed))).2.2.2.2.2.2 t cutLines task
    (Bool.not_eq_true' _ |>.mp hdone) (by decide +kernel) (by decide +kernel) (by decide +kernel)
    (by decide +kernel)

end World

end Lookout
