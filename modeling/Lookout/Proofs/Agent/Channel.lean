import Lookout.Agent.Channel
import Mathlib.Data.List.Basic

/-!
# Nothing is lost between the senders and the writer

A message that was accepted is in one of three places: the writer was given it, it is in the queue,
or it went with the receiver. The three, one behind the other, are at any moment the accepted
messages in the order in which they were (`Sound.kept`). A call that is refused does nothing, one
that is accepted appends behind all others, and the writer takes from the front, so every event
keeps this. What the writer was given it has written, but for the text that it holds.

That all is written in the end rests on two things more. The writer ends only where nothing is left
and nothing can come (`Sound.ended`): all handles are gone, or the receiver takes nothing in. And
while it has not ended or given up the receiver is there (`Sound.there`), so what is queued can be
taken.

* `Outbox.Answered` — what a finished call does to a queue;
* `Channel.Next` — all that an event does to a channel;
* `Channel.offer_behind_line`, `Channel.Next.moves_outbox` — how its queue compares to one in a
  `World`, where no room is kept;
* `Channel.Sound` — what holds at any moment;
* `Channel.Delivers` — what this means for those who call and for what is written;
* `Channel.delivers_run` — every run delivers.
-/

namespace Lookout

/-! ### Calls -/

namespace Outbox

/-- **What a finished call does to a queue:** its message comes last, or nothing happens and the
call is told why. -/
inductive Answered (o : Outbox) (message : Envelope) : Outbox → Except SendError Unit → Prop where
  | accepted (listening : o.isOpen = true) (room : o.queue.length < o.capacity) :
    Answered o message (o.push message) (.ok ())
  | refused (e : SendError) : Answered o message o (.error e)

variable {o o' : Outbox} {kept : Nat} {message : Envelope}

/-- What room is left in a queue from which some is kept for others. Subtraction is cut off at zero
on the left, and on the right it is gone. -/
theorem hasRoom_iff : ({ o with capacity := o.capacity - kept } : Outbox).hasRoom = true ↔
    kept + o.queue.length < o.capacity := by
  show decide (0 < o.capacity - kept - o.queue.length) = true ↔ _
  rw [decide_eq_true_eq]
  omega

/-- Room that is kept for others may make a call wait, and does no more than that. Whether a call is
cancelled, and whether anybody listens, is asked before room is, as in `Outbox.send`. -/
theorem keeping_send (o : Outbox) (kept : Nat) (cancelled : Bool) (message : Envelope) :
    o.keeping kept (fun o => o.send cancelled message) =
      if cancelled then (o, .failed .cancelled)
      else if !o.isOpen then (o, .failed .closed)
      else if kept + o.queue.length < o.capacity then (o.push message, .queued)
      else (o, .waiting) := by
  have hopen : ({ o with capacity := o.capacity - kept } : Outbox).isOpen = o.isOpen := rfl
  simp only [keeping, send, hopen, hasRoom_iff]
  split
  · rfl
  · split
    · rfl
    · split <;> rfl

/-- To an offer it may seem that there is no room: it does not wait, and `full` is what it is
told. -/
theorem keeping_offer (o : Outbox) (kept : Nat) (message : Envelope) :
    o.keeping kept (fun o => o.offer message) =
      if !o.isOpen then (o, .error .closed)
      else if kept + o.queue.length < o.capacity then (o.push message, .ok ())
      else (o, .error .full) := by
  have hopen : ({ o with capacity := o.capacity - kept } : Outbox).isOpen = o.isOpen := rfl
  simp only [keeping, offer, hopen, hasRoom_iff]
  split
  · rfl
  · split <;> rfl

/-- Where no room is kept, a call finds what `Outbox.send` finds. This is the case of the first of a
line, and of a call that comes when nobody waits. -/
theorem keeping_zero_send (o : Outbox) (cancelled : Bool) (message : Envelope) :
    o.keeping 0 (fun o => o.send cancelled message) = o.send cancelled message := by
  have hroom : o.hasRoom = true ↔ 0 + o.queue.length < o.capacity := @hasRoom_iff o 0
  rw [keeping_send, send]
  simp only [hroom]

/-- Where no room is kept, an offer finds what `Outbox.offer` finds. -/
theorem keeping_zero_offer (o : Outbox) (message : Envelope) :
    o.keeping 0 (fun o => o.offer message) = o.offer message := by
  have hroom : o.hasRoom = true ↔ 0 + o.queue.length < o.capacity := @hasRoom_iff o 0
  rw [keeping_offer, offer]
  simp only [hroom]

/-- **An offer is answered as if those who wait had gone on before it.** To keep room for a line of
calls (`Outbox.keeping`) refuses an offer in the same cases, and for the same reason, as to let each
of the line queue its message first, as far as there is room. The induction is on the line: who
stands first takes the room that the others behind it do not have any more. -/
theorem keeping_offer_eq (o : Outbox) (line : List Envelope) (message : Envelope) :
    (o.keeping line.length fun o => o.offer message).2 =
      ((line.foldl (fun o e => (o.offer e).1) o).offer message).2 := by
  induction line generalizing o with
  | nil => rw [List.length_nil, keeping_zero_offer, List.foldl_nil]
  | cons e rest ih =>
    rw [List.foldl_cons, ← ih, List.length_cons, keeping_offer, keeping_offer, offer]
    cases hopen : o.isOpen with
    | false =>
      -- Who is told that nobody listens leaves the queue as it is.
      simp [hopen]
    | true =>
      have hopen' : (o.push e).isOpen = true := hopen
      cases hroom : o.hasRoom with
      | true =>
        have hcapacity : (o.push e).capacity = o.capacity := rfl
        have hiff : rest.length + 1 + o.queue.length < o.capacity ↔
            rest.length + (o.queue.length + 1) < o.capacity := by omega
        -- The first of the line takes a place, so the line is shorter by one and the queue longer
        -- by one.
        simp [hopen', hcapacity, hiff, apply_ite Prod.snd]
      | false =>
        -- There was none left for the first of the line, and there is none for the others.
        have hfull : ¬0 + o.queue.length < o.capacity := by
          rw [← @hasRoom_iff o 0]
          exact Bool.eq_false_iff.mp hroom
        have hline : ¬rest.length + 1 + o.queue.length < o.capacity := by omega
        have hrest : ¬rest.length + o.queue.length < o.capacity := by omega
        simp [hopen, hline, hrest]

/-- What `Outbox.send` does when it returns. A call that waits is no finished call and is ruled out
by `returns`. -/
theorem answered_send {cancelled : Bool} {sending : Sending} {result : Except SendError Unit}
    (h : o.keeping kept (fun o => o.send cancelled message) = (o', sending))
    (returns : sending.result? = some result) : o.Answered message o' result := by
  rw [keeping_send] at h
  split at h
  · obtain ⟨rfl, rfl⟩ := Prod.mk.inj h
    obtain rfl := Option.some.inj returns
    exact .refused .cancelled
  · split at h
    · obtain ⟨rfl, rfl⟩ := Prod.mk.inj h
      obtain rfl := Option.some.inj returns
      exact .refused .closed
    · next hopen =>
      split at h
      · next hroom =>
        obtain ⟨rfl, rfl⟩ := Prod.mk.inj h
        obtain rfl := Option.some.inj returns
        exact .accepted (by simpa using hopen) (by omega)
      · -- a call that waits returns nothing
        obtain ⟨rfl, rfl⟩ := Prod.mk.inj h
        cases returns

/-- What `Outbox.offer` does: it always returns. -/
theorem answered_offer {result : Except SendError Unit}
    (h : o.keeping kept (fun o => o.offer message) = (o', result)) :
    o.Answered message o' result := by
  rw [keeping_offer] at h
  split at h
  · obtain ⟨rfl, rfl⟩ := Prod.mk.inj h
    exact .refused .closed
  · next hopen =>
    split at h
    · next hroom =>
      obtain ⟨rfl, rfl⟩ := Prod.mk.inj h
      exact .accepted (by simpa using hopen) (by omega)
    · obtain ⟨rfl, rfl⟩ := Prod.mk.inj h
      exact .refused .full

end Outbox

/-- What can be done to a queue in one go, whoever does it. These are the operations that a `World`
applies to the queue of a client. -/
inductive Outbox.Moves (o : Outbox) : Outbox → Prop where
  | stays : Moves o o
  | offers (message : Envelope) : Moves o (o.offer message).1
  | receives : Moves o o.receive.1
  | closes : Moves o o.close
  | drops : Moves o o.drop

/-- The text that a writer holds and has not written. One that gave up keeps the text it failed on:
it was received and is not among what was written. -/
def WriterPhase.text? : WriterPhase → Option String
  | writing text => some text
  | broken text => text
  | _ => none

/-- Whether a writer gave up. -/
def WriterPhase.isBroken : WriterPhase → Bool
  | broken _ => true
  | _ => false

namespace Channel

/-! ### A channel and a queue in the world

A world knows only queues. There `World.reply` and `World.proceed` try a message that waits again
whenever they are stepped, and no room is kept for it meanwhile. The difference is one of order, and
not of what a queue can become. -/

/-- The first of the line is answered as in a world: nobody stands before it, so no room is kept. -/
theorem attempt_zero (ch : Channel) (call : SendCall) :
    ch.attempt 0 call = ch.outbox.send (ch.cancelled.isCancelled call.token) call.message :=
  ch.outbox.keeping_zero_send _ _

/-- Where calls wait an offer is told what it would be told in a world in which all of them have
gone on before it. -/
theorem offer_behind_line (ch : Channel) (message : Envelope) :
    (ch.offer message).returned = ch.returned ++
      [(message, ((ch.waiting.foldl (fun o call => (o.offer call.message).1) ch.outbox).offer
        message).2)] := by
  have hline := ch.outbox.keeping_offer_eq (ch.waiting.map (·.message)) message
  rw [List.length_map, List.foldl_map] at hline
  rw [← hline]
  rfl

/-- A call under a cancelled token is over at once, wherever it stands in the line, and whether
there is room or not. -/
theorem attempt_of_cancelled {ch : Channel} {call : SendCall}
    (cancelled : ch.cancelled.isCancelled call.token = true) (ahead : Nat) :
    ch.attempt ahead call = (ch.outbox, .failed .cancelled) := by
  rw [attempt, cancelled]
  rfl

/-! ### Events -/

/-- **All that an event does to a channel.** The constructors name what the invariant below needs
and no more: that a call has a handle, what `Outbox.Answered` says of it, what the writer was at.
Several events share one, and an event that finds nothing to do is `moves` with nothing changed. -/
inductive Next (ch : Channel) : Channel → Prop where
  /-- Handles come and go, calls begin to wait or are given up, a token is cancelled. -/
  | moves (handles : Nat) (waiting : List SendCall) (cancelled : Cancellations)
    (held : waiting ≠ [] → 0 < handles) (gone : ch.handles = 0 → handles = 0) :
    Next ch { ch with handles, waiting, cancelled }
  /-- A call returns. -/
  | answers {outbox : Outbox} {message : Envelope} {result : Except SendError Unit}
    (waiting : List SendCall) (handle : 0 < ch.handles)
    (answered : ch.outbox.Answered message outbox result) :
    Next ch { ch.answer outbox message result with waiting }
  /-- The writer is given a message. -/
  | receives {e : Envelope} {rest : List Envelope} (phase : ch.writer.phase = .taking)
    (there : ch.outbox.receiver ≠ .gone) (queue : ch.outbox.queue = e :: rest) :
    Next ch { ch with
      outbox := { ch.outbox with queue := rest }
      received := ch.received ++ [e]
      writer := { ch.writer with phase := .writing e.wire } }
  /-- The writer hears that no message will come. -/
  | ends (phase : ch.writer.phase = .taking) (there : ch.outbox.receiver ≠ .gone)
    (queue : ch.outbox.queue = []) (last : ch.handles = 0 ∨ ch.outbox.receiver ≠ .listening) :
    Next ch { ch with writer := { ch.writer with phase := .ended } }
  | writes {text : String} (phase : ch.writer.phase = .writing text) :
    Next ch { ch with writer := { phase := .taking, written := ch.writer.written ++ [text] } }
  | fails {text : String} (phase : ch.writer.phase = .writing text) :
    Next ch { ch with writer := { ch.writer with phase := .broken text } }
  | closes : Next ch { ch with outbox := ch.outbox.close }
  | leaves :
    Next ch { ch with
      outbox := ch.outbox.drop, lost := ch.lost ++ ch.outbox.queue, writer := ch.writer.stopped }

variable {ch ch' : Channel} {capacity : Nat}

theorem Next.refl (held : ch.waiting ≠ [] → 0 < ch.handles) : ch.Next ch :=
  .moves _ _ _ held id

theorem next_send (call : SendCall) (handle : 0 < ch.handles) : ch.Next (ch.send call) := by
  unfold send
  rcases hattempt : ch.attempt ch.waiting.length call with ⟨outbox, sending⟩
  dsimp only
  -- If the attempt has a result the call returns with it, and else it waits.
  split
  · next result hresult => exact .answers _ handle (Outbox.answered_send hattempt hresult)
  · exact .moves _ _ _ (fun _ => handle) id

/-- One of the line is tried again. If it returns it leaves the line, and if not the line stays. -/
theorem next_resume (held : ch.waiting ≠ [] → 0 < ch.handles) (place : Nat) :
    ch.Next (ch.resume place) := by
  unfold resume
  split
  -- There is nobody at this place.
  · exact .refl held
  · next call hcall =>
    have hwaiting : ch.waiting ≠ [] := List.ne_nil_of_mem (List.mem_of_getElem? hcall)
    rcases hattempt : ch.attempt place call with ⟨outbox, sending⟩
    dsimp only
    split
    · next result hresult =>
      exact .answers _ (held hwaiting) (Outbox.answered_send hattempt hresult)
    · exact .refl held

/-- An offer always returns, so it is one `answers`. -/
theorem next_offer (message : Envelope) (handle : 0 < ch.handles) :
    ch.Next (ch.offer message) := by
  unfold offer
  rcases hoffer : ch.outbox.keeping ch.waiting.length fun o => o.offer message with
    ⟨outbox, result⟩
  exact .answers _ handle (Outbox.answered_offer hoffer)

/-- What the writer hears when it asks for a message: a message, that none will come, that there is
none now, or that its end of the queue is gone. The second needs a queue that is empty, and either
that no handle is left or that nothing is taken in any more. -/
theorem receive_cases (ch : Channel) :
    (∃ e rest, ch.outbox.receiver ≠ .gone ∧ ch.outbox.queue = e :: rest ∧
      ch.receive = ({ ch.outbox with queue := rest }, .message e)) ∨
    (ch.outbox.receiver ≠ .gone ∧ ch.outbox.queue = [] ∧
      (ch.handles = 0 ∨ ch.outbox.receiver ≠ .listening) ∧
      ch.receive = (ch.outbox, .disconnected)) ∨
    (ch.handles ≠ 0 ∧ ch.receive = (ch.outbox, .empty)) ∨
    (ch.outbox.receiver = .gone ∧ ch.receive = (ch.outbox, .gone)) := by
  unfold receive Outbox.receive
  -- In the order in which the queue looks: at the receiver, at the messages, at the handles.
  cases hreceiver : ch.outbox.receiver with
  | gone => exact .inr (.inr (.inr ⟨rfl, rfl⟩))
  | listening =>
    cases ch.outbox.queue with
    | cons e rest => exact .inl ⟨e, rest, nofun, rfl, by simp [hreceiver]⟩
    | nil =>
      by_cases hhandles : ch.handles = 0
      · exact .inr (.inl ⟨nofun, rfl, .inl hhandles, by simp [hhandles]⟩)
      · exact .inr (.inr (.inl ⟨hhandles, by simp [hhandles]⟩))
  | closed =>
    cases ch.outbox.queue with
    | cons e rest => exact .inl ⟨e, rest, nofun, rfl, by simp [hreceiver]⟩
    | nil => exact .inr (.inl ⟨nofun, rfl, .inr nofun, rfl⟩)

/-- The writer asks for a message if it has none, by the four cases of `receive_cases`. -/
theorem next_take (held : ch.waiting ≠ [] → 0 < ch.handles) : ch.Next ch.take := by
  unfold take
  split
  · next hphase =>
    -- The writer takes a message, learns that there are no more, or does nothing for now.
    rcases ch.receive_cases with ⟨e, rest, there, queue, heq⟩ | ⟨there, queue, last, heq⟩ |
      ⟨-, heq⟩ | ⟨-, heq⟩
    · simp only [heq, Writer.take, hphase]
      exact .receives hphase there queue
    · simp only [heq, Writer.take, hphase, List.append_nil]
      exact .ends hphase there queue last
    · simp only [heq, Writer.take, hphase, List.append_nil]
      exact .refl held
    · simp only [heq, Writer.take, hphase, List.append_nil]
      exact .refl held
  · exact .refl held

/-- **Every event is one of the constructors of `Channel.Next`.** Most events are guarded by a
handle: without one there is nobody to clone it, send or offer. -/
theorem next_step (held : ch.waiting ≠ [] → 0 < ch.handles) (event : ChannelEvent) :
    ch.Next (ch.step event) := by
  -- A call needs a handle, and so does whoever waits in the line; the writer and the receiver go by
  -- their own states.
  cases event with
  | clone =>
    rw [step]
    split
    · exact .refl held
    · next handle =>
      exact .moves _ _ _ (fun _ => Nat.succ_pos _)
        fun gone => absurd gone handle
  | release =>
    rw [step]
    split
    · next spare =>
      refine .moves _ _ _ (fun hwaiting => ?_) ?_
      · -- a call that waits has a handle left
        have hmany : 1 < ch.handles := spare.resolve_right hwaiting
        omega
      · omega
    · exact .refl held
  | send call =>
    rw [step]
    split
    · exact .refl held
    · next handle => exact next_send call (Nat.pos_of_ne_zero handle)
  | resume place => exact next_resume held place
  | abandon place =>
    refine .moves _ _ _ (fun hwaiting => ?_) id
    -- Whoever gives up leaves a line that is no longer than before.
    refine held fun hnone => hwaiting ?_
    rw [hnone]
    rfl
  | offer message =>
    rw [step]
    split
    · exact .refl held
    · next handle => exact next_offer message (Nat.pos_of_ne_zero handle)
  | cancel token => exact .moves _ _ _ held id
  | take => exact next_take held
  | write =>
    rw [step, Writer.wrote]
    split
    · next text phase => exact .writes phase
    · exact .refl held
  | fail =>
    rw [step, Writer.failed]
    split
    · next text phase => exact .fails phase
    · exact .refl held
  | close => exact .closes
  | leave => exact .leaves

/-- **Whatever happens to a channel, its queue makes a move that it could make in a world,** or none
(`Outbox.Moves`). So a world can bring a queue to all that a channel brings it to, and what holds of
the queues in every history of a world is not lost by the line. -/
theorem Next.moves_outbox (h : ch.Next ch') : ch.outbox.Moves ch'.outbox := by
  cases h with
  | moves | ends | writes | fails => exact .stays
  | closes => exact .closes
  | leaves => exact .drops
  | @answers _ message _ waiting handle answered =>
    cases answered with
    | refused => exact .stays
    | accepted listening room =>
      -- A message that was accepted found the queue open and with room, so it was offered.
      have hroom : ch.outbox.hasRoom = true := by
        rw [Outbox.hasRoom, Outbox.room, decide_eq_true_eq]
        omega
      have hoffer : (ch.outbox.offer message).1 = ch.outbox.push message := by
        simp [Outbox.offer, listening, hroom]
      exact hoffer ▸ .offers message
  | @receives e rest phase there queue =>
    -- The queue hands out its first message as long as the receiver is there, closed or not.
    have hreceive : ch.outbox.receive.1 = { ch.outbox with queue := rest } := by
      cases hreceiver : ch.outbox.receiver with
      | gone => exact absurd hreceiver there
      | listening | closed => simp [Outbox.receive, hreceiver, queue]
    exact hreceive ▸ .receives

/-! ### What holds at any moment -/

/-- **What holds at any moment.** `kept` is the invariant that carries the rest: the three places of
a message, one behind the other, are what was accepted. `held` is what keeps the writer from ending
while a call waits, `lost` and `gone` say that only the receiver's going loses anything, and `ended`
and `there` bound what a writer at its end may have missed. -/
structure Sound (capacity : Nat) (ch : Channel) : Prop where
  size : ch.outbox.capacity = capacity
  bounded : ch.outbox.queue.length ≤ capacity
  held : ch.waiting ≠ [] → 0 < ch.handles
  kept : ch.received ++ ch.outbox.queue ++ ch.lost = ch.accepted
  /-- Messages are lost with the receiver only, and leave nothing behind. -/
  lost : ch.outbox.receiver ≠ .gone → ch.lost = []
  gone : ch.outbox.receiver = .gone → ch.outbox.queue = []
  written : ch.received.map Envelope.wire = ch.writer.written ++ ch.writer.phase.text?.toList
  /-- A writer that has ended has written all that there was and will be. -/
  ended : ch.writer.phase = .ended → ch.outbox.queue = [] ∧ ch.lost = [] ∧
    (ch.handles = 0 ∨ ch.outbox.receiver ≠ .listening)
  /-- Until it has ended, or given up, a writer has its end of the queue. -/
  there : ch.outbox.receiver = .gone →
    ch.writer.phase = .ended ∨ ch.writer.phase.isBroken = true

theorem accepted_ok (ch : Channel) (outbox : Outbox) (message : Envelope) :
    (ch.answer outbox message (.ok ())).accepted = ch.accepted ++ [message] := by
  simp [accepted, answer]

theorem accepted_error (ch : Channel) (outbox : Outbox) (message : Envelope) (e : SendError) :
    (ch.answer outbox message (.error e)).accepted = ch.accepted := by
  simp [accepted, answer]

theorem Sound.new (capacity : Nat) : (Channel.new capacity).Sound capacity where
  size := rfl
  bounded := Nat.zero_le capacity
  held h := absurd rfl h
  kept := rfl
  lost _ := rfl
  gone := nofun
  written := rfl
  ended := nofun
  there := nofun

/-- A call keeps what holds: what it appends is what is accepted. In the accepted case the fields
that speak of a receiver that has gone, or of a writer that has ended, are vacuous: nothing is
accepted without a receiver that listens and a handle. -/
theorem Sound.answer (h : ch.Sound capacity) {outbox : Outbox} {message : Envelope}
    {result : Except SendError Unit} (handle : 0 < ch.handles)
    (answered : ch.outbox.Answered message outbox result) (waiting : List SendCall) :
    ({ ch.answer outbox message result with waiting } : Channel).Sound capacity := by
  cases answered with
  | accepted listening room =>
    -- With a receiver that listens nothing was lost, so the message comes last of all.
    have hlistening : ch.outbox.receiver = .listening := by simpa [Outbox.isOpen] using listening
    have hlost : ch.lost = [] := h.lost (hlistening ▸ nofun)
    exact
      { h with
        bounded := by
          change (ch.outbox.queue ++ [message]).length ≤ capacity
          rw [List.length_append, List.length_singleton, ← h.size]
          exact room
        held := fun _ => handle
        kept := by
          change ch.received ++ (ch.outbox.queue ++ [message]) ++ ch.lost =
            (ch.answer (ch.outbox.push message) message (.ok ())).accepted
          rw [accepted_ok, ← h.kept, hlost]
          simp
        gone := fun hgone => by
          change ch.outbox.receiver = .gone at hgone
          rw [hlistening] at hgone
          cases hgone
        ended := fun hended => by
          -- The writer would have known that nothing can come.
          rcases (h.ended hended).2.2 with hnone | hdeaf
          · exact absurd hnone (Nat.ne_of_gt handle)
          · exact absurd hlistening hdeaf }
  | refused e =>
    exact
      { h with
        held := fun _ => handle
        kept := by
          change ch.received ++ ch.outbox.queue ++ ch.lost =
            (ch.answer ch.outbox message (.error e)).accepted
          rw [accepted_error, h.kept] }

/-- What the writer was given, by what it is at. Stated for any phase it is equal to, as rewriting
the phase inside `Sound` would rewrite other fields too. -/
theorem Sound.written_of (h : ch.Sound capacity) {phase : WriterPhase}
    (is : ch.writer.phase = phase) :
    ch.received.map Envelope.wire = ch.writer.written ++ phase.text?.toList := by
  rw [h.written, is]

/-- **Every event keeps what holds.** One case for each constructor of `Next`, and in each only the
fields are proved that the event touches. -/
theorem Sound.next (h : ch.Sound capacity) (hnext : ch.Next ch') : ch'.Sound capacity := by
  -- `{ h with .. }` keeps the fields that are the same before and after.
  cases hnext with
  | moves handles waiting cancelled held gone =>
    refine { h with held := held, ended := fun hended => ?_ }
    obtain ⟨hqueue, hlost, hlast⟩ := h.ended hended
    exact ⟨hqueue, hlost, hlast.imp_left gone⟩
  | answers waiting handle answered => exact h.answer handle answered waiting
  | @receives e rest phase there queue =>
    have hwritten := h.written_of phase
    exact
      { h with
        bounded := by
          have hbounded := h.bounded
          rw [queue, List.length_cons] at hbounded
          exact Nat.le_of_succ_le hbounded
        kept := by
          change ch.received ++ [e] ++ rest ++ ch.lost = ch.accepted
          rw [← h.kept, queue]
          simp
        gone := fun hgone => absurd hgone there
        written := by
          -- What the writer is about to write is the message that was taken last.
          rw [List.map_append, hwritten]
          simp [WriterPhase.text?]
        ended := nofun
        there := fun hgone => absurd hgone there }
  | ends phase there queue last =>
    have hwritten := h.written_of phase
    exact
      { h with
        written := hwritten
        -- A writer that ends has seen the queue empty, with no handle left or the receiver closed.
        ended := fun _ => ⟨queue, h.lost there, last⟩
        there := fun hgone => absurd hgone there }
  | writes phase =>
    have hwritten := h.written_of phase
    refine { h with written := ?_, ended := nofun, there := fun hgone => ?_ }
    · rw [hwritten]
      simp [WriterPhase.text?]
    · -- a writer that writes has its end of the queue
      rcases h.there hgone with h' | h' <;> rw [phase] at h' <;> cases h'
  | fails phase =>
    have hwritten := h.written_of phase
    exact { h with written := hwritten, ended := nofun, there := fun _ => .inr rfl }
  | closes =>
    -- To close it does not bring back a receiver that has gone.
    have hgone : ch.outbox.close.receiver = .gone ↔ ch.outbox.receiver = .gone := by
      by_cases hgone : ch.outbox.receiver = .gone <;> simp [Outbox.close, hgone]
    have hdeaf : ch.outbox.close.receiver ≠ .listening := by
      by_cases hgone : ch.outbox.receiver = .gone <;> simp [Outbox.close, hgone]
    exact
      { h with
        lost := fun hthere => h.lost fun h' => hthere (hgone.mpr h')
        gone := fun h' => h.gone (hgone.mp h')
        ended := fun hended =>
          ⟨(h.ended hended).1, (h.ended hended).2.1, .inr hdeaf⟩
        there := fun h' => h.there (hgone.mp h') }
  | leaves =>
    -- To be stopped changes the phase only, and a writer that had not ended is broken by it.
    have hstopped : ch.writer.stopped.written = ch.writer.written ∧
        ch.writer.stopped.phase.text? = ch.writer.phase.text? ∧
        (ch.writer.stopped.phase = .ended ∧ ch.writer.phase = .ended ∨
          ch.writer.stopped.phase.isBroken = true) := by
      cases hphase : ch.writer.phase <;>
        simp [Writer.stopped, hphase, WriterPhase.text?, WriterPhase.isBroken]
    obtain ⟨hsame, htext, hphase⟩ := hstopped
    exact
      { h with
        bounded := Nat.zero_le capacity
        kept := by
          change ch.received ++ [] ++ (ch.lost ++ ch.outbox.queue) = ch.accepted
          rw [← h.kept]
          -- A second time there is nothing more to lose.
          by_cases hgone : ch.outbox.receiver = .gone
          · simp [h.gone hgone]
          · simp [h.lost hgone]
        lost := fun hthere => absurd rfl hthere
        gone := fun _ => rfl
        written := by rw [hsame, htext, h.written]
        ended := fun hended => by
          rcases hphase with ⟨-, hended'⟩ | hbroken
          · obtain ⟨hqueue, hlost, -⟩ := h.ended hended'
            exact ⟨rfl, by rw [hlost, hqueue]; rfl, .inr nofun⟩
          · rw [hended] at hbroken
            cases hbroken
        there := fun _ => hphase.imp_left And.left }

/-- What holds at the start holds at any moment. The induction is on the events from the first one,
with the channel general. -/
theorem Sound.run (h : ch.Sound capacity) (events : List ChannelEvent) :
    (ch.run events).Sound capacity := by
  induction events generalizing ch with
  | nil => exact h
  | cons event rest ih => exact ih (h.next (next_step h.held event))

/-! ### What is written in the end -/

/-- What a writer does for so many messages: it takes each, and writes it. One round more than there
are messages brings the news that none will come. -/
def rounds (n : Nat) : List ChannelEvent := (List.replicate n [.take, .write]).flatten

/-- A round is a `take` and a `write`, and the other rounds come after it. -/
theorem run_rounds_succ (ch : Channel) (n : Nat) :
    ch.run (rounds (n + 1)) = ((ch.step .take).step .write).run (rounds n) := rfl

/-- What a writer is given once all handles are gone: the next message, or the news that there is
none and none will come. -/
theorem Sound.take_of_released (h : ch.Sound capacity) (released : ch.handles = 0)
    (phase : ch.writer.phase = .taking) :
    (∃ e rest, ch.outbox.queue = e :: rest ∧ ch.step .take = { ch with
      outbox := { ch.outbox with queue := rest }
      received := ch.received ++ [e]
      writer := { ch.writer with phase := .writing e.wire } }) ∨
    (ch.outbox.queue = [] ∧
      ch.step .take = { ch with writer := { ch.writer with phase := .ended } }) := by
  -- Without handles the queue never says that it is only empty for now, and the receiver is gone
  -- only when the writer is.
  rcases ch.receive_cases with ⟨e, rest, -, queue, heq⟩ | ⟨-, queue, -, heq⟩ | ⟨handle, -⟩ |
    ⟨gone, -⟩
  · refine .inl ⟨e, rest, queue, ?_⟩
    simp only [step, take, phase, heq, Writer.take]
  · refine .inr ⟨queue, ?_⟩
    simp only [step, take, phase, heq, Writer.take, List.append_nil]
  · exact absurd released handle
  · rcases h.there gone with h' | h' <;> rw [phase] at h' <;> cases h'

/-- **A writer that nobody sends to comes to its end by itself.** The induction is on what is
queued: with no handle left nothing is appended, so each round takes one message off. That
`accepted` stays the same is carried along for `Sound.exists_written`. -/
theorem Sound.exists_ended (h : ch.Sound capacity) (released : ch.handles = 0)
    (phase : ch.writer.phase = .taking) :
    ∃ n, (ch.run (rounds n)).writer.phase = .ended ∧
      (ch.run (rounds n)).accepted = ch.accepted := by
  generalize hqueue : ch.outbox.queue = queue
  induction queue generalizing ch with
  | nil =>
    rcases h.take_of_released released phase with ⟨e, rest, queue, -⟩ | ⟨-, htake⟩
    · rw [hqueue] at queue
      cases queue
    · refine ⟨1, ?_⟩
      rw [run_rounds_succ, htake]
      exact ⟨rfl, rfl⟩
  | cons e rest ih =>
    rcases h.take_of_released released phase with ⟨e', rest', queue, htake⟩ | ⟨queue, -⟩
    · obtain ⟨rfl, rfl⟩ := List.cons.inj (hqueue.symm.trans queue)
      have hsound := h.next (next_step h.held .take)
      have hwrite := hsound.next (next_step hsound.held .write)
      rw [htake] at hwrite
      obtain ⟨n, hended, haccepted⟩ := ih hwrite released rfl rfl
      -- The round for the first message comes before those for the rest.
      refine ⟨n + 1, ?_⟩
      rw [run_rounds_succ, htake]
      exact ⟨hended, haccepted⟩
    · rw [hqueue] at queue
      cases queue

/-- What was written comes first among what was accepted: it is what the writer was given but for
the text it holds, and that is the first of the three places of `Sound.kept`. -/
theorem Sound.written_isPrefix (h : ch.Sound capacity) :
    ch.writer.written <+: ch.accepted.map Envelope.wire := by
  have hreceived : ch.writer.written <+: ch.received.map Envelope.wire :=
    ⟨_, h.written.symm⟩
  rw [← h.kept, List.append_assoc, List.map_append]
  exact hreceived.trans (List.prefix_append _ _)

/-- A writer that has ended has written everything: by `Sound.ended` nothing is queued or lost, and
it holds no text. -/
theorem Sound.written_of_ended (h : ch.Sound capacity) (ended : ch.writer.phase = .ended) :
    ch.writer.written = ch.accepted.map Envelope.wire := by
  obtain ⟨hqueue, hlost, -⟩ := h.ended ended
  have hwritten := h.written_of ended
  rw [← h.kept, hqueue, hlost, List.append_nil, List.append_nil, hwritten]
  exact (List.append_nil _).symm

/-- Without handles everything is written, unless a write fails. A text that the writer holds is the
first; before it can take the next message it has a round in which the take does nothing. -/
theorem Sound.exists_written (h : ch.Sound capacity) (released : ch.handles = 0)
    (going : ch.writer.phase.isBroken = false) :
    ∃ n, (ch.run (rounds n)).writer.phase = .ended ∧
      (ch.run (rounds n)).writer.written = ch.accepted.map Envelope.wire := by
  have hended : ∃ n, (ch.run (rounds n)).writer.phase = .ended ∧
      (ch.run (rounds n)).accepted = ch.accepted := by
    cases phase : ch.writer.phase with
    | taking => exact h.exists_ended released phase
    | ended => exact ⟨0, phase, rfl⟩
    | broken text =>
      rw [phase] at going
      cases going
    | writing text =>
      -- A writer that holds a text does not ask for another.
      have htake : ch.step .take = ch := by simp only [step, take, phase]
      have hsound := h.next (next_step h.held .write)
      have hwrite : ch.step .write =
          { ch with writer := { phase := .taking, written := ch.writer.written ++ [text] } } := by
        simp only [step, Writer.wrote, phase]
      rw [hwrite] at hsound
      obtain ⟨n, hended, haccepted⟩ := hsound.exists_ended released rfl
      refine ⟨n + 1, ?_⟩
      rw [run_rounds_succ, htake, hwrite]
      exact ⟨hended, haccepted⟩
  obtain ⟨n, hended, haccepted⟩ := hended
  exact ⟨n, hended, haccepted ▸ (h.run (rounds n)).written_of_ended hended⟩

/-- An event in which a call is refused does nothing to the queue. By the constructors of `Next`:
only `answers` adds to what was returned. -/
theorem outbox_of_error (held : ch.waiting ≠ [] → 0 < ch.handles) {event : ChannelEvent}
    {message : Envelope} {e : SendError}
    (refused : (ch.step event).returned = ch.returned ++ [(message, .error e)]) :
    (ch.step event).outbox = ch.outbox := by
  have hnext := next_step held event
  generalize ch.step event = ch' at hnext refused
  cases hnext with
  | answers waiting handle answered =>
    have hreturned := List.append_cancel_left refused
    cases answered with
    | accepted => cases hreturned
    | refused => rfl
  -- In no other event does a call return.
  | moves | receives | ends | writes | fails | closes | leaves =>
    have hreturned : ch.returned = ch.returned ++ [(message, .error e)] := refused
    simp at hreturned

/-- **What a channel does for those who call, and for what is written.** `bounded` to `lost` are
about the queue, `refused` to `withdrawn` about those who call, `written` to `ends` about what is
written at the far end. The last three, `front`, `line` and `moves`, compare the queue to one in a
`World`. -/
structure Delivers (capacity : Nat) (ch : Channel) : Prop where
  bounded : ch.outbox.queue.length ≤ capacity
  /-- What the writer was given, and what is queued behind it, is what was accepted, in this order.
  Only if the receiver goes is the queue lost with it. -/
  kept : ch.received ++ ch.outbox.queue ++ ch.lost = ch.accepted
  lost : ch.outbox.receiver ≠ .gone → ch.lost = []
  /-- A call that is refused, for whatever reason, does nothing to the queue. -/
  refused : ∀ {event message e},
    (ch.step event).returned = ch.returned ++ [(message, .error e)] →
      (ch.step event).outbox = ch.outbox
  /-- A call under a token that is cancelled is refused for that reason and for no other, be there
  room and a receiver or not; and so is one that waited. -/
  cancelled : ∀ {call}, ch.cancelled.isCancelled call.token = true → 0 < ch.handles →
    ch.step (.send call) = ch.answer ch.outbox call.message (.error .cancelled)
  withdrawn : ∀ {call place}, ch.cancelled.isCancelled call.token = true →
    ch.waiting[place]? = some call → ch.step (.resume place) =
      { ch.answer ch.outbox call.message (.error .cancelled) with
        waiting := ch.waiting.eraseIdx place }
  /-- What is written is what was accepted, as far as the writer has come. -/
  written : ch.writer.written <+: ch.accepted.map Envelope.wire
  /-- It is all of it when the writer has ended. -/
  ended : ch.writer.phase = .ended → ch.writer.written = ch.accepted.map Envelope.wire
  /-- And without handles the writer does end, unless a write fails or its end of the queue is
  taken from it. -/
  ends : ch.handles = 0 → ch.writer.phase.isBroken = false →
    ∃ n, (ch.run (rounds n)).writer.phase = .ended ∧
      (ch.run (rounds n)).writer.written = ch.accepted.map Envelope.wire
  /-- The first of those who wait is answered as in a world, where nobody stands in line. -/
  front : ∀ call, ch.attempt 0 call =
    ch.outbox.send (ch.cancelled.isCancelled call.token) call.message
  /-- An offer is told what it would be told in a world in which all who wait have gone on before
  it, as far as there was room for them. -/
  line : ∀ message, (ch.offer message).returned = ch.returned ++
    [(message, ((ch.waiting.foldl (fun o call => (o.offer call.message).1) ch.outbox).offer
      message).2)]
  /-- Whatever happens, the queue makes a move that it could make in a world. -/
  moves : ∀ event, ch.outbox.Moves (ch.step event).outbox

/-- **Every channel delivers,** whatever its capacity and whatever those around it do. `Sound.run`
gives the invariant at any moment, and the fields are read off it. -/
theorem delivers_run (capacity : Nat) (events : List ChannelEvent) :
    ((Channel.new capacity).run events).Delivers capacity := by
  have h := (Sound.new capacity).run events
  generalize (Channel.new capacity).run events = ch at h
  -- What speaks of the past are fields of `Sound`, and what speaks of the next call is computed.
  exact
    { bounded := h.bounded
      kept := h.kept
      lost := h.lost
      refused := outbox_of_error h.held
      cancelled := fun hcancelled handle => by
        rw [step, if_neg (Nat.ne_of_gt handle), send, attempt_of_cancelled hcancelled]
        rfl
      withdrawn := fun hcancelled hwaiting => by
        rw [step, resume, hwaiting]
        dsimp only
        rw [attempt_of_cancelled hcancelled]
        rfl
      written := h.written_isPrefix
      ended := h.written_of_ended
      ends := fun released going => h.exists_written released going
      front := ch.attempt_zero
      line := ch.offer_behind_line
      moves := fun event => (next_step h.held event).moves_outbox }

/-- The second of two messages waits for the first to be taken, and its room is kept for it: a third
is refused although the queue is empty. -/
example :
    let ch := (new 1).run [.send ⟨⟨[0]⟩, { kind := "first" }⟩, .send ⟨⟨[1]⟩, { kind := "second" }⟩,
      .take, .offer { kind := "third" }, .resume 0]
    ch.received.map (·.kind) = ["first"] ∧ ch.outbox.queue.map (·.kind) = ["second"] ∧
      ch.accepted.map (·.kind) = ["first", "second"] := by decide

end Channel

end Lookout
