import Lookout.Agent.World
import Lookout.Proofs.Protocol.Envelope

/-!
# Pushes and queues

Two kinds of messages enter the queue of a client: replies, which a session sends one at a time, and
pushes, which the client's tasks and the hub send of their own accord. Type and code tell the one
from the other. Both go through the same queue, from which messages only leave in order.

* `Envelope.IsPush` — what is sent without being asked for;
* `Verdict.not_isPush_reply` — no reply is a push;
* `TaskBody.isPush_of_wait`, `isPush_of_eventMessage?` — what tasks and the hub send is one;
* `Outbox.Fades` — messages leave a queue;
* `Outbox.send_cases`, `Outbox.offer_cases` — how they enter it.
-/

namespace Lookout

/-! ### Pushes -/

/-- **What is sent to a client without being asked for:** samples, lines and events, and the error
that tells that a container's stream could not be opened; whatever identifier it carries. -/
inductive Envelope.IsPush (e : Envelope) : Prop where
  | metrics (type : e.type? = some .metrics)
  | logLine (type : e.type? = some .logLine)
  | containerStats (type : e.type? = some .containerStats)
  | containerEvent (type : e.type? = some .containerEvent)
  | logStreamError (message : String) (error : e.withId none = .error .logStreamError message)
  | statsStreamError (message : String) (error : e.withId none = .error .statsStreamError message)

namespace Envelope.IsPush

variable {e : Envelope}

/-- An error is one whatever identifier it carries: `withId` does not touch the `type` of a
message. -/
theorem type?_of_withId {code : ErrorCode} {message : String}
    (h : e.withId none = .error code message) : e.type? = some .error := by
  change (e.withId none).type? = _
  rw [h]
  exact MessageType.ofName?_name .error

/-- A push is neither an acknowledgement (`subscribed`) nor a sign of life (`pong`). -/
theorem type?_ne (h : e.IsPush) : e.type? ≠ some .subscribed ∧ e.type? ≠ some .pong := by
  cases h with
  | metrics type
  | logLine type
  | containerStats type
  | containerEvent type => exact ⟨by rw [type]; nofun, by rw [type]; nofun⟩
  | logStreamError message error
  | statsStreamError message error =>
    rw [type?_of_withId error]
    exact ⟨nofun, nofun⟩

/-- An error that is pushed has one of two codes. The code is read off the payload, so the
identifier and the message do not matter. -/
theorem code_eq {code : ErrorCode} {message : String} {id : Option String}
    (h : ((Envelope.error code message).withId id).IsPush) :
    code = .logStreamError ∨ code = .statsStreamError := by
  have htype : ((Envelope.error code message).withId id).type? = some .error :=
    MessageType.ofName?_name .error
  -- Only two kinds of pushes are errors, and each has a code of its own.
  cases h with
  | metrics type
  | logLine type
  | containerStats type
  | containerEvent type =>
    rw [htype] at type
    cases type
  | logStreamError other error => exact Or.inl (Envelope.error_injective (congrArg payload error)).1
  | statsStreamError other error =>
    exact Or.inr (Envelope.error_injective (congrArg payload error)).1

end Envelope.IsPush

/-- No `Rejection` has the code of a stream that could not be opened. That is known only once the
task has tried to, long after the reply. -/
theorem Rejection.code_ne (r : Rejection) :
    r.code ≠ .logStreamError ∧ r.code ≠ .statsStreamError := by
  cases r with
  | unresolved reason stream => cases reason <;> exact ⟨nofun, nofun⟩
  | _ => exact ⟨nofun, nofun⟩

/-- **No reply is a push:** it is of another type, or an error of another code
(`Rejection.code_ne`). So a client can tell what it asked for from what is sent on its own, by the
message alone. -/
theorem Verdict.not_isPush_reply (verdict : Verdict) (id : Option String) :
    ¬(verdict.reply id).IsPush := by
  intro h
  obtain ⟨hsubscribed, hpong⟩ := h.type?_ne
  cases verdict with
  | pong => exact hpong (MessageType.ofName?_name .pong)
  | reject r => exact h.code_eq.elim r.code_ne.1 r.code_ne.2
  | start stream interval
  | stop stream name => exact hsubscribed (MessageType.ofName?_name .subscribed)

/-- **What a task waits to send is a push,** and carries no identifier. By the kind of `TaskBody`
and what it waits for: samples, lines, or the error of a stream that could not be opened. -/
theorem TaskBody.isPush_of_wait {body : TaskBody} {e : Envelope} (h : body.wait = .room e) :
    e.IsPush ∧ e.id = none := by
  -- By the kind of the task, and then by its phase; most phases do not wait for room.
  cases body with
  | logs t =>
    change t.wait = _ at h
    unfold LogFollower.wait at h
    split at h <;> cases h
    · exact ⟨.logStreamError _ rfl, rfl⟩
    · exact ⟨.logLine (Envelope.type?_of _ _), rfl⟩
  | metrics t =>
    change t.wait = _ at h
    unfold MetricsSampler.wait at h
    split at h <;> cases h
    exact ⟨.metrics (Envelope.type?_of _ _), rfl⟩
  | stats t =>
    change t.wait = _ at h
    unfold StatsFeed.wait at h
    split at h
    · cases h
    · cases h
      exact ⟨.statsStreamError _ rfl, rfl⟩
    · -- the first sample is only noticed here
      split at h
      · split at h <;> cases h
      · split at h <;> cases h
    · cases h
    · cases h
    · cases h
      exact ⟨.containerStats (Envelope.type?_of _ _), rfl⟩
    · cases h
    · cases h
      exact ⟨.containerStats (Envelope.type?_of _ _), rfl⟩
    · cases h

/-- What the hub sends is a push as well: `eventMessage?` makes events only, and without an
identifier. -/
theorem isPush_of_eventMessage? {event : DaemonEvent} {e : Envelope}
    (h : eventMessage? event = some e) : e.IsPush ∧ e.id = none := by
  obtain ⟨event', -, rfl⟩ := Option.map_eq_some_iff.mp h
  exact ⟨.containerEvent (Envelope.type?_of _ _), rfl⟩

/-! ### Queues -/

namespace Outbox

/-- Messages leave a queue, or nothing happens to it. One whose receiver is gone stays so. This is
all that happens to a queue in a moment in which nothing is sent. -/
structure Fades (o o' : Outbox) : Prop where
  queue : o'.queue <:+ o.queue
  listening : o'.isOpen = true → o.isOpen = true

theorem Fades.of_eq {o o' : Outbox} (h : o' = o) : o.Fades o' := by
  subst h
  exact ⟨List.suffix_refl _, fun hopen => hopen⟩

theorem Fades.refl (o : Outbox) : o.Fades o := .of_eq rfl

/-- `Fades` is transitive: of what is left over a part is left over, and a closed queue stays
closed. -/
theorem Fades.trans {o o' o'' : Outbox} (h : o.Fades o') (h' : o'.Fades o'') : o.Fades o'' where
  queue := h'.queue.trans h.queue
  listening hopen := h.listening (h'.listening hopen)

/-- `receive` takes a message from the front of the queue, so what is left is a suffix of it. -/
theorem fades_receive (o : Outbox) : o.Fades o.receive.1 := by
  unfold receive
  split
  · exact .refl o
  · next e rest hqueue _ =>
    refine ⟨?_, fun h => h⟩
    rw [hqueue]
    exact List.suffix_cons e rest
  · exact .refl o
  · exact .refl o

/-- A receiver that goes takes everything with it: after `drop` the queue is empty and closed. -/
theorem fades_drop (o : Outbox) : o.Fades o.drop := ⟨List.nil_suffix, nofun⟩

/-- **What becomes of a message that does not have to wait:** it is queued, or it never will be.
`settled` rules out that it waits, so of the three things that `send` asks only the first two can
refuse it. -/
theorem send_cases {o o' : Outbox} {cancelled : Bool} {e : Envelope} {sending : Sending}
    (h : o.send cancelled e = (o', sending)) (settled : sending ≠ .waiting) :
    (sending = .queued ∧ cancelled = false ∧ o.isOpen = true ∧ o' = o.push e) ∨
      (sending ≠ .queued ∧ (cancelled = true ∨ o.isOpen = false) ∧ o' = o) := by
  -- By the three questions of `send`, in their order: is it cancelled, is it open, is there room?
  unfold send at h
  split at h
  · next hcancelled =>
    cases h
    exact Or.inr ⟨nofun, Or.inl hcancelled, rfl⟩
  · next hcancelled =>
    split at h
    · next hopen =>
      cases h
      exact Or.inr ⟨nofun, Or.inr (by simpa using hopen), rfl⟩
    · next hopen =>
      split at h
      · cases h
        exact Or.inl ⟨rfl, by simpa using hcancelled, by simpa using hopen, rfl⟩
      · cases h
        exact absurd rfl settled

/-- An `offer` is taken, or leaves the queue alone. Why it was not taken, for a full queue or a
closed one, is of no matter here. -/
theorem offer_cases (o : Outbox) (e : Envelope) :
    (o.isOpen = true ∧ (o.offer e).1 = o.push e) ∨ (o.offer e).1 = o := by
  unfold offer
  split
  · exact Or.inr rfl
  · next hopen =>
    split
    · exact Or.inl ⟨by simpa using hopen, rfl⟩
    · exact Or.inr rfl

end Outbox

end Lookout
