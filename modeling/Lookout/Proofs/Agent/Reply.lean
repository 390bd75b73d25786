import Lookout.Proofs.Agent.Parts
import Lookout.Proofs.Agent.Session

/-!
# One frame, one reply

A session answers every frame with one message, whatever its bytes are and whatever the session is
subscribed to. What kind of message that is depends on the frame alone in all that
`Envelope.Answers` says of it.

* `Envelope.Answers` — what a reply is to a frame;
* `World.frame_answered` — every frame is answered, once.
-/

namespace Lookout

/-! ### Replies -/

namespace Verdict

variable (verdict : Verdict) (id : Option String)

/-- A reply has one of three types: `pong`, `subscribed` and `error`, one for each constructor of
`Verdict` up to the two acknowledgements that share theirs. -/
theorem type?_reply : (verdict.reply id).type? = some .pong ∨
    (verdict.reply id).type? = some .subscribed ∨ (verdict.reply id).type? = some .error := by
  cases verdict with
  | pong => exact Or.inl (MessageType.ofName?_name .pong)
  | reject r => exact Or.inr (Or.inr (MessageType.ofName?_name .error))
  | start stream interval
  | stop stream name => exact Or.inr (Or.inl (MessageType.ofName?_name .subscribed))

/-- A bare `pong` is the reply to a ping and to nothing else, as all other replies have another
type. -/
theorem reply_eq_pong_iff : verdict.reply id = .bare .pong ↔ verdict = .pong := by
  cases verdict with
  | pong => exact iff_of_true rfl rfl
  | reject r
  | start stream interval
  | stop stream name =>
    -- All others have a payload.
    refine iff_of_false (fun h => ?_) nofun
    cases congrArg Envelope.payload h

/-- Every other reply carries the identifier of what it answers, through `withId`. -/
theorem id_reply (h : verdict ≠ .pong) : (verdict.reply id).id = id := by
  cases verdict with
  | pong => exact absurd rfl h
  | reject r
  | start stream interval
  | stop stream name => rfl

/-- An error tells its `code` through its payload, so a verdict whose reply has a code is a
`Rejection` with it. The message beside it may be any. -/
theorem reply_eq_error_iff (code : ErrorCode) :
    (∃ message, verdict.reply id = (Envelope.error code message).withId id) ↔
      ∃ r, verdict = .reject r ∧ r.code = code := by
  constructor
  · rintro ⟨message, h⟩
    cases verdict with
    | pong => cases congrArg Envelope.payload h
    | reject r =>
      have hpayload := congrArg Envelope.payload h
      rw [show (reply id (reject r)).payload = (Envelope.error r.code r.message).payload from rfl,
        show ((Envelope.error code message).withId id).payload =
          (Envelope.error code message).payload from rfl] at hpayload
      exact ⟨r, rfl, (Envelope.error_injective hpayload).1⟩
    | start stream interval
    | stop stream name =>
      -- What was granted is of another type.
      have hkind : MessageType.subscribed.name = MessageType.error.name := congrArg Envelope.kind h
      exact absurd hkind (by decide)
  · rintro ⟨r, rfl, rfl⟩
    exact ⟨r.message, rfl⟩

end Verdict

/-- **What a reply is to a frame.** It has one of three types, and the frame alone says which of
them in the cases below. What the session holds decides only between an acknowledgement and an error
of a known type, of which nothing is said here. -/
structure Envelope.Answers (reply : Envelope) (frame : List UInt8) : Prop where
  type : reply.type? = some .pong ∨ reply.type? = some .subscribed ∨ reply.type? = some .error
  /-- It is a bare sign of life if and only if the frame asks for one. -/
  pong : reply = .bare .pong ↔ ∃ e, ofBytes frame = .ok e ∧ e.kind = "ping"
  /-- To what is no message it is an error without an identifier. -/
  undecoded : ∀ err, ofBytes frame = .error err →
    reply.id = none ∧ ∃ message, reply = .error .badPayload message
  /-- To all others it carries the identifier of the message. -/
  id : ∀ e, ofBytes frame = .ok e → e.kind ≠ "ping" → reply.id = e.id
  /-- That is none if and only if the frame has none, or null in its place. -/
  anonymous : ∀ e, ofBytes frame = .ok e → e.kind ≠ "ping" →
    (reply.id = none ↔ IsAnonymous (Json.Document.read frame).root)
  /-- It says that the type is unknown if and only if it is none that a client sends. -/
  unknown : ∀ e, ofBytes frame = .ok e →
    ((∃ message, reply = (Envelope.error .unknownType message).withId e.id) ↔
      e.kind ∉ ["subscribe", "unsubscribe", "ping"])

/-- **The reply that a session decides on answers the frame.** By whether the frame is a message at
all; if it is, everything said of the reply goes back to `Session.decide`. -/
theorem Session.decideFrame_answers (services : Services) (s : Session) (frame : List UInt8) :
    ((s.decideFrame services frame).1.reply (s.decideFrame services frame).2).Answers frame := by
  cases hdecode : Envelope.ofBytes frame with
  | error err =>
    -- The error is the same whatever is subscribed to, and nothing is said of a message.
    have hreply : (s.decideFrame services frame).1.reply (s.decideFrame services frame).2 =
        .error .badPayload (Rejection.badMessage err).message := by
      rw [decideFrame, hdecode]
      rfl
    have hnone : ∀ e, Envelope.ofBytes frame ≠ .ok e := fun e he => by
      rw [hdecode] at he
      cases he
    refine ⟨Verdict.type?_reply _ _, ?_, fun _ _ => ?_, fun e he => absurd he (hnone e),
      fun e he => absurd he (hnone e), fun e he => absurd he (hnone e)⟩
    · rw [hreply]
      refine iff_of_false (fun h => ?_) fun ⟨e, he, _⟩ => hnone e he
      cases congrArg Envelope.payload h
    · rw [hreply]
      exact ⟨rfl, _, rfl⟩
  | ok e =>
    -- The session decides on the message, and its type settles what is said of the reply.
    have hreply : s.decideFrame services frame = (s.decide services e, e.id) := by
      rw [decideFrame, hdecode]
    have hid : e.kind ≠ "ping" → ((s.decide services e).reply e.id).id = e.id := fun hne =>
      Verdict.id_reply _ _ fun hpong => hne (decide_eq_pong_iff.mp hpong)
    rw [hreply]
    refine ⟨Verdict.type?_reply _ _, ?_, ?_, ?_, ?_, ?_⟩
    · rw [Verdict.reply_eq_pong_iff, decide_eq_pong_iff, hdecode]
      exact ⟨fun hping => ⟨e, rfl, hping⟩, fun ⟨e', he', hping⟩ => Except.ok.inj he' ▸ hping⟩
    · intro err herr
      rw [hdecode] at herr
      cases herr
    all_goals
      intro e' he'
      rw [hdecode] at he'
      cases he'
    · exact hid
    · intro hne
      rw [hid hne]
      exact Envelope.id_eq_none_iff_of_ofBytes hdecode
    · exact (Verdict.reply_eq_error_iff _ _ _).trans decide_unknown_iff

/-! ### The call -/

/-- `send` queues a message where a client listens, there is room, and nothing is cancelled. -/
theorem Outbox.send_eq_queued {o : Outbox} (listening : o.isOpen = true) (room : o.hasRoom = true)
    (e : Envelope) : o.send false e = (o.push e, .queued) := by
  rw [send, if_neg Bool.false_ne_true, listening, if_neg (by decide), if_pos room]

namespace World

variable {w : World} {conn : ConnId} {c : Client}

/-- A session that is idle decides on its reply, and sends nothing yet: the reply stands in
`pending` until it is sent. Its own token stays what it was, so that what it decided can be sent. -/
theorem handle_pending (found : w.client? conn = some c) (idle : c.isIdle = true)
    (decide : Session → Verdict × Option String) : ∃ c',
      (w.handle conn decide).client? conn = some c' ∧ c'.outbox = c.outbox ∧
      (∃ start, c'.pending =
        some { message := (decide c.session).1.reply (decide c.session).2, start := start }) ∧
      (w.handle conn decide).isCancelled (sessionToken conn) =
        w.isCancelled (sessionToken conn) := by
  unfold handle
  rw [found]
  simp only [if_pos idle]
  rcases decide c.session with ⟨verdict, id⟩
  cases verdict with
  | pong
  | reject r
  | start stream interval =>
    exact ⟨_, client?_modify _ (fun _ => rfl) found, rfl, ⟨_, rfl⟩, rfl⟩
  | stop stream name =>
    -- The token of a subscription is cancelled, which is not that of the session.
    dsimp only [carryOut]
    split
    · next sub hfind =>
      refine ⟨_, client?_modify _ (fun _ => rfl) (client?_stop sub found), rfl, ⟨_, rfl⟩, ?_⟩
      rw [isCancelled_modify, isCancelled_stop, session_isWithin_subscription, Bool.false_or]
    · exact ⟨_, client?_modify _ (fun _ => rfl) found, rfl, ⟨_, rfl⟩, rfl⟩

/-- The pending reply is queued if nothing stands against it, and the call is over: `pending` is
empty again. What the reply grants is started in the same step, which leaves the queue alone. -/
theorem reply_queued {r : PendingReply} (found : w.client? conn = some c)
    (pending : c.pending = some r) (listening : c.outbox.isOpen = true)
    (room : c.outbox.hasRoom = true) (alive : w.isCancelled (sessionToken conn) = false)
    (now : Nat) : ∃ c', (w.reply conn now).client? conn = some c' ∧
      c'.outbox = c.outbox.push r.message ∧ c'.pending = none := by
  unfold reply
  rw [found]
  simp only [pending, alive, Outbox.send_eq_queued listening room]
  have hmodify := client?_modify (fun c' =>
    { c' with outbox := c.outbox.push r.message, pending := none }) (fun _ => rfl) found
  -- A stream that is started then leaves the queue alone.
  split
  · exact ⟨_, hmodify, rfl, rfl⟩
  · exact ⟨_, client?_start hmodify, rfl, rfl⟩

/-- **A session answers every frame, and answers it once,** if its queue is open and has room and it
is not cancelled: when the call is over, its reply is all that was queued. `handle_pending` is the
first half of the call and `reply_queued` the second one; what the reply says is
`decideFrame_answers`. -/
theorem frame_answered (found : w.client? conn = some c) (idle : c.isIdle = true)
    (listening : c.outbox.isOpen = true) (room : c.outbox.hasRoom = true)
    (alive : w.isCancelled (sessionToken conn) = false) (frame : List UInt8) (now : Nat) :
    ∃ decided answered reply,
      (w.step (.frame conn frame)).client? conn = some decided ∧ decided.outbox = c.outbox ∧
      ((w.step (.frame conn frame)).step (.reply conn now)).client? conn = some answered ∧
      answered.outbox = c.outbox.push reply ∧ answered.pending = none ∧ reply.Answers frame := by
  obtain ⟨decided, hdecided, houtbox, ⟨start, hpending⟩, halive⟩ :=
    handle_pending found idle (·.decideFrame w.services frame)
  -- Nothing was queued yet, so there is still room.
  rw [← houtbox] at listening room
  obtain ⟨answered, hanswered, hqueue, hdone⟩ :=
    reply_queued hdecided hpending listening room (halive.trans alive) now
  rw [houtbox] at hqueue
  exact ⟨decided, answered, _, hdecided, houtbox, hanswered, hqueue, hdone,
    Session.decideFrame_answers w.services c.session frame⟩

/-- A client that has just connected asks for a sign of life and is given one, without the
identifier that it sent along. -/
theorem frame_answered_ping : ∃ answered,
    (((({} : World).connect 0 8).step (.frame 0 (Utf8.encode "[\"ping\",\"7\"]".toList))).step
      (.reply 0 0)).client? 0 = some answered ∧
    answered.outbox.queue = [.bare .pong] := by
  have hkind : (Envelope.ofBytes (Utf8.encode "[\"ping\",\"7\"]".toList)).toOption.map (·.kind) =
      some "ping" := by decide +kernel
  obtain ⟨_, answered, reply, -, -, hanswered, hqueue, -, hanswers⟩ :=
    frame_answered (w := ({} : World).connect 0 8) (client?_connect 8 rfl) rfl rfl rfl rfl
      (Utf8.encode "[\"ping\",\"7\"]".toList) 0
  cases hdecode : Envelope.ofBytes (Utf8.encode "[\"ping\",\"7\"]".toList) with
  | error err =>
    rw [hdecode] at hkind
    cases hkind
  | ok e =>
    rw [hdecode] at hkind
    rw [hanswers.pong.mpr ⟨e, hdecode, Option.some.inj hkind⟩] at hqueue
    exact ⟨answered, hanswered, congrArg Outbox.queue hqueue⟩

end World

end Lookout
