import Lookout.Container.Event
import Lookout.Container.Log
import Lookout.Proofs.Protocol.Wire
import Lookout.Protocol.Stream

/-!
# Payloads on the wire

A payload is written as a JSON value, sent inside a message, read there as a value and decoded. Each
type of payload has a writer and a reader of its own; that the two agree is said once for each of
them, by the members it is written as (`Json.Fields.Spells`), and that it then survives the way over
the wire once for all of them (`Envelope.delivers_of`). An `error` message of the agent names its
code from a table of its own, and is decoded all the same because both tables name it alike.

* `Json.Lossless` — a writer of payloads and a reader that agree;
* `Envelope.Delivers` — what a message tells its reader;
* `Envelope.payloads_delivered` — all payloads of records, and the errors of the agent.
-/

namespace Lookout

open Json

namespace Json.Decoder

variable {α : Type}

/-- A name that is known is decoded by `choice` as what it stands for. -/
theorem choice_ofString {choices : List (String × α)} {name : String} {a : α}
    (h : choices.lookup name = some a) (p : Place) :
    choice choices p (.string (.ofString name)) = .ok a := by
  rw [choice, Spelling.text_ofString]
  show named choices name = .ok a
  rw [named, h]

theorem int64_ofInt64 (p : Place) (n : Int64) : int64 p (.ofValue (.ofInt64 n)) = .ok n := by
  rw [Value.ofInt64, Node.ofValue, int64, integer]
  simp only [number?, Integer.toInt64?_ofInt64]

end Json.Decoder

/-! ### Writers and readers -/

/-- A writer of payloads and a reader that agree: every payload is decoded from its value, members
in order, and a text can carry that value. -/
structure Json.Lossless {α : Type} (write : α → Value) (decode : Decoder α) : Prop where
  decodes : ∀ a, decode.decodeValue (write a).ordered = .ok a
  sendable : ∀ a, (write a).ordered.Sendable

/-- A record that is written as members is decoded from them, if they `Spells` its fields:
`decodeValue_ordered` for a writer and a reader. -/
theorem Json.Lossless.of_spells {α τ : Type} {name : String} {fs : Fields τ} {f : τ → α}
    {write : α → Value} (names : fs.names.Nodup) (h : ∀ a, ∃ members t,
      write a = .object members ∧ fs.Spells members t ∧ f t = a) :
    Lossless write ((Fields.record name fs).map f) where
  -- What was written is one member for each field, and none else.
  decodes a := by
    obtain ⟨members, t, hwrite, hspells, rfl⟩ := h a
    have hdecode := hspells.decodeValue_ordered names name
    rw [hwrite]
    show ((Fields.record name fs).decodeValue _).map f = _
    rw [hdecode]
    rfl
  sendable a := by
    obtain ⟨members, t, hwrite, hspells, -⟩ := h a
    rw [hwrite]
    refine ⟨?_, hspells.isWhole_ordered, ?_, Value.ordered_ordered _⟩
    · rw [hspells.ordered_eq]
      nofun
    · exact Nat.le_trans hspells.depth_ordered_le (by decide)

/-! ### The payloads -/

theorem ErrorCode.lookup_spelling (c : ErrorCode) : choices.lookup c.spelling = some c := by
  rw [spelling_eq_name]
  exact c.lookup_name

theorem LifecycleAction.lookup_name (a : LifecycleAction) : choices.lookup a.name = some a := by
  cases a <;> decide

theorem OutputStream.lookup_name (s : OutputStream) : choices.lookup s.name = some s := by
  cases s <;> decide

/-- The report of an error loses nothing: its code and its words are members of their own. -/
theorem ErrorPayload.lossless : Lossless toJson decoder := by
  refine .of_spells (by decide) fun p => ⟨_, (p.error, p.code, ()), rfl, ?_, rfl⟩
  exact
    { distinct := by simp
      known := by simp [fields, Fields.names]
      flat := by simp [Value.isWhole, Value.depth]
      takes := fun place => ⟨Decoder.text_ofString place _,
        Decoder.choice_ofString p.code.lookup_spelling place, trivial⟩ }

theorem UnsubscribeAck.lossless : Lossless toJson decoder := by
  refine .of_spells (by decide) fun a => ⟨_, (a.stream, a.status, ()), rfl, ?_, rfl⟩
  exact
    { distinct := by simp
      known := by simp [fields, Fields.names]
      flat := by simp [Value.isWhole, Value.depth]
      takes := fun p => ⟨Decoder.text_ofString p _, Decoder.text_ofString p _, trivial⟩ }

theorem ContainerEvent.lossless : Lossless toJson decoder := by
  refine .of_spells (by decide) fun e => ⟨_, (e.action, e.containerId, e.containerName, e.image,
    e.stack, e.status, e.time, ()), rfl, ?_, rfl⟩
  exact
    { distinct := by simp
      known := by simp [fields, Fields.names]
      flat := by simp [Value.isWhole, Value.depth, Value.ofInt64]
      takes := fun p => ⟨Decoder.choice_ofString e.action.lookup_name p,
        Decoder.text_ofString p _, Decoder.text_ofString p _, Decoder.text_ofString p _,
        Decoder.text_ofString p _, Decoder.text_ofString p _, Decoder.int64_ofInt64 p _,
        trivial⟩ }

theorem LogLine.lossless : Lossless toJson decoder := by
  refine .of_spells (by decide) fun l =>
    ⟨_, (l.containerId, l.timestamp, l.stream, l.message, ()), rfl, ?_, rfl⟩
  exact
    { distinct := by simp
      known := by simp [fields, Fields.names]
      flat := by simp [Value.isWhole, Value.depth]
      takes := fun p => ⟨Decoder.text_ofString p _, Decoder.text_ofString p _,
        Decoder.choice_ofString l.stream.lookup_name p, Decoder.text_ofString p _, trivial⟩ }

namespace Request

/-- The members of a request. -/
def members (r : Request) : Members :=
  ("stream", .string r.stream) ::
    ((r.containerId.map fun id => ("container_id", Value.string id)).toList ++
      (r.intervalSeconds.map fun n => ("interval_seconds", Value.ofInt64 n)).toList)

/-- The container is written if there is one, under `container_id`. -/
theorem lookup_containerId (r : Request) :
    r.members.lookup "container_id" = r.containerId.map .string := by
  obtain ⟨stream, container, interval⟩ := r
  rcases container with - | id <;> rcases interval with - | n <;> rfl

/-- The interval is written if there is one, under `interval_seconds`. -/
theorem lookup_intervalSeconds (r : Request) :
    r.members.lookup "interval_seconds" = r.intervalSeconds.map .ofInt64 := by
  obtain ⟨stream, container, interval⟩ := r
  rcases container with - | id <;> rcases interval with - | n <;> rfl

/-- What is left out of a request is read as nothing, whichever trees its members are read as. -/
theorem takes_of {tree : Value → Node} (r : Request) (p : Place)
    (text : ∀ s, tree (.string s) = .string (.ofString s))
    (int64 : ∀ n, tree (.ofInt64 n) ≠ .null ∧ Decoder.int64 p (tree (.ofInt64 n)) = .ok n) :
    fields.Takes p (fun k => (r.members.lookup k).map tree)
      (r.stream, r.containerId, r.intervalSeconds, ()) := by
  -- One case for each field, in the order in which they are declared.
  refine ⟨?stream, ?container, ?interval, trivial⟩
  case stream =>
    show Decoder.text p (tree (.string r.stream)) = .ok r.stream
    rw [text]
    exact Decoder.text_ofString p r.stream
  case container =>
    show Field.Takes _ _ ((r.members.lookup "container_id").map _) _
    rw [lookup_containerId, Option.map_map]
    refine Field.takes_option_self (fun id => ?_) r.containerId
    rw [Function.comp_apply, text]
    exact ⟨nofun, Decoder.text_ofString p id⟩
  case interval =>
    show Field.Takes _ _ ((r.members.lookup "interval_seconds").map _) _
    rw [lookup_intervalSeconds, Option.map_map]
    exact Field.takes_option_self int64 r.intervalSeconds

theorem takes_members (r : Request) (p : Place) :
    fields.Takes p (fun k => (r.members.lookup k).map Node.ofValue)
      (r.stream, r.containerId, r.intervalSeconds, ()) :=
  r.takes_of p (fun _ => rfl) fun n => ⟨nofun, Decoder.int64_ofInt64 p n⟩

/-- **The members of a request spell it,** in all four cases of what it may leave out, by what
`lookup_containerId` and `lookup_intervalSeconds` find. -/
theorem spells (r : Request) :
    fields.Spells r.members (r.stream, r.containerId, r.intervalSeconds, ()) := by
  refine ⟨?distinct, ?known, ?flat, r.takes_members⟩
  all_goals
    obtain ⟨stream, container, interval⟩ := r
    rcases container with - | id <;> rcases interval with - | n <;>
      simp [members, fields, Fields.names, Value.isWhole, Value.depth, Value.ofInt64]

theorem lossless : Lossless toJson decoder :=
  .of_spells (by decide) fun r => ⟨r.members, _, rfl, r.spells, rfl⟩

end Request

/-! ### Messages -/

namespace Envelope

/-- **What a message tells its reader:** its text is read as a message of this type and with this
identifier, and the payload in it is decoded as this one. -/
def Delivers {α : Type} (e : Envelope) (type : MessageType) (id : Option String)
    (decode : Decoder α) (a : α) : Prop :=
  ∃ read, ofBytes (Utf8.encode e.wire.toList) = .ok read ∧ read.type? = some type ∧ read.id = id ∧
    read.payloadAs decode = .ok a

/-- A payload is delivered if its writer and its reader agree, in an envelope of any type and with
any identifier. -/
theorem delivers_of {α : Type} {write : α → Value} {decode : Decoder α}
    (lossless : Lossless write decode) (type : MessageType) (id : Option String) (a : α) :
    ((of type (write a)).withId id).Delivers type id decode a := by
  have hsendable : ∀ v, ((of type (write a)).withId id).payload = some v → v.Sendable := by
    rintro v ⟨⟩
    exact lossless.sendable a
  exact ⟨_, ofBytes_wire_of_sendable hsendable, type?_of type (write a), rfl, lossless.decodes a⟩

/-- An error that the agent names is one that is written as an `ErrorPayload`. -/
theorem error_eq_of (code : ErrorCode) (message : String) :
    error code message = of .error (ErrorPayload.toJson ⟨message, code⟩) := by
  rw [error, ErrorPayload.toJson, ErrorCode.spelling_eq_name]

/-- **All payloads of records are delivered,** in a message of any type and with any identifier, and
so are the errors that the agent names. Each payload is `Lossless`, and this is all that `Delivers`
asks for (`delivers_of`). -/
theorem payloads_delivered (id : Option String) :
    (∀ (type : MessageType) (r : Request),
      ((of type r.toJson).withId id).Delivers type id Request.decoder r) ∧
    (∀ (type : MessageType) (a : UnsubscribeAck),
      ((of type a.toJson).withId id).Delivers type id UnsubscribeAck.decoder a) ∧
    (∀ (type : MessageType) (p : ErrorPayload),
      ((of type p.toJson).withId id).Delivers type id ErrorPayload.decoder p) ∧
    (∀ (type : MessageType) (e : ContainerEvent),
      ((of type e.toJson).withId id).Delivers type id ContainerEvent.decoder e) ∧
    (∀ (type : MessageType) (l : LogLine),
      ((of type l.toJson).withId id).Delivers type id LogLine.decoder l) ∧
    ∀ (code : ErrorCode) (message : String),
      ((error code message).withId id).Delivers .error id ErrorPayload.decoder ⟨message, code⟩ := by
  -- Each payload is lossless, and this is all that its delivery needs.
  refine ⟨?request, ?ack, ?error, ?event, ?line, ?named⟩
  case request => exact fun type r => delivers_of Request.lossless type id r
  case ack => exact fun type a => delivers_of UnsubscribeAck.lossless type id a
  case error => exact fun type p => delivers_of ErrorPayload.lossless type id p
  case event => exact fun type e => delivers_of ContainerEvent.lossless type id e
  case line => exact fun type l => delivers_of LogLine.lossless type id l
  case named =>
    intro code message
    rw [error_eq_of]
    exact delivers_of ErrorPayload.lossless .error id ⟨message, code⟩

end Envelope

/-! ### Frames of requests -/

/-- The frame in which a client sends a request. -/
def Request.frame (r : Request) (type : MessageType) : List UInt8 :=
  Utf8.encode (Envelope.of type r.toJson).wire.toList

/-- A session reads in it the very message that was sent. Unlike `Envelope.Delivers` this says what
the whole message is, since the frame carries no identifier. -/
theorem Request.ofBytes_frame {r : Request} {type : MessageType} :
    Envelope.ofBytes (r.frame type) = .ok (.of type r.toJson) := by
  refine Envelope.ofBytes_wire_of_sendable ?_
  rintro v ⟨⟩
  exact lossless.sendable r

end Lookout
