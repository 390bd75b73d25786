import Lookout.Json.Reader
import Lookout.Json.Record
import Lookout.Protocol.Message

/-!
# Envelopes

Every message is an envelope: a type, an identifier that the client chose and that only replies
carry, and a payload. The type stays a text, so that an unknown one can be named in the reply. An
envelope is sent as one line of JSON with its members in this order, the absent ones left out.

* `Envelope` — the message;
* `Envelope.wire` — its text;
* `Envelope.ofBytes` — reading one;
* `Envelope.payloadAs` — decoding its payload.
-/

namespace Lookout

open Json (Value Decoder DecodeError Field Fields)

/-- A message. -/
structure Envelope where
  /-- The name of its type; empty when the client sent none. -/
  kind : String
  /-- The client's identifier of the request. -/
  id : Option String := none
  payload : Option Value := none

/-- What an `error` message carries. -/
structure ErrorPayload where
  error : String
  code : ErrorCode
  deriving DecidableEq

namespace ErrorPayload

/-- The payload of an error as a JSON object. -/
def toJson (p : ErrorPayload) : Value :=
  .object [("error", .string p.error), ("code", .string p.code.spelling)]

def fields : Fields (String × ErrorCode × Unit) :=
  .cons ⟨"error", Decoder.text, none⟩
    (.cons ⟨"code", Decoder.choice ErrorCode.choices, none⟩ .nil)

def decoder : Decoder ErrorPayload :=
  (Fields.record "ErrorPayload" fields).map fun (error, code, ()) => ⟨error, code⟩

end ErrorPayload

namespace Envelope

/-- A message of a type, without identifier and payload. -/
def bare (type : MessageType) : Envelope := { kind := type.name }

/-- A message of a type with a payload; a payload has its members in order. -/
def of (type : MessageType) (payload : Value) : Envelope :=
  { kind := type.name, payload := some payload.ordered }

/-- A message about an error, which is not the reply to anything until `Envelope.withId` says so. -/
def error (code : ErrorCode) (message : String) : Envelope :=
  of .error (.object [("error", .string message), ("code", .string code.name)])

/-- The message with this identifier, or with none. -/
def withId (e : Envelope) (id : Option String) : Envelope := { e with id := id }

/-- The type, if it is one that the protocol knows. -/
def type? (e : Envelope) : Option MessageType := MessageType.ofName? e.kind

@[simp] theorem type?_bare (type : MessageType) : (bare type).type? = some type := by
  simp [type?, bare]

@[simp] theorem type?_of (type : MessageType) (payload : Value) :
    (of type payload).type? = some type := by
  simp [type?, of]

/-- A message as a JSON object; what is absent is left out, not null. -/
def toJson (e : Envelope) : Value :=
  .object (("type", .string e.kind) ::
    ((e.id.map fun id => ("id", .string id)).toList ++
      (e.payload.map fun v => ("payload", v)).toList))

/-- The text that is sent. -/
def wire (e : Envelope) : String := e.toJson.text

/-- The fields of a message. All of them may be absent. -/
def fields : Fields (String × Option String × Option Value × Unit) :=
  .cons ⟨"type", Decoder.text, some ""⟩
    (.cons ⟨"id", Decoder.option Decoder.text, some none⟩
      (.cons ⟨"payload", Decoder.option Decoder.value, some none⟩ .nil))

def decoder : Decoder Envelope :=
  (Fields.record "Envelope" fields).map fun (kind, id, payload, ()) => ⟨kind, id, payload⟩

/-- Reads a message from the bytes of its text. -/
def ofBytes (bytes : List UInt8) : Except DecodeError Envelope :=
  decoder.decodeDocument (.read bytes)

/-- Decodes the payload; an absent one counts as null. -/
def payloadAs {α : Type} (e : Envelope) (decode : Decoder α) : Except DecodeError α :=
  -- A payload that was left out is decoded as null is, and not as an empty object.
  decode.decodeValue (e.payload.getD .null)

end Envelope

end Lookout
