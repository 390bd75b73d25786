import Lookout.Proofs.Json.Members
import Lookout.Proofs.Json.Tree
import Lookout.Proofs.Protocol.Envelope

/-!
# Envelopes on the wire

A message that is sent is read as the same message, if its payload is one that a text can carry
(`Json.Value.Sendable`). What a message was read from need not be its text: members may stand in any
order, with others between them, and an array may stand for the object. But the message itself is
then one of those that are sent and read again (`Envelope.sendable_of_ofBytes`), as long as its
numbers are integers.

* `Json.Value.Sendable` — payloads that a text can carry;
* `Envelope.ofBytes_wire` — the text of a message, read;
* `Envelope.wire_roundTrip` — both ways.
-/

namespace Lookout

open Json

@[simp] theorem Json.Decoder.text_ofString (p : Place) (s : String) :
    Decoder.text p (.string (.ofString s)) = .ok s := by
  rw [Decoder.text, Spelling.text_ofString]
  rfl

/-- Only null is written as null, so an optional member that is there is read as one. -/
theorem Json.Node.written_ne_null {v : Value} (h : v ≠ .null) : Node.written v ≠ .null := by
  intro heq
  rcases v with - | b | (i | x) | s | items | members
  · exact h rfl
  all_goals
    rw [Node.written] at heq
    cases heq

/-- A payload that a text can carry: it is not null, which would stand for no payload, its numbers
are integers, it does not nest too deeply for a reader who has opened the message already, and it
has its members in order, as every value has that was read or made a payload. -/
structure Json.Value.Sendable (v : Value) : Prop where
  ne_null : v ≠ .null
  whole : v.isWhole
  depth_le : v.depth ≤ 126
  ordered : v.ordered = v

namespace Envelope

/-! ### The text of a message -/

/-- The members of a message. -/
def members (e : Envelope) : Members :=
  ("type", .string e.kind) ::
    ((e.id.map fun id => ("id", Value.string id)).toList ++
      (e.payload.map fun v => ("payload", v)).toList)

variable (e : Envelope)

theorem toJson_eq : e.toJson = .object e.members := rfl

theorem distinct_members : (e.members.map (·.1)).Nodup := by
  obtain ⟨kind, id, payload⟩ := e
  rcases id with - | id <;> rcases payload with - | v <;> simp [members]

/-- All members of an envelope have names of `fields`, so none is skipped. -/
theorem known_members : ∀ m ∈ e.members, m.1 ∈ fields.names := by
  obtain ⟨kind, id, payload⟩ := e
  rcases id with - | id <;> rcases payload with - | v <;> simp [members, fields, Fields.names]

/-- The kind is always written, under `type`. -/
theorem lookup_type : e.members.lookup "type" = some (.string e.kind) := rfl

/-- The identifier is written if there is one, under `id`. -/
theorem lookup_id : e.members.lookup "id" = e.id.map .string := by
  obtain ⟨kind, id, payload⟩ := e
  rcases id with - | id <;> rcases payload with - | v <;> rfl

/-- The payload is written if there is one, under `payload`. -/
theorem lookup_payload : e.members.lookup "payload" = e.payload := by
  obtain ⟨kind, id, payload⟩ := e
  rcases id with - | id <;> rcases payload with - | v <;> rfl

variable {e}

/-- What is left out of a message is read as nothing, and what is there as itself, the payload in
order. -/
theorem takes_members (h : ∀ v, e.payload = some v → v ≠ .null ∧ v.isWhole ∧ v.depth ≤ 126) :
    fields.Takes ⟨.text, 126⟩ (fun k => (e.members.lookup k).map Node.written)
      (e.kind, e.id, e.payload.map Value.ordered, ()) := by
  -- One case for each field, in the order in which they are declared.
  refine ⟨?type, ?id, ?payload, trivial⟩
  case type =>
    show Field.Takes _ _ ((e.members.lookup "type").map _) _
    rw [lookup_type]
    exact Decoder.text_ofString ⟨.text, 126⟩ e.kind
  case id =>
    show Field.Takes _ _ ((e.members.lookup "id").map _) _
    rw [lookup_id, Option.map_map]
    refine Field.takes_option_self (fun id => ?_) e.id
    exact ⟨nofun, Decoder.text_ofString _ id⟩
  case payload =>
    show Field.Takes _ _ ((e.members.lookup "payload").map _) _
    rw [lookup_payload]
    refine Field.takes_option fun v hv => ?_
    obtain ⟨hne, hwhole, hdepth⟩ := h v hv
    refine ⟨Node.written_ne_null hne, ?_⟩
    rw [Decoder.value, Node.value_written hwhole hdepth]
    rfl

/-- **The tree of a message's text** is decoded as the message, with its payload in order. -/
theorem decoder_written (h : ∀ v, e.payload = some v → v ≠ .null ∧ v.isWhole ∧ v.depth ≤ 126) :
    decoder ⟨.text, maxDepth⟩ (.written e.toJson) =
      .ok { e with payload := e.payload.map Value.ordered } := by
  have hrecord : Fields.record "Envelope" fields ⟨.text, maxDepth⟩
      (.object (Fields.trees .written e.members) none) = .ok _ :=
    Fields.record_object rfl (by decide) e.distinct_members e.known_members (takes_members h)
  rw [decoder, Decoder.map, toJson_eq, Node.written, Node.writtenMembers_eq]
  show (Fields.record "Envelope" fields ⟨.text, maxDepth⟩
      (.object (Fields.trees .written e.members) none)).map _ = _
  rw [hrecord]
  rfl

theorem read_wire (h : ∀ v, e.payload = some v → v.isWhole) :
    Document.read (Utf8.encode e.wire.toList) = ⟨.written e.toJson, false⟩ := by
  have hwhole : e.toJson.isWhole := by
    rw [toJson_eq, Value.isWhole_object, members]
    simp only [List.mem_cons, List.mem_append, Option.mem_toList, Option.map_eq_some_iff]
    rintro m (rfl | ⟨id, -, rfl⟩ | ⟨v, hv, rfl⟩)
    · rfl
    · rfl
    · exact h v hv
  rw [wire, Value.text, String.toList_ofList]
  exact Document.read_chars hwhole

/-- **The text of a message is read as the message,** with its payload in order: `read_wire` says
which tree is read, and `decoder_written` what that is decoded as. -/
theorem ofBytes_wire (h : ∀ v, e.payload = some v → v ≠ .null ∧ v.isWhole ∧ v.depth ≤ 126) :
    ofBytes (Utf8.encode e.wire.toList) =
      .ok { e with payload := e.payload.map Value.ordered } := by
  rw [ofBytes, read_wire fun v hv => (h v hv).2.1, Decoder.decodeDocument, decoder_written h]
  rfl

/-- An envelope that can be sent is read as itself, as its payload is in order already. -/
theorem ofBytes_wire_of_sendable (h : ∀ v, e.payload = some v → v.Sendable) :
    ofBytes (Utf8.encode e.wire.toList) = .ok e := by
  obtain ⟨kind, id, payload⟩ := e
  rw [ofBytes_wire fun v hv => ⟨(h v hv).ne_null, (h v hv).whole, (h v hv).depth_le⟩]
  rcases payload with - | v
  · rfl
  · rw [Option.map_some, (h v rfl).ordered]

/-! ### A message that was read -/

/-- **The payload of a message that was read** is `Sendable`, if its numbers are integers: it is not
null, in order, and not too deep to stand in a message. -/
theorem sendable_of_ofBytes {frame : List UInt8} (h : ofBytes frame = .ok e) {v : Value}
    (hv : e.payload = some v) (whole : v.isWhole) : v.Sendable := by
  obtain ⟨⟨kind, id, payload, ⟨⟩⟩, hrecord, rfl⟩ := map_eq_ok (decoder_of_ofBytes h)
  obtain ⟨inner, henter, -, -, hpayload, -⟩ := Fields.yield_of_record hrecord
  cases henter
  have hpayload' : payload = some v := hv
  subst hpayload'
  obtain ⟨- | n, htakes⟩ := hpayload
  · cases htakes
  · have hne : n ≠ .null := by
      rintro rfl
      cases htakes
    -- What is not null was read as a value, inside the message.
    obtain ⟨v', hvalue, heq⟩ := map_eq_ok ((Decoder.option_of_ne_null hne).symm.trans htakes)
    cases heq
    have hread := fromText_eq_ok hvalue
    refine ⟨?_, whole, Node.depth_le_of_value hread, Node.ordered_of_value hread⟩
    rintro rfl
    exact hne (Node.eq_null_of_value hread)

/-- **What is sent is read, and what was read can be sent.** The first half is
`ofBytes_wire_of_sendable`; the second one adds that a payload that was read is sendable. -/
theorem wire_roundTrip :
    (∀ e : Envelope, (∀ v, e.payload = some v → v.Sendable) →
      ofBytes (Utf8.encode e.wire.toList) = .ok e) ∧
    ∀ (frame : List UInt8) (e : Envelope), ofBytes frame = .ok e →
      (∀ v, e.payload = some v → v.isWhole) → ofBytes (Utf8.encode e.wire.toList) = .ok e := by
  constructor
  · exact fun e h => ofBytes_wire_of_sendable h
  · intro frame e h whole
    exact ofBytes_wire_of_sendable fun v hv => sendable_of_ofBytes h hv (whole v hv)

/-- A message with quotes, a line end, a control character and characters of several bytes. -/
def awkward : Envelope :=
  { kind := "sub\nscribe"
    id := some "\"\\é\""
    payload := some (.object
      [("\u0001", .array [.number (.int ⟨-9223372036854775808, by decide, by decide⟩), .null]),
        ("b", .string "😀")]) }

/-- The text `["ping",null,{"b":-2,"a":"\u00e9"}]`, in which an array stands for the object. -/
def positionalText : List Char :=
  ['[', '"', 'p', 'i', 'n', 'g', '"', ',', 'n', 'u', 'l', 'l', ',', '\x7b', '"', 'b', '"', ':', '-',
    '2', ',', '"', 'a', '"', ':', '"', '\\', 'u', '0', '0', 'e', '9', '"', '\x7d', ']']

/-- The message of that text. -/
def positional : Envelope :=
  { kind := "ping"
    payload := some (.object
      [("a", .string "é"), ("b", .number (.int ⟨-2, by decide, by decide⟩))]) }

/-- The message `awkward` is sent and read; `positional`, which was read from an array, is sent and
read again. -/
theorem wire_roundTrip_awkward :
    ofBytes (Utf8.encode awkward.wire.toList) = .ok awkward ∧
      ofBytes (Utf8.encode positional.wire.toList) = .ok positional := by
  refine ⟨wire_roundTrip.1 awkward ?_,
    wire_roundTrip.2 (Utf8.encode positionalText) positional rfl ?_⟩
  · rintro v ⟨⟩
    exact ⟨nofun, rfl, by decide, rfl⟩
  · rintro v ⟨⟩
    rfl

end Envelope

end Lookout
