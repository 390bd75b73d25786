import Lookout.Proofs.Agent.Keys
import Lookout.Proofs.Container.Name
import Lookout.Proofs.Protocol.Payload

/-!
# What identifies a stream

A stream is identified twice: by its key, and by the acknowledgement that the agent sends for it. No
name of a stream and no container reference has a colon in it, so a key can be taken apart at its
colons (`Stream.splitOn_key`), and its parts tell the stream. The acknowledgement is a request that
means the stream, and it is read again as the same request, be it as a value or as a text
(`Request.decodeDocument_text`). A request means no stream but the one it names, so what else it
holds does not matter.

* `Stream.keyParts` — the parts of a key, and `Stream.key_injective`;
* `Request.decodeDocument_text` — a request that is written is read;
* `Stream.identified` — all of it.
-/

namespace Lookout

open Json

/-! ### Keys -/

namespace Stream

/-- A stream is what its `name` and its `containerId` are. -/
theorem ext_of_name {a b : Stream} (name : a.name = b.name)
    (container : a.containerId = b.containerId) : a = b := by
  cases a <;> cases b <;> simp_all [Stream.name, Stream.containerId]

/-- The parts of a key: the name, and the container if there is one. -/
def keyParts (s : Stream) : List (List Char) :=
  match s.containerId with
  | none => [s.name.text.toList]
  | some id => [s.name.text.toList, id.text.toList]

/-- A key is its `keyParts` with colons between them. -/
theorem key_eq_intercalate (s : Stream) : s.key.toList = [':'].intercalate s.keyParts := by
  unfold key keyParts
  cases s.containerId with
  | none => simp
  | some id => simp [List.intercalate_cons_cons]

/-- No part of a key has a colon: names of streams have none, and no reference has
(`separator_notMem`). -/
theorem colon_notMem_keyParts (s : Stream) : ∀ part ∈ s.keyParts, ':' ∉ part := by
  have hname : ':' ∉ s.name.text.toList := by cases s.name <;> decide
  unfold keyParts
  cases s.containerId with
  | none => exact List.forall_mem_singleton.mpr hname
  | some id =>
    have hid : ':' ∉ id.text.toList := id.separator_notMem List.mem_cons_self
    exact List.forall_mem_cons.mpr ⟨hname, List.forall_mem_singleton.mpr hid⟩

/-- **The parts tell the stream:** `keyParts` are its name, and for the streams of a container the
container behind it. -/
theorem keyParts_injective : Function.Injective keyParts := by
  intro a b h
  unfold keyParts at h
  cases ha : a.containerId with
  -- One part, and no container.
  | none =>
    cases hb : b.containerId with
    | none =>
      rw [ha, hb] at h
      have hname := String.toList_inj.mp (List.cons.inj h).1
      exact ext_of_name (StreamName.text_injective hname) (ha.trans hb.symm)
    | some id' => simp [ha, hb] at h
  | some id =>
    cases hb : b.containerId with
    | none => simp [ha, hb] at h
    | some id' =>
      rw [ha, hb] at h
      obtain ⟨hname, hrest⟩ := List.cons.inj h
      have hid := ContainerId.text_injective (String.toList_inj.mp (List.cons.inj hrest).1)
      refine ext_of_name (StreamName.text_injective (String.toList_inj.mp hname)) ?_
      rw [ha, hb, hid]

/-- **The parts of a key** are those between its colons, so `keyParts` can be read off it. -/
theorem splitOn_key (s : Stream) : s.key.toList.splitOn ':' = s.keyParts := by
  have hne : s.keyParts ≠ [] := by
    unfold keyParts
    split <;> exact List.cons_ne_nil _ _
  rw [key_eq_intercalate]
  exact List.splitOn_intercalate ':' s.colon_notMem_keyParts hne

/-- **No two streams have the same key,** as a key tells its parts and these tell the stream. -/
theorem key_injective : Function.Injective key := by
  intro a b h
  refine keyParts_injective ?_
  rw [← splitOn_key, h, splitOn_key]

end Stream

/-! ### Requests as texts -/

namespace Request

/-- **A request that is written is read:** its text is a document, from which `Request.decoder`
takes it as it was. -/
theorem decodeDocument_text (r : Request) :
    decoder.decodeDocument (.read (Utf8.encode r.toJson.text.toList)) = .ok r := by
  have hwhole : r.toJson.isWhole := Value.isWhole_object.mpr fun m hm => (r.spells.flat m hm).1
  -- The interval is written as an integer, and one of 64 bits.
  have hint : ∀ n, Node.written (.ofInt64 n) ≠ .null ∧
      Decoder.int64 ⟨.text, 126⟩ (.written (.ofInt64 n)) = .ok n := by
    intro n
    refine ⟨nofun, ?_⟩
    rw [Value.ofInt64, Node.written, Decoder.int64, Decoder.integer]
    simp only [Decoder.number?, Numeral.number_ofInt, Integer.toInt64?_ofInt64]
  have hrecord : Fields.record "SubscribePayload" fields ⟨.text, maxDepth⟩
      (.object (Fields.trees .written r.members) none) =
        .ok (r.stream, r.containerId, r.intervalSeconds, ()) :=
    Fields.record_object rfl (by decide) r.spells.distinct r.spells.known
      (r.takes_of _ (fun _ => rfl) hint)
  have htree : Node.written r.toJson = .object (Fields.trees .written r.members) none := by
    show Node.written (.object r.members) = _
    rw [Node.written, Node.writtenMembers_eq]
    rfl
  rw [Value.text, String.toList_ofList, Document.read_chars hwhole, Decoder.decodeDocument, htree,
    decoder, Decoder.map, hrecord]
  rfl

end Request

/-! ### Streams -/

namespace Stream

/-- **A stream is identified** by its `key` (`key_injective`) and by its acknowledgement `ack`,
which means the stream, also after it was written and read as a value or as a text. A request means
the stream that it names and, where that is one of a container (`OfContainer`), names the container
of; so the interval never matters, and the container does not for streams that have none. -/
theorem identified :
    (∀ s : Stream, ofRequest s.ack = .ok s ∧
      (∃ r, Request.decoder.decodeValue s.ack.toJson.ordered = .ok r ∧ ofRequest r = .ok s) ∧
      ∃ r, Request.decoder.decodeDocument (.read (Utf8.encode s.ack.toJson.text.toList)) = .ok r ∧
        ofRequest r = .ok s) ∧
    (∀ s s' : Stream, s.key = s'.key → s = s') ∧
    (∀ (r : Request) (s : Stream), ofRequest r = .ok s → s.name.text = r.stream ∧
      (s.name.OfContainer → s.containerId.map (·.text) = r.containerId) ∧
      (¬s.name.OfContainer → s.containerId = none)) ∧
    (∀ (r : Request) (interval : Option Int64),
      ofRequest { r with intervalSeconds := interval } = ofRequest r) ∧
    ∀ (r : Request) (container : Option String),
      r.stream = StreamName.metrics.text ∨ r.stream = StreamName.events.text →
      ofRequest { r with containerId := container } = ofRequest r := by
  refine ⟨?ack, fun _ _ h => key_injective h, ?request, fun _ _ => rfl, ?container⟩
  case ack =>
    intro s
    have hack := ofRequest_eq_ok_iff.mpr s.means_ack
    exact ⟨hack, ⟨s.ack, Request.lossless.decodes s.ack, hack⟩, s.ack,
      s.ack.decodeDocument_text, hack⟩
  case request =>
    intro r s h
    have means := ofRequest_eq_ok_iff.mp h
    refine ⟨means.named.symm, fun ofContainer => ?_, fun alone => ?_⟩
    · cases s with
      | metrics | events => exact ofContainer.elim
      | logs id | containerStats id => exact (means.container id rfl).symm
    · cases s with
      | metrics | events => rfl
      | logs id | containerStats id => exact absurd trivial alone
  case container =>
    intro r container h
    -- Either is resolved by its name alone.
    have hname : ∃ name : StreamName, r.stream = name.text ∧ ¬name.OfContainer :=
      h.elim (fun h => ⟨.metrics, h, id⟩) fun h => ⟨.events, h, id⟩
    obtain ⟨name, hname, alone⟩ := hname
    have hother : ofRequest { r with containerId := container } = ofKind _ name :=
      ofRequest_of_name hname
    rw [hother, ofRequest_of_name hname]
    cases name with
    | metrics | events => rfl
    | logs | containerStats => exact absurd trivial alone

/-- A request for events that also names a container, and no reference at that. -/
def crowded : Request :=
  { stream := "events", containerId := some "bad id", intervalSeconds := some (-5) }

/-- A request for the output of a container. -/
def output : Request := { stream := "logs", containerId := some "web-1" }

/-- Of the crowded request only the name counts, for a stream of the host, and of the other one the
container too. -/
theorem identified_crowded :
    (ofRequest crowded = .ok events ∧ events.name.text = "events" ∧ events.containerId = none) ∧
      ofRequest { crowded with containerId := none } = ofRequest crowded ∧
      (ofRequest output = .ok (logs ⟨"web-1", by decide⟩) ∧
        (logs ⟨"web-1", by decide⟩).containerId.map (·.text) = some "web-1") ∧
      logs ⟨"web" ++ "-1", by decide⟩ = logs ⟨"web-1", by decide⟩ := by
  obtain ⟨-, keys, requests, -, alone⟩ := identified
  have hevents := requests crowded events rfl
  have houtput := requests output (logs ⟨"web-1", by decide⟩) rfl
  exact ⟨⟨rfl, hevents.1, hevents.2.2 id⟩, alone crowded none (Or.inr rfl),
    ⟨rfl, houtput.2.1 trivial⟩, keys _ _ (by decide)⟩

end Stream

end Lookout
