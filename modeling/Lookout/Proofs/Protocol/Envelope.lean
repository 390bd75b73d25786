import Lookout.Proofs.Json.Record
import Lookout.Protocol.Envelope
import Mathlib.Logic.Function.Basic

/-!
# Telling envelopes apart

Types and codes travel as names, and each name stands for one of them. An error is told from another
by its code and its words, and an identifier is absent from a message that was read when it was
absent from the text or null there.

* `MessageType.ofName?_eq_some_iff`, `ErrorCode.name_injective` — names and what they stand for;
* `ErrorCode.spelling_eq_name` — the two names of a code are the same;
* `Envelope.error_injective` — what an error tells;
* `Envelope.id_eq_none_iff` — when a message carries no identifier.
-/

namespace Lookout

open Json

/-! ### Names -/

/-- A type is found by `ofName?` under its name only. -/
theorem MessageType.ofName?_eq_some_iff {name : String} {t : MessageType} :
    ofName? name = some t ↔ name = t.name := by
  constructor
  · intro h
    obtain ⟨before, after, heq, -⟩ := List.lookup_eq_some_iff.mp h
    have hmem : (name, t) ∈ choices := by
      rw [heq]
      exact List.mem_append_right _ List.mem_cons_self
    obtain ⟨t', -, heq⟩ := List.mem_map.mp hmem
    cases heq
    rfl
  · rintro rfl
    exact ofName?_name t

/-- **The two tables of codes agree:** the name of a code is the one made from its words. -/
theorem ErrorCode.spelling_eq_name (c : ErrorCode) : c.spelling = c.name := by
  cases c <;> decide

/-- The names by which a decoder knows the codes, `choices`, are those by which they are written. -/
theorem ErrorCode.choices_eq : choices = all.map fun c => (c.name, c) := by
  simp only [choices, spelling_eq_name]

/-- Each code is found by its name, and so a client that looks it up finds the one that was sent. -/
theorem ErrorCode.lookup_name (c : ErrorCode) : choices.lookup c.name = some c := by
  rw [choices_eq]
  cases c <;> decide

theorem ErrorCode.name_injective : Function.Injective name := by
  intro a b h
  have hlookup := a.lookup_name
  rw [h, b.lookup_name] at hlookup
  exact (Option.some.inj hlookup).symm

/-! ### Errors -/

theorem Envelope.payload_error (code : ErrorCode) (message : String) :
    (error code message).payload =
      some (.object [("code", .string code.name), ("error", .string message)]) := rfl

/-- **An error tells its code and its words:** both can be read off the payload. -/
theorem Envelope.error_injective {code code' : ErrorCode} {message message' : String}
    (h : (error code message).payload = (error code' message').payload) :
    code = code' ∧ message = message' := by
  rw [payload_error, payload_error] at h
  obtain ⟨hcode, hmessage⟩ : code.name = code'.name ∧ message = message' := by simpa using h
  exact ⟨ErrorCode.name_injective hcode, hmessage⟩

/-! ### Identifiers -/

namespace Envelope

/-- The tree of a message has no identifier, or null in its place. -/
def IsAnonymous : Node → Prop
  | .object members _ => ∀ k n, (k, n) ∈ members → k.text = .ok "id" → n = .null
  | .array items _ => ∀ n, items[1]? = some n → n = .null
  | _ => True

/-- A member fills the slot of the identifier only if its key says so, and with nothing only if it
is null. -/
theorem put_id {p : Place} {key : String} {n : Node} {slots slots' : fields.Slots}
    (h : fields.put p key n slots = some (.ok slots')) :
    slots'.2.1.join = none ↔ slots.2.1.join = none ∧ (key = "id" → n = .null) := by
  have hother : key ≠ "id" →
      (slots.2.1.join = none ↔ slots.2.1.join = none ∧ (key = "id" → n = .null)) :=
    fun hne => ⟨fun hid => ⟨hid, fun hkey => absurd hkey hne⟩, And.left⟩
  -- The type, the identifier, the payload: one after the other is tried.
  obtain ⟨hkey, -, a, -, rfl⟩ | ⟨-, filled, hput, rfl⟩ := Fields.put_cons_eq_ok h
  · exact hother (hkey ▸ by decide)
  · obtain ⟨hkey, hempty, a, ha, rfl⟩ | ⟨hne, filled, hput', rfl⟩ := Fields.put_cons_eq_ok hput
    · rw [hempty]
      exact (Decoder.option_eq_none_iff ha).trans
        ⟨fun hnull => ⟨rfl, fun _ => hnull⟩, fun hnull => hnull.2 hkey⟩
    · obtain ⟨hkey, -, a, -, rfl⟩ | ⟨-, filled, hnone, rfl⟩ := Fields.put_cons_eq_ok hput'
      · exact hother hne
      · cases hnone

theorem ne_id_of_put_eq_none {p : Place} {key : String} {n : Node} {slots : fields.Slots}
    (h : fields.put p key n slots = none) : key ≠ "id" :=
  (Fields.put_cons_eq_none (Fields.put_cons_eq_none h).2).1

/-- The slot of the identifier, once all members have been seen. The induction is on the members,
with `put_id` for one that has a slot. -/
theorem fill_id {p : Place} {members : List (Spelling × Node)} {slots slots' : fields.Slots}
    (h : fields.fill p members slots = .ok slots') :
    slots'.2.1.join = none ↔ slots.2.1.join = none ∧
      ∀ k n, (k, n) ∈ members → k.text = .ok "id" → n = .null := by
  -- One member after the other, whatever the slots hold by then.
  induction members generalizing slots with
  | nil =>
    cases h
    exact ⟨fun hid => ⟨hid, fun _ _ hmem => by cases hmem⟩, And.left⟩
  | cons member rest ih =>
    obtain ⟨k, n⟩ := member
    obtain ⟨key, filled, hkey, hfill, hput⟩ := Fields.fill_cons_eq_ok h
    have hfirst : filled.2.1.join = none ↔
        slots.2.1.join = none ∧ (k.text = .ok "id" → n = .null) := by
      rw [hkey]
      -- The member has a slot, which is that of the identifier or another, or it is foreign.
      rcases hput with hput | ⟨hput, -, rfl⟩
      · rw [put_id hput]
        exact and_congr_right' (imp_congr_left ⟨congrArg _, Except.ok.inj⟩)
      · have hne := ne_id_of_put_eq_none hput
        exact ⟨fun hid => ⟨hid, fun heq => absurd (Except.ok.inj heq) hne⟩, And.left⟩
    rw [ih hfill, hfirst, and_assoc]
    refine and_congr_right' ⟨fun ⟨hn, hrest⟩ k' n' hmem => ?_, fun hall => ⟨?_, ?_⟩⟩
    · rcases List.mem_cons.mp hmem with heq | hmem
      · cases heq
        exact hn
      · exact hrest k' n' hmem
    · exact hall k n List.mem_cons_self
    · exact fun k' n' hmem => hall k' n' (List.mem_cons_of_mem _ hmem)

/-- **A message that was read carries no identifier** only if its text had none or null. -/
theorem id_eq_none_iff {p : Place} {n : Node} {e : Envelope} (h : decoder p n = .ok e) :
    e.id = none ↔ IsAnonymous n := by
  obtain ⟨⟨kind, id, payload, ⟨⟩⟩, hrecord, rfl⟩ := map_eq_ok h
  show id = none ↔ _
  rcases Fields.record_eq_ok hrecord with
    ⟨members, stop, inner, slots, rfl, -, hfill, hsettle⟩ |
      ⟨items, stop, inner, tooFew, left, rfl, -, htake⟩
  · obtain ⟨-, hsettle⟩ := Fields.settle_cons_eq_ok hsettle
    obtain ⟨hid, -⟩ := Fields.settle_cons_eq_ok hsettle
    -- An empty slot counts as null.
    have hjoin : slots.2.1.join = id := by
      rcases hslot : slots.2.1 with - | a
      · rw [hslot] at hid
        exact Option.some.inj hid
      · rw [hslot] at hid
        exact Option.some.inj hid
    rw [← hjoin, fill_id hfill]
    exact and_iff_right rfl
  · -- the identifier is the second item
    rcases items with - | ⟨first, - | ⟨second, rest⟩⟩
    · obtain ⟨-, htake⟩ := Fields.takeItems_nil_eq_ok htake
      obtain ⟨hid, -⟩ := Fields.takeItems_nil_eq_ok htake
      exact iff_of_true (Option.some.inj hid).symm fun _ hn => by cases hn
    · obtain ⟨-, htake⟩ := Fields.takeItems_cons_eq_ok htake
      obtain ⟨hid, -⟩ := Fields.takeItems_nil_eq_ok htake
      exact iff_of_true (Option.some.inj hid).symm fun _ hn => by cases hn
    · obtain ⟨-, htake⟩ := Fields.takeItems_cons_eq_ok htake
      obtain ⟨hid, -⟩ := Fields.takeItems_cons_eq_ok htake
      refine (Decoder.option_eq_none_iff hid).trans ⟨fun hnull n hn => ?_, fun hnull => ?_⟩
      · exact (Option.some.inj hn).symm.trans hnull
      · exact hnull second rfl

/-- A message was decoded from the tree of its text, with all the room that there is. -/
theorem decoder_of_ofBytes {bytes : List UInt8} {e : Envelope} (h : ofBytes bytes = .ok e) :
    decoder ⟨.text, maxDepth⟩ (Document.read bytes).root = .ok e := by
  obtain ⟨e', hdecode, htrailing⟩ := bind_eq_ok h
  split at htrailing
  · cases htrailing
  · cases htrailing
    exact hdecode

/-- An envelope that was read from bytes carries no identifier only if the tree of the bytes
`IsAnonymous`. -/
theorem id_eq_none_iff_of_ofBytes {bytes : List UInt8} {e : Envelope} (h : ofBytes bytes = .ok e) :
    e.id = none ↔ IsAnonymous (Document.read bytes).root :=
  id_eq_none_iff (decoder_of_ofBytes h)

end Envelope

end Lookout
