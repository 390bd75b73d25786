import Mathlib.Data.Finset.Card
import Lookout.Proofs.Agent.Session

/-!
# What is subscribed to, as a set

The subscriptions of a session are a list, and a request is a text that has to be resolved. For who
asks what is subscribed to neither matters: the list is a set of streams (`Session.keys`), because
no stream is in it twice, and a request means a stream if it names it and, where the stream needs
one, its container (`Request.Means`). Numbers and order are gone, so two sessions can be compared
that came to the same streams in different ways.

* `Session.keys` — the streams that are subscribed to;
* `Session.keys_insert`, `Session.keys_erase` — how a session changes them;
* `Session.card_keys` — how many there are of a kind;
* `Request.Means` — the stream that a request means, and `Stream.ofRequest_eq_ok_iff` — it is the
  one that is resolved;
* `Session.grant_of_mem`, `Session.grant_of_notMem` — what a session says to a request, by what it
  means.
-/

namespace Lookout

namespace Session

variable {s : Session} {stream : Stream}

/-- **The streams that a session is subscribed to.** As a set of streams and not of texts: two keys
are the same text if and only if they are the same stream. -/
def keys (s : Session) : Finset Stream := (s.subscriptions.map (·.stream)).toFinset

/-- A stream is in `keys` if the session says that it `has` it. -/
theorem mem_keys : stream ∈ s.keys ↔ s.has stream = true := by
  rw [keys, List.mem_toFinset, List.mem_map, ← Bool.not_eq_false, has_eq_false_iff]
  constructor
  · rintro ⟨sub, hsub, rfl⟩ hnone
    exact hnone sub hsub rfl
  · intro hsome
    by_contra hnone
    exact hsome fun sub hsub heq => hnone ⟨sub, hsub, heq⟩

/-- A stream is not in `keys` if the session says that it has it not; the form in which a request
finds it. -/
theorem notMem_keys : stream ∉ s.keys ↔ s.has stream = false := by
  rw [mem_keys, Bool.not_eq_true]

theorem keys_insert : (s.insert stream).keys = Insert.insert stream s.keys := by
  ext other
  simp only [keys, Session.insert, List.map_append, List.map_cons, List.map_nil,
    List.toFinset_append, List.toFinset_cons, List.toFinset_nil, Finset.mem_union,
    Finset.mem_insert, Finset.notMem_empty, or_false]
  exact or_comm

theorem keys_erase : (s.erase stream).keys = s.keys.erase stream := by
  ext other
  simp only [keys, List.mem_toFinset, List.mem_map, mem_erase, Finset.mem_erase]
  constructor
  · rintro ⟨sub, ⟨hsub, hne⟩, rfl⟩
    exact ⟨hne, sub, hsub, rfl⟩
  · rintro ⟨hne, sub, hsub, rfl⟩
    exact ⟨sub, ⟨hsub, hne⟩, rfl⟩

/-- A new stream is subscribed to once. Only its absence is asked (`absent`), not how it was
found. -/
theorem nodup_insert (once : (s.subscriptions.map (·.stream)).Nodup)
    (absent : s.has stream = false) : ((s.insert stream).subscriptions.map (·.stream)).Nodup := by
  rw [Session.insert, List.map_append, List.map_cons, List.map_nil]
  refine List.nodup_append.mpr ⟨once, List.nodup_singleton _, fun other hother _ hmem heq => ?_⟩
  obtain rfl := List.mem_singleton.mp hmem
  obtain ⟨sub, hsub, rfl⟩ := List.mem_map.mp hother
  exact has_eq_false_iff.mp absent sub hsub heq

/-- Giving up a stream leaves the others once each, since `erase` is a filter. -/
theorem nodup_erase (once : (s.subscriptions.map (·.stream)).Nodup) :
    ((s.erase stream).subscriptions.map (·.stream)).Nodup :=
  (List.filter_sublist.map _).nodup once

/-- **How many streams of a kind are subscribed to** is how many of them are in the set, since none
is subscribed to twice. The session counts subscriptions and the set streams; without `once` the
second could be fewer. -/
theorem card_keys (once : (s.subscriptions.map (·.stream)).Nodup) (name : StreamName) :
    (s.keys.filter fun stream => stream.name = name).card = s.countOf name := by
  -- The streams of the kind, taken before or after the order is forgotten.
  have hfilter : s.keys.filter (fun stream => stream.name = name) =
      ((s.subscriptions.map (·.stream)).filter fun stream => stream.name = name).toFinset := by
    ext stream
    rw [keys, Finset.mem_filter, List.mem_toFinset, List.mem_toFinset, List.mem_filter,
      decide_eq_true_eq]
  rw [hfilter, List.toFinset_card_of_nodup (once.filter _), ← List.countP_eq_length_filter,
    List.countP_map, countOf]
  rfl

end Session

/-! ### What a request means -/

/-- The streams of this kind are those of one container. -/
def StreamName.OfContainer : StreamName → Prop
  | metrics | events => False
  | logs | containerStats => True

/-- Kinds of streams are told apart by their texts, so a request names one kind at most. -/
theorem StreamName.text_injective {a b : StreamName} (h : a.text = b.text) : a = b := by
  revert h
  cases a <;> cases b <;> decide

namespace Request

/-- **A request means a stream:** it names it and, if it is one of a container, the container. What
it says of a container beside a stream without one is of no matter, nor is the interval. -/
structure Means (r : Request) (stream : Stream) : Prop where
  named : r.stream = stream.name.text
  container : ∀ id, stream.containerId = some id → r.containerId = some id.text

end Request

namespace Stream

variable {r : Request} {name : StreamName} {stream : Stream}

/-- The acknowledgement `stream.ack` means the stream, so it can be sent back as a request to
unsubscribe. -/
theorem means_ack (stream : Stream) : stream.ack.Means stream where
  named := rfl
  container := by
    intro id hid
    rw [ack, hid]
    rfl

/-- The stream of a kind that a request means, if it names the kind. This is `ofRequest` without its
comparison of texts. -/
def ofKind (r : Request) : StreamName → Except Unresolved Stream
  | .metrics => .ok metrics
  | .events => .ok events
  | .logs => (requestedContainer r).map logs
  | .containerStats => (requestedContainer r).map containerStats

/-- A request is resolved by the kind that it names: of `ofRequest` only `ofKind` for that kind is
left. -/
theorem ofRequest_of_name (h : r.stream = name.text) : ofRequest r = ofKind r name := by
  unfold ofRequest
  rw [h]
  cases name <;> rfl

theorem ofRequest_of_unknown (h : ∀ name : StreamName, r.stream ≠ name.text) :
    ofRequest r = .error .unknownStream := by
  rw [ofRequest, if_neg (h .metrics), if_neg (h .events), if_neg (h .logs),
    if_neg (h .containerStats)]

/-- A stream of one container is not resolved if its container is not, for the same reason as
`requestedContainer` gives. -/
theorem ofRequest_of_requestedContainer {reason : Unresolved} (h : r.stream = name.text)
    (container : name.OfContainer) (refused : requestedContainer r = .error reason) :
    ofRequest r = .error reason := by
  rw [ofRequest_of_name h]
  cases name with
  | metrics
  | events => exact container.elim
  | logs
  | containerStats =>
    rw [ofKind, refused]
    rfl

/-- A container is requested by the text of its `ContainerId`, and by no other text: what is
accepted is kept as it is. -/
theorem requestedContainer_eq_ok_iff {id : ContainerId} :
    requestedContainer r = .ok id ↔ r.containerId = some id.text := by
  unfold requestedContainer
  constructor
  · intro h
    split at h
    · cases h
    · next text hsome =>
      split at h
      · cases h
      · split at h
        · next hid =>
          cases h
          rw [hsome, ContainerId.text_of_ofString hid]
        · cases h
  · intro h
    -- No reference is empty.
    have hne : id.text ≠ "" := fun heq => by
      have hvalid := id.valid
      rw [heq] at hvalid
      exact absurd hvalid (by decide)
    rw [h]
    simp only [if_neg hne, ContainerId.ofString_text]

/-- **What a request means** is what `ofRequest` resolves it to. If it names a kind, `ofKind` is
asked for each of them; if it names none, both sides are false. -/
theorem ofRequest_eq_ok_iff : ofRequest r = .ok stream ↔ r.Means stream := by
  by_cases hname : ∃ name : StreamName, r.stream = name.text
  · obtain ⟨name, hname⟩ := hname
    -- The kind that it names is that of the stream it means.
    have hmeans : r.Means stream ↔ name = stream.name ∧
        ∀ id, stream.containerId = some id → r.containerId = some id.text := by
      refine ⟨fun h => ⟨StreamName.text_injective (hname.symm.trans h.named), h.container⟩, ?_⟩
      rintro ⟨rfl, hcontainer⟩
      exact ⟨hname, hcontainer⟩
    rw [ofRequest_of_name hname, hmeans]
    -- It means a stream of the kind that it names.
    cases name with
    | metrics
    | events => cases stream <;> simp [ofKind, Stream.name, Stream.containerId]
    | logs
    | containerStats =>
      -- The container is the one that is requested, or there is none.
      cases hrequested : requestedContainer r <;> cases stream <;>
        simp [ofKind, hrequested, Except.map, Stream.name, Stream.containerId,
          ← requestedContainer_eq_ok_iff]
  · rw [not_exists] at hname
    rw [ofRequest_of_unknown hname]
    exact iff_of_false nofun fun h => hname _ h.named

end Stream

namespace Session

variable {services : Services} {s : Session} {stream : Stream} {r : Request}

/-- What is subscribed to is not granted again. This is asked first, before what the stream needs of
the `services`. -/
theorem grant_of_mem (means : r.Means stream) (h : stream ∈ s.keys) :
    s.grant services r = .error (.alreadySubscribed stream) := by
  rw [grant, Stream.ofRequest_eq_ok_iff.mpr means]
  exact if_pos (mem_keys.mp h)

/-- What is not subscribed to is granted if what it needs is there, which is all that `availability`
is about. -/
theorem grant_of_notMem (means : r.Means stream) (h : stream ∉ s.keys) :
    s.grant services r = (s.availability services stream).map fun _ => stream := by
  rw [grant, Stream.ofRequest_eq_ok_iff.mpr means]
  simp only [notMem_keys.mp h, Bool.false_eq_true, if_false]
  cases s.availability services stream <;> rfl

end Session

end Lookout
