import Lookout.Agent.Session
import Lookout.Proofs.Protocol.Envelope

/-!
# What a session keeps and decides

A session keeps its subscriptions, and decides on a message by them. The lemmas of this module say
who is subscribed after a change, that only streams are granted that are not subscribed to and that
there is room for, and that the type of a message alone tells a sign of life and an unknown request
from all others.

* `Session.mem_insert`, `Session.mem_erase`, `Session.mem_retire` — who is subscribed afterwards;
* `Session.Admits` — when a stream can be started;
* `Session.of_decideFrame_start`, `Session.of_decideFrame_stop` — what is granted was asked for, and
  is not subscribed to or is;
* `Session.bears_of_decideFrame` — what the session holds bears a rejection out;
* `Session.decide_cases` — what a message leads to, by its type.

All that later modules need of `Session.decideFrame` is in these lemmas, so that its branches are
followed here and nowhere else. They come in chains, one link for each function that the decision
calls: `of_grant`, `of_decide_start` and `of_decideFrame_start` for what is granted, `of_resolve`
and so on for what is given up, `bears_of_availability` and so on for what is rejected.
-/

namespace Lookout

/-- What a kind of streams is called where there are too many of it. The other two kinds have one
stream each, of which there cannot be too many. -/
def StreamName.label? : StreamName → Option String
  | logs => some "log"
  | containerStats => some "container stats"
  | metrics | events => none

/-- **A message asks for or against a stream:** it is of that type and its request names the
stream. -/
def Envelope.Asks (e : Envelope) (type : MessageType) (stream : Stream) : Prop :=
  e.type? = some type ∧
    ∃ r, e.payloadAs Request.decoder = .ok r ∧ Stream.ofRequest r = .ok stream

/-- A message asks for one thing only: its type and its payload are read in one way, so `Asks` is a
function of the message. -/
theorem Envelope.Asks.unique {e : Envelope} {type type' : MessageType} {stream stream' : Stream}
    (h : e.Asks type stream) (h' : e.Asks type' stream') : type = type' ∧ stream = stream' := by
  obtain ⟨htype, r, hpayload, hrequest⟩ := h
  obtain ⟨htype', r', hpayload', hrequest'⟩ := h'
  obtain rfl := Except.ok.inj (hpayload.symm.trans hpayload')
  exact ⟨Option.some.inj (htype.symm.trans htype'),
    Except.ok.inj (hrequest.symm.trans hrequest')⟩

/-- A frame asks for or against a stream, as the message in it does. -/
def FrameAsks (frame : List UInt8) (type : MessageType) (stream : Stream) : Prop :=
  ∃ e, Envelope.ofBytes frame = .ok e ∧ e.Asks type stream

/-- A frame asks for one thing only, as it holds one message (`Envelope.Asks.unique`). -/
theorem FrameAsks.unique {frame : List UInt8} {type type' : MessageType} {stream stream' : Stream}
    (h : FrameAsks frame type stream) (h' : FrameAsks frame type' stream') :
    type = type' ∧ stream = stream' := by
  obtain ⟨e, hread, hasks⟩ := h
  obtain ⟨e', hread', hasks'⟩ := h'
  obtain rfl := Except.ok.inj (hread.symm.trans hread')
  exact hasks.unique hasks'

namespace Session

variable {services : Services} {s : Session} {stream : Stream} {sub ended : Subscription}
  {e : Envelope}

/-! ### Subscriptions -/

/-- A stream that is started is subscribed to under `nextGeneration`, and all other subscriptions
are kept. -/
@[simp] theorem mem_insert : sub ∈ (s.insert stream).subscriptions ↔
    sub ∈ s.subscriptions ∨ sub = ⟨stream, s.nextGeneration⟩ := by
  rw [insert, List.mem_append, List.mem_singleton]

/-- A stream that is given up is not subscribed to any more, under whatever number. -/
@[simp] theorem mem_erase : sub ∈ (s.erase stream).subscriptions ↔
    sub ∈ s.subscriptions ∧ sub.stream ≠ stream := by
  rw [erase, List.mem_filter, decide_eq_true_eq]

/-- A stream that is retired goes by its number: a newer subscription to it stays. -/
@[simp] theorem mem_retire : sub ∈ (s.retire ended).subscriptions ↔
    sub ∈ s.subscriptions ∧ sub ≠ ended := by
  rw [retire, List.mem_filter, decide_eq_true_eq]

/-- A number is given out with each start, and never twice: `insert` counts on. -/
@[simp] theorem nextGeneration_insert :
    (s.insert stream).nextGeneration = s.nextGeneration + 1 := rfl

/-- To give a stream up takes its number not back: `erase` does not count down. -/
@[simp] theorem nextGeneration_erase : (s.erase stream).nextGeneration = s.nextGeneration := rfl

@[simp] theorem nextGeneration_retire : (s.retire ended).nextGeneration = s.nextGeneration := rfl

/-- A session `has` not a stream if no subscription is to it. -/
theorem has_eq_false_iff : s.has stream = false ↔ ∀ sub ∈ s.subscriptions, sub.stream ≠ stream := by
  simp [has, find?]

theorem mem_of_find? (h : s.find? stream = some sub) : sub ∈ s.subscriptions :=
  List.mem_of_find?_eq_some h

/-- What `find?` finds is a subscription to the stream that was looked for. -/
theorem stream_of_find? (h : s.find? stream = some sub) : sub.stream = stream := by
  simpa using List.find?_some h

/-- To `retire` what is not subscribed to changes nothing, as with a subscription that was given up
in the meantime. -/
theorem retire_eq_self (h : ended ∉ s.subscriptions) : s.retire ended = s := by
  have hfilter : s.subscriptions.filter (fun sub => sub ≠ ended) = s.subscriptions := by
    rw [List.filter_eq_self]
    intro sub hsub
    rw [decide_eq_true_eq]
    rintro rfl
    exact h hsub
  rw [retire, hfilter]

/-! ### Looking a stream up -/

/-- What is looked up after a start: the new subscription, or what was there before. `absent` is
needed, as an older subscription to the stream would be found first. -/
theorem find?_insert (absent : s.has stream = false) (other : Stream) :
    (s.insert stream).find? other =
      if stream = other then some ⟨stream, s.nextGeneration⟩ else s.find? other := by
  rw [find?, insert, List.find?_append]
  by_cases heq : stream = other
  · -- the new one comes last, and there is no other before it
    subst heq
    have hnone : s.subscriptions.find? (fun sub => sub.stream = stream) = none := by
      simpa using has_eq_false_iff.mp absent
    simp [hnone]
  · simp [heq, find?]

/-- A stream that was given up is not found, however often it was subscribed to. -/
@[simp] theorem find?_erase_self : (s.erase stream).find? stream = none := by
  simp [find?, erase]

/-- Who is left of some subscriptions does not matter as long as nobody to the stream is gone. Used
for the two ways in which subscriptions go. -/
theorem find?_filter {subs : List Subscription} {p : Subscription → Bool}
    (keeps : ∀ sub ∈ subs, sub.stream = stream → p sub = true) :
    (subs.filter p).find? (fun sub => sub.stream = stream) =
      subs.find? fun sub => sub.stream = stream := by
  induction subs with
  | nil => rfl
  | cons sub rest ih =>
    have hrest := ih fun other hother => keeps other (List.mem_cons_of_mem _ hother)
    by_cases heq : sub.stream = stream
    · have hkept := keeps sub List.mem_cons_self heq
      simp [heq, hkept]
    · by_cases hp : p sub = true
      · simp [hp, heq, hrest]
      · simp [hp, heq, hrest]

theorem find?_erase {other : Stream} (ne : stream ≠ other) :
    (s.erase other).find? stream = s.find? stream := by
  refine find?_filter fun sub _ heq => ?_
  rw [decide_eq_true_eq, heq]
  exact ne

/-- To `retire` a subscription leaves those to other streams to be found. -/
theorem find?_retire (ne : ended.stream ≠ stream) :
    (s.retire ended).find? stream = s.find? stream := by
  refine find?_filter fun sub _ heq => ?_
  rw [decide_eq_true_eq]
  rintro rfl
  exact ne heq

/-! ### New subscriptions -/

/-- **When a stream can be started:** it is not subscribed to, and what it needs is there. The two
are kept apart as they lead to different rejections, and in this order. -/
structure Admits (services : Services) (s : Session) (stream : Stream) : Prop where
  absent : s.has stream = false
  available : s.availability services stream = .ok ()

/-- What is granted is the stream that the request names, and it can be started. The cases are those
of `Session.grant`, of which all but the last are rejections. -/
theorem of_grant {r : Request} (h : s.grant services r = .ok stream) :
    Stream.ofRequest r = .ok stream ∧ s.Admits services stream := by
  unfold grant at h
  split at h
  · cases h
  · next hrequest =>
    split at h
    · cases h
    · next hhas =>
      -- Whether it is subscribed to is asked before the limits are.
      split at h
      · cases h
      · next havailable =>
        cases h
        exact ⟨hrequest, Bool.eq_false_iff.mpr hhas, havailable⟩

/-- What is given up is the stream that the request names, and it is subscribed to; `resolve` asks
for nothing else. -/
theorem of_resolve {r : Request} (h : s.resolve r = some stream) :
    Stream.ofRequest r = .ok stream ∧ s.has stream = true := by
  unfold resolve at h
  split at h
  · cases h
  · next hrequest =>
    split at h
    · next hhas =>
      cases h
      exact ⟨hrequest, hhas⟩
    · cases h

/-- **A stream is only started on request,** and if the session `Admits` it. No other type of
message comes to a start. -/
theorem of_decide_start {interval : Option Int64}
    (h : s.decide services e = .start stream interval) :
    e.Asks .subscribe stream ∧ s.Admits services stream := by
  -- Down the branches of `decide`: of all its verdicts there is one that starts a stream.
  unfold decide at h
  split at h
  · next htype =>
    unfold decideSubscribe at h
    split at h
    · cases h
    · next r hpayload =>
      split at h
      · cases h
      · next hgrant =>
        cases h
        obtain ⟨hrequest, hadmits⟩ := of_grant hgrant
        exact ⟨⟨htype, r, hpayload, hrequest⟩, hadmits⟩
  · -- no other message starts a stream
    unfold decideUnsubscribe at h
    split at h
    · cases h
    · split at h <;> cases h
  · cases h
  · cases h

/-- **A subscription is only given up on request,** and if the session `has` it. A request against a
stream that is not subscribed to is rejected. -/
theorem of_decide_stop {name : String} (h : s.decide services e = .stop stream name) :
    e.Asks .unsubscribe stream ∧ s.has stream = true := by
  -- Down the branches again, and again there is only one.
  unfold decide at h
  split at h
  · unfold decideSubscribe at h
    split at h
    · cases h
    · split at h <;> cases h
  · next htype =>
    unfold decideUnsubscribe at h
    split at h
    · cases h
    · next r hpayload =>
      split at h
      · cases h
      · next hresolve =>
        cases h
        obtain ⟨hrequest, hhas⟩ := of_resolve hresolve
        exact ⟨⟨htype, r, hpayload, hrequest⟩, hhas⟩
  · cases h
  · cases h

/-- `of_decide_start` for the message in a frame: a frame that is no message starts nothing. -/
theorem of_decideFrame_start {frame : List UInt8} {interval : Option Int64}
    (h : (s.decideFrame services frame).1 = .start stream interval) :
    FrameAsks frame .subscribe stream ∧ s.Admits services stream := by
  unfold decideFrame at h
  split at h
  · next e hread =>
    obtain ⟨hasks, hadmits⟩ := of_decide_start h
    exact ⟨⟨e, hread, hasks⟩, hadmits⟩
  · cases h

/-- `of_decide_stop` for the message in a frame: a frame that is no message ends nothing. -/
theorem of_decideFrame_stop {frame : List UInt8} {name : String}
    (h : (s.decideFrame services frame).1 = .stop stream name) :
    FrameAsks frame .unsubscribe stream ∧ s.has stream = true := by
  unfold decideFrame at h
  split at h
  · next e hread =>
    obtain ⟨hasks, hhas⟩ := of_decide_stop h
    exact ⟨⟨e, hread, hasks⟩, hhas⟩
  · cases h

/-! ### Rejections -/

/-- What a session holds bears a rejection out: the stream is there, or as many of the kind that the
client is told of as there may be. Of other rejections nothing is said, as they are not about what
the session holds. -/
def Bears (s : Session) : Rejection → Prop
  | .alreadySubscribed stream => s.has stream = true
  | .limitExceeded cap label => ∃ name : StreamName, name.label? = some label ∧ cap ≤ s.countOf name
  | _ => True

/-- Too many streams of a kind is said where there are: `availability` compares `countOf` with the
limit. -/
theorem bears_of_availability {r : Rejection} (h : s.availability services stream = .error r) :
    s.Bears r := by
  unfold availability at h
  -- A rejection that speaks of a maximum is given by the streams that are counted, when it is
  -- reached.
  cases stream with
  | metrics => cases h
  | events =>
    dsimp only at h
    split at h <;> cases h
    trivial
  | logs id
  | containerStats id =>
    dsimp only at h
    split at h
    · cases h
      trivial
    · split at h
      · cases h
      · next hfull =>
        cases h
        exact ⟨_, rfl, Nat.le_of_not_lt hfull⟩

/-- That a stream is subscribed to already is said where it is; the rest is
`bears_of_availability`. -/
theorem bears_of_grant {request : Request} {r : Rejection}
    (h : s.grant services request = .error r) : s.Bears r := by
  unfold grant at h
  split at h
  · cases h
    trivial
  · split at h
    · next hhas =>
      cases h
      exact hhas
    · split at h
      · next havailability =>
        cases h
        exact bears_of_availability havailability
      · cases h

/-- **No frame is rejected for what the session does not hold.** Only a request to subscribe comes
to the two rejections of which `Bears` says anything. -/
theorem bears_of_decideFrame {frame : List UInt8} {r : Rejection}
    (h : (s.decideFrame services frame).1 = .reject r) : s.Bears r := by
  unfold decideFrame at h
  split at h
  · unfold decide at h
    split at h
    · unfold decideSubscribe at h
      split at h
      · cases h
        trivial
      · split at h
        · next hgrant =>
          cases h
          exact bears_of_grant hgrant
        · cases h
    · -- to give a stream up is refused only where there is none
      unfold decideUnsubscribe at h
      split at h
      · cases h
        trivial
      · split at h
        · cases h
          trivial
        · cases h
    · cases h
    · cases h
      trivial
  · cases h
    trivial

/-! ### Types of messages -/

/-- What is missing for a stream has codes of its own, none of which is `unknownType`. -/
theorem code_ne_of_availability {r : Rejection} (h : s.availability services stream = .error r) :
    r.code ≠ .unknownType := by
  unfold availability at h
  cases stream with
  | metrics => cases h
  | events =>
    dsimp only at h
    split at h <;> cases h
    nofun
  | logs id
  | containerStats id =>
    -- No daemon, or too many streams.
    dsimp only at h
    split at h
    · cases h
      nofun
    · split at h <;> cases h
      nofun

/-- Everything for which a stream is not granted has another code than `unknownType`. -/
theorem code_ne_of_grant {request : Request} {r : Rejection}
    (h : s.grant services request = .error r) : r.code ≠ .unknownType := by
  unfold grant at h
  split at h
  · next reason _ =>
    -- An unknown stream has a code of its own.
    cases h
    cases reason <;> nofun
  · split at h
    · cases h
      nofun
    · split at h
      · next havailable =>
        cases h
        exact code_ne_of_availability havailable
      · cases h

/-- A request to subscribe is of a known type, be it granted or not: whatever is wrong with it, its
type is not. -/
theorem decideSubscribe_known (services : Services) (s : Session) (e : Envelope) :
    s.decideSubscribe services e ≠ .pong ∧
      ∀ r, s.decideSubscribe services e = .reject r → r.code ≠ .unknownType := by
  unfold decideSubscribe
  split
  · refine ⟨nofun, fun r h => ?_⟩
    cases h
    nofun
  · split
    · next hgrant =>
      refine ⟨nofun, fun r h => ?_⟩
      cases h
      exact code_ne_of_grant hgrant
    · exact ⟨nofun, fun r h => by cases h⟩

/-- A request to unsubscribe is of a known type, be it followed or not, as one to subscribe is. -/
theorem decideUnsubscribe_known (s : Session) (e : Envelope) :
    s.decideUnsubscribe e ≠ .pong ∧
      ∀ r, s.decideUnsubscribe e = .reject r → r.code ≠ .unknownType := by
  unfold decideUnsubscribe
  split
  · refine ⟨nofun, fun r h => ?_⟩
    cases h
    nofun
  · split
    · refine ⟨nofun, fun r h => ?_⟩
      cases h
      nofun
    · exact ⟨nofun, fun r h => by cases h⟩

/-- **What a message leads to, by its type:** a sign of life, a decision about a stream, or the
error `unknownType`. A type that only a server sends is as unknown as one that nobody does. -/
theorem decide_cases (services : Services) (s : Session) (e : Envelope) :
    (e.kind = "ping" ∧ s.decide services e = .pong) ∨
    ((e.kind = "subscribe" ∨ e.kind = "unsubscribe") ∧ s.decide services e ≠ .pong ∧
      ∀ r, s.decide services e = .reject r → r.code ≠ .unknownType) ∨
    ((e.kind ≠ "ping" ∧ e.kind ≠ "subscribe" ∧ e.kind ≠ "unsubscribe") ∧
      s.decide services e = .reject (.unknownType e.kind)) := by
  have hkind : ∀ t : MessageType, e.type? = some t ↔ e.kind = t.name := fun _ =>
    MessageType.ofName?_eq_some_iff
  unfold decide
  split
  · next htype => exact Or.inr (Or.inl ⟨Or.inl ((hkind _).mp htype), decideSubscribe_known _ s e⟩)
  · next htype => exact Or.inr (Or.inl ⟨Or.inr ((hkind _).mp htype), decideUnsubscribe_known s e⟩)
  · next htype => exact Or.inl ⟨(hkind _).mp htype, rfl⟩
  · next hsubscribe hunsubscribe hping =>
    -- The types that only servers send are found too, and end up here with those that are not.
    rw [hkind] at hsubscribe hunsubscribe hping
    exact Or.inr (Or.inr ⟨⟨hping, hsubscribe, hunsubscribe⟩, rfl⟩)

/-- A sign of life is the answer to a message of the kind `ping`, and to no other message. -/
theorem decide_eq_pong_iff : s.decide services e = .pong ↔ e.kind = "ping" := by
  rcases decide_cases services s e with
    ⟨hkind, hpong⟩ | ⟨hkind, hpong, -⟩ | ⟨⟨hkind, -, -⟩, hreject⟩
  · exact iff_of_true hpong hkind
  · refine iff_of_false hpong ?_
    rcases hkind with hkind | hkind <;> rw [hkind] <;> decide
  · rw [hreject]
    exact iff_of_false nofun hkind

/-- The error that a type is unknown is the answer to all types but the three that a client
sends. -/
theorem decide_unknown_iff :
    (∃ r, s.decide services e = .reject r ∧ r.code = .unknownType) ↔
      e.kind ∉ ["subscribe", "unsubscribe", "ping"] := by
  rcases decide_cases services s e with
    ⟨hkind, hpong⟩ | ⟨hkind, -, hcode⟩ | ⟨⟨hping, hsubscribe, hunsubscribe⟩, hreject⟩
  · rw [hkind, hpong]
    exact iff_of_false (fun ⟨r, hr, _⟩ => by cases hr) (by decide)
  · refine iff_of_false (fun ⟨r, hr, heq⟩ => hcode r hr heq) ?_
    rcases hkind with hkind | hkind <;> rw [hkind] <;> decide
  · refine iff_of_true ⟨_, hreject, rfl⟩ ?_
    simpa using ⟨hsubscribe, hunsubscribe, hping⟩

end Session

end Lookout
