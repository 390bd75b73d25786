import Lookout.Proofs.Agent.Admission
import Lookout.Proofs.Agent.Conversation

/-!
# Giving a stream up undoes the request for it

A client that was granted a stream and gives it up again might as well not have asked. To say so two
conversations are compared that start from the same world: one with the request, some frames and the
undoing, the other with the frames alone. After the request they are apart by one stream, and by the
registration if it is that to events (`Standing.Apart`). A frame that is about another stream is
decided alike in both, but for one thing: where streams are counted there is one more, so one of
them may refuse what the other grants. If it does not, then both take the same step, and they stay
apart by the same stream (`Standing.Apart.next`). The undoing takes it away (`Standing.Apart.undo`).

That the acknowledgement can be sent back to undo the request is a fact about its text: it is read
as a request that means the stream (`Stream.means_ack`).

* `FrameConcerns` — a frame is about a stream;
* `Standing.Apart` — two standings differ by one stream;
* `Standing.Apart.decideFrame`, `Standing.Apart.play` — frames about other streams do not tell them
  apart;
* `World.undo_history` — the two conversations come to the same.
-/

namespace Lookout

/-! ### Frames and replies -/

/-- A frame asks for or against a stream. A frame that is none of that for the stream may still be
about others, be no message, or be for no stream at all. -/
def FrameConcerns (frame : List UInt8) (stream : Stream) : Prop :=
  FrameAsks frame .subscribe stream ∨ FrameAsks frame .unsubscribe stream

/-- A message is an error with this code. -/
def Envelope.IsError (code : ErrorCode) (e : Envelope) : Prop :=
  ∃ message id, e = (Envelope.error code message).withId id

/-- An error in a reply is that of its verdict, whatever identifier and message it comes with. -/
theorem Verdict.isError_reply_iff {verdict : Verdict} {id : Option String} {code : ErrorCode} :
    (verdict.reply id).IsError code ↔ ∃ r, verdict = .reject r ∧ r.code = code := by
  rw [← Verdict.reply_eq_error_iff verdict id]
  constructor
  · rintro ⟨message, id', h⟩
    have hne : verdict ≠ .pong := by
      rintro rfl
      cases congrArg Envelope.payload h
    -- The identifier is that of the reply.
    have hid : id = id' := (Verdict.id_reply verdict id hne).symm.trans (congrArg Envelope.id h)
    subst hid
    exact ⟨message, h⟩
  · rintro ⟨message, h⟩
    exact ⟨message, id, h⟩

/-- The frame of a request asks for what the request means. The way back from
`Request.ofBytes_frame`: the request is written, and read as it was. -/
theorem Request.frameAsks {r : Request} {type : MessageType} {stream : Stream}
    (means : r.Means stream) : FrameAsks (r.frame type) type stream :=
  ⟨_, ofBytes_frame, Envelope.type?_of type _, r, lossless.decodes r,
    Stream.ofRequest_eq_ok_iff.mpr means⟩

/-- The connections that are registered, the oldest registration first. Their tokens are left out,
which carry numbers that are other ones once a request came in between. -/
def Hub.connections (h : Hub) : List ConnId := h.registrations.map (·.conn)

namespace Hub

variable {h : Hub} {conn : ConnId} {token : Token}

/-- Who registers comes last in `connections`. -/
theorem connections_subscribe : (h.subscribe conn token).connections = h.connections ++ [conn] := by
  rw [connections, subscribe, List.map_append]
  rfl

/-- Who is withdrawn goes, and the others keep their places: `connections` is filtered. -/
theorem connections_unsubscribe :
    (h.unsubscribe conn).connections = h.connections.filter (· ≠ conn) := by
  rw [connections, unsubscribe, connections, List.filter_map]
  congr 1
  refine List.filter_congr fun r _ => ?_
  rw [Function.comp_apply, bne, Bool.eq_iff_iff]
  simp

/-- Who has no registration is not among the `connections`. -/
theorem notMem_connections (none : h.of conn = []) : conn ∉ h.connections := by
  intro hmem
  obtain ⟨r, hr, rfl⟩ := List.mem_map.mp hmem
  have hof : r ∈ h.of r.conn := List.mem_filter.mpr ⟨hr, decide_eq_true rfl⟩
  rw [none] at hof
  cases hof

end Hub

/-! ### Frames are decided alike -/

namespace Session

variable {services : Services} {s s' : Session} {stream : Stream}

/-- Where fewer streams of a kind are held there is room if there is where more are. `room` excludes
that the first session is full; all other checks ask what sessions may use, and nothing that is
held. -/
theorem availability_eq (fewer : s'.countOf stream.name ≤ s.countOf stream.name)
    (room : ∀ r, s.availability services stream = .error r → r.code ≠ .limitExceeded) :
    s.availability services stream = s'.availability services stream := by
  cases stream with
  | metrics
  | events => rfl
  | logs id
  | containerStats id =>
    unfold availability at room ⊢
    dsimp only at room ⊢
    split
    · rfl
    · next hdocker =>
      rw [if_neg hdocker] at room
      split
      · next hroom => rw [if_pos (Nat.lt_of_le_of_lt fewer hroom)]
      · next hfull =>
        -- It would be full where more are held, which was excluded.
        rw [if_neg hfull] at room
        exact absurd rfl (room _ rfl)

/-- What is available is told by the streams that are held, as far as they are counted
(`card_keys`). -/
theorem availability_congr (once : (s.subscriptions.map (·.stream)).Nodup)
    (once' : (s'.subscriptions.map (·.stream)).Nodup) (keys : s.keys = s'.keys) :
    s.availability services stream = s'.availability services stream := by
  have hcount : s.countOf stream.name = s'.countOf stream.name := by
    rw [← card_keys once, ← card_keys once', keys]
  cases stream with
  | metrics
  | events => rfl
  | logs id
  | containerStats id =>
    unfold availability
    rw [hcount]

/-- A request is granted or refused alike, if the stream that it means is held in both or in
neither. The checks come in the same order in both, so the first that fails is the same. -/
theorem grant_eq {r : Request}
    (has : ∀ stream, r.Means stream → s.has stream = s'.has stream)
    (fewer : ∀ name, s'.countOf name ≤ s.countOf name)
    (room : ∀ rejection, s.grant services r = .error rejection → rejection.code ≠ .limitExceeded) :
    s.grant services r = s'.grant services r := by
  unfold grant at room ⊢
  -- Both refuse a request that means nothing. One that means a stream is asked the same two
  -- questions: whether it is held, and whether it is available.
  cases hrequest : Stream.ofRequest r with
  | error reason => rfl
  | ok stream =>
    have hhas := has stream (Stream.ofRequest_eq_ok_iff.mp hrequest)
    simp only [hrequest] at room ⊢
    rw [← hhas]
    split
    · rfl
    · next hnot =>
      rw [if_neg hnot] at room
      have havailable : s.availability services stream = s'.availability services stream := by
        refine availability_eq (fewer stream.name) fun rejection herror => ?_
        exact room rejection (by rw [herror])
      rw [havailable]

/-- What a request gives up is the same in two sessions that agree on the stream that it means. -/
theorem resolve_eq {r : Request}
    (has : ∀ stream, r.Means stream → s.has stream = s'.has stream) :
    s.resolve r = s'.resolve r := by
  unfold resolve
  cases hrequest : Stream.ofRequest r with
  | error reason => rfl
  | ok stream => simp only [has stream (Stream.ofRequest_eq_ok_iff.mp hrequest)]

/-- What a stream needs is not there, or there are too many of its kind: `availability` knows no
other refusals. -/
theorem code_of_availability {r : Rejection} (h : s.availability services stream = .error r) :
    r.code = .notAvailable ∨ r.code = .limitExceeded := by
  unfold availability at h
  -- `notAvailable` if a service is missing, `limitExceeded` if a maximum is reached.
  cases stream with
  | metrics => cases h
  | events =>
    dsimp only at h
    split at h <;> cases h
    exact Or.inl rfl
  | logs id
  | containerStats id =>
    dsimp only at h
    split at h
    · cases h
      exact Or.inl rfl
    · split at h <;> cases h
      exact Or.inr rfl

/-- What a frame asks for and is not subscribed to is granted if what it needs is there, and refused
otherwise. The decision is followed here once, for a stream that is known not to be held. -/
theorem decideFrame_of_subscribe (services : Services) {frame : List UInt8}
    (asks : FrameAsks frame .subscribe stream) (absent : stream ∉ s.keys) :
    (s.availability services stream = .ok () ∧
      ∃ interval, (s.decideFrame services frame).1 = .start stream interval) ∨
    ∃ r, s.availability services stream = .error r ∧
      (s.decideFrame services frame).1 = .reject r := by
  obtain ⟨e, hread, htype, r, hpayload, hrequest⟩ := asks
  have hgrant : s.grant services r = (s.availability services stream).map fun _ => stream :=
    grant_of_notMem (Stream.ofRequest_eq_ok_iff.mp hrequest) absent
  simp only [decideFrame, hread, decide, htype, decideSubscribe, hpayload, hgrant]
  cases s.availability services stream with
  | ok => exact Or.inl ⟨rfl, r.intervalSeconds, rfl⟩
  | error rejection => exact Or.inr ⟨rejection, rfl, rfl⟩

/-- What a frame asks to give up goes if it is subscribed to, whatever else the session holds. -/
theorem decideFrame_of_unsubscribe (services : Services) {frame : List UInt8}
    (asks : FrameAsks frame .unsubscribe stream) (held : stream ∈ s.keys) :
    ∃ name, (s.decideFrame services frame).1 = .stop stream name := by
  obtain ⟨e, hread, htype, r, hpayload, hrequest⟩ := asks
  have hresolve : s.resolve r = some stream := by
    rw [resolve, hrequest]
    exact if_pos (mem_keys.mp held)
  refine ⟨r.stream, ?_⟩
  simp only [decideFrame, hread, decide, htype, decideUnsubscribe, hpayload, hresolve]

/-- **A frame is decided alike** in two sessions, if they agree on the streams that it
`FrameConcerns`, the second one holds no more of any kind, and the first one does not refuse it for
their number. Nothing is asked of numbers and order, so the two sessions may have come about in
different ways. -/
theorem decideFrame_eq {frame : List UInt8}
    (has : ∀ stream, FrameConcerns frame stream → s.has stream = s'.has stream)
    (fewer : ∀ name, s'.countOf name ≤ s.countOf name)
    (room : ∀ r, (s.decideFrame services frame).1 = .reject r → r.code ≠ .limitExceeded) :
    s.decideFrame services frame = s'.decideFrame services frame := by
  unfold decideFrame at room ⊢
  cases hread : Envelope.ofBytes frame with
  | error err => rfl
  | ok e =>
    simp only [hread] at room ⊢
    suffices hdecide : s.decide services e = s'.decide services e by rw [hdecide]
    unfold decide at room ⊢
    -- Only what asks for or against a stream looks at what is held.
    split
    · next htype =>
      simp only [htype] at room
      unfold decideSubscribe at room ⊢
      cases hpayload : e.payloadAs Request.decoder with
      | error err => rfl
      | ok r =>
        simp only [hpayload] at room ⊢
        have hgrant : s.grant services r = s'.grant services r := by
          refine grant_eq (fun stream hmeans => ?_) fewer fun rejection herror => ?_
          · have hrequest := Stream.ofRequest_eq_ok_iff.mpr hmeans
            exact has stream (Or.inl ⟨e, hread, htype, r, hpayload, hrequest⟩)
          · exact room rejection (by rw [herror])
        rw [hgrant]
    · next htype =>
      unfold decideUnsubscribe
      cases hpayload : e.payloadAs Request.decoder with
      | error err => rfl
      | ok r =>
        have hresolve : s.resolve r = s'.resolve r := by
          refine resolve_eq fun stream hmeans => ?_
          have hrequest := Stream.ofRequest_eq_ok_iff.mpr hmeans
          exact has stream (Or.inr ⟨e, hread, htype, r, hpayload, hrequest⟩)
        simp only [hresolve]
    · rfl
    · rfl

end Session

namespace Standing

variable {services : Services} {conn : ConnId} {stream : Stream} {a b : Standing}

/-- A request for a stream that is not held is not refused as one for a stream that is. If it is
refused, then for what the stream needs. -/
theorem not_alreadySubscribed {st : Standing} {frame : List UInt8}
    (asks : FrameAsks frame .subscribe stream) (absent : stream ∉ st.session.keys) :
    ¬(st.reply services frame).IsError .alreadySubscribed := by
  rw [reply, Verdict.isError_reply_iff]
  rintro ⟨r, hreject, hcode⟩
  rcases Session.decideFrame_of_subscribe services asks absent with
    ⟨-, interval, hstart⟩ | ⟨r', havailability, hreject'⟩
  · rw [hstart] at hreject
    cases hreject
  · rw [hreject'] at hreject
    cases hreject
    -- It is refused for a service or for the number of streams.
    rcases Session.code_of_availability havailability with h | h <;> rw [h] at hcode <;> cases hcode

/-- A request for a stream that is not held is granted if what the stream needs is there. -/
theorem granted_of_available {st : Standing} {frame : List UInt8}
    (asks : FrameAsks frame .subscribe stream) (absent : stream ∉ st.session.keys)
    (available : st.session.availability services stream = .ok ()) :
    (st.reply services frame).type? = some .subscribed := by
  rw [reply, Verdict.type?_reply_eq_subscribed_iff]
  rcases Session.decideFrame_of_subscribe services asks absent with
    ⟨-, interval, hstart⟩ | ⟨r, havailability, -⟩
  · exact Or.inl ⟨stream, interval, hstart⟩
  · rw [available] at havailability
    cases havailability

/-- **Two standings differ by one stream,** which the first one holds: by the stream, and by the
registration if it is that to events. Numbers do not count. `hub` has that registration last, as
nobody registers behind it: the frames in between are all those of one connection, and they are
about other streams. -/
structure Apart (conn : ConnId) (stream : Stream) (a b : Standing) : Prop where
  keys : a.session.keys = insert stream b.session.keys
  absent : stream ∉ b.session.keys
  once : (a.session.subscriptions.map (·.stream)).Nodup
  once' : (b.session.subscriptions.map (·.stream)).Nodup
  hub : a.hub.connections = b.hub.connections ++ if stream = .events then [conn] else []
  free : stream = .events → conn ∉ b.hub.connections

namespace Apart

theorem has_eq (h : Apart conn stream a b) {other : Stream} (ne : other ≠ stream) :
    a.session.has other = b.session.has other := by
  rw [Bool.eq_iff_iff, ← Session.mem_keys, ← Session.mem_keys, h.keys, Finset.mem_insert]
  exact or_iff_right ne

/-- The first standing holds no fewer streams of any kind, and one more of its own. -/
theorem countOf_le (h : Apart conn stream a b) (name : StreamName) :
    b.session.countOf name ≤ a.session.countOf name := by
  rw [← Session.card_keys h.once, ← Session.card_keys h.once', h.keys]
  exact Finset.card_le_card (Finset.filter_subset_filter _ (Finset.subset_insert _ _))

/-- **A frame that is about another stream is decided alike** in two standings that are `Apart`,
unless there is no room for what it asks. -/
theorem decideFrame_eq (h : Apart conn stream a b) {frame : List UInt8}
    (other : ¬FrameConcerns frame stream)
    (room : ¬(a.reply services frame).IsError .limitExceeded) :
    a.session.decideFrame services frame = b.session.decideFrame services frame := by
  refine Session.decideFrame_eq (fun stream' hconcerns => ?_) h.countOf_le fun r hreject hcode => ?_
  · refine h.has_eq fun heq => ?_
    subst heq
    exact other hconcerns
  · exact room (Verdict.isError_reply_iff.mpr ⟨r, hreject, hcode⟩)

/-! ### They stay apart -/

/-- Another stream comes in both. That it is another one is what `others` asks of the frames in
between. -/
theorem start (h : Apart conn stream a b) {other : Stream} (ne : other ≠ stream)
    (absent : a.session.has other = false) :
    Apart conn stream (a.start conn other) (b.start conn other) := by
  have habsent : b.session.has other = false := (h.has_eq ne).symm.trans absent
  -- In the order of the fields of `Apart`.
  constructor
  case keys => rw [Standing.start, Standing.start, Session.keys_insert, Session.keys_insert, h.keys,
    Finset.insert_comm]
  case absent =>
    rw [Standing.start, Session.keys_insert, Finset.mem_insert, not_or]
    exact ⟨ne.symm, h.absent⟩
  case once => exact Session.nodup_insert h.once absent
  case once' => exact Session.nodup_insert h.once' habsent
  case hub =>
    rw [Standing.start, Standing.start]
    by_cases hevents : other = .events
    · -- the registration comes last in both, and nothing was behind the others
      have hne : stream ≠ .events := fun heq => ne (hevents.trans heq.symm)
      simp only [if_pos hevents, Hub.connections_subscribe, h.hub, if_neg hne, List.append_nil]
    · simp only [if_neg hevents, h.hub]
  case free =>
    intro heq
    rw [Standing.start, if_neg (heq ▸ ne)]
    exact h.free heq

/-- Another stream goes in both, and `stream` itself stays what they are apart by. -/
theorem stop (h : Apart conn stream a b) {other : Stream} (ne : other ≠ stream) :
    Apart conn stream (a.stop conn other) (b.stop conn other) := by
  -- In the order of the fields again; to give another stream up takes it from both alike.
  constructor
  case keys =>
    rw [Standing.stop, Standing.stop, Session.keys_erase, Session.keys_erase, h.keys,
      Finset.erase_insert_of_ne ne.symm]
  case absent =>
    rw [Standing.stop, Session.keys_erase]
    exact fun hmem => h.absent (Finset.mem_of_mem_erase hmem)
  case once => exact Session.nodup_erase h.once
  case once' => exact Session.nodup_erase h.once'
  case hub =>
    rw [Standing.stop, Standing.stop]
    by_cases hevents : other = .events
    · have hne : stream ≠ .events := fun heq => ne (hevents.trans heq.symm)
      simp only [if_pos hevents, Hub.connections_unsubscribe, h.hub, if_neg hne, List.append_nil]
    · simp only [if_neg hevents, h.hub]
  case free =>
    intro heq
    rw [Standing.stop, if_neg (heq ▸ ne)]
    exact h.free heq

/-- **A frame that is about another stream** takes both the same step: it has the same reply in
both, and leaves them apart by the same stream. By the verdict, which is one verdict for both. -/
theorem next (h : Apart conn stream a b) {frame : List UInt8}
    (other : ¬FrameConcerns frame stream)
    (room : ¬(a.reply services frame).IsError .limitExceeded) :
    a.reply services frame = b.reply services frame ∧
      Apart conn stream (a.next services conn frame) (b.next services conn frame) := by
  have hdecide := h.decideFrame_eq other room
  refine ⟨by rw [reply, reply, hdecide], ?_⟩
  rw [Standing.next, Standing.next, ← hdecide]
  -- With one verdict both do the same, and the stream of it is another one by assumption.
  cases hverdict : (a.session.decideFrame services frame).1 with
  | pong => exact h
  | reject r => exact h
  | start stream' interval =>
    obtain ⟨hasks, hadmits⟩ := Session.of_decideFrame_start hverdict
    exact h.start (fun heq => other (Or.inl (heq ▸ hasks))) hadmits.absent
  | stop stream' name =>
    obtain ⟨hasks, -⟩ := Session.of_decideFrame_stop hverdict
    exact h.stop fun heq => other (Or.inr (heq ▸ hasks))

/-- **Any number of frames about other streams** keeps two standings `Apart`, and their replies the
same. The induction is on the frames with both standings general; `room` is asked of the replies as
they are read off the first standing. -/
theorem play (h : Apart conn stream a b) {frames : List (List UInt8)}
    (other : ∀ frame ∈ frames, ¬FrameConcerns frame stream)
    (room : ∀ reply ∈ a.replies services conn frames, ¬reply.IsError .limitExceeded) :
    a.replies services conn frames = b.replies services conn frames ∧
      Apart conn stream (a.play services conn frames) (b.play services conn frames) := by
  induction frames generalizing a b with
  | nil => exact ⟨rfl, h⟩
  | cons frame rest ih =>
    obtain ⟨hreply, hnext⟩ :=
      h.next (other frame List.mem_cons_self) (room _ List.mem_cons_self)
    obtain ⟨hreplies, hplay⟩ := ih hnext (fun f hf => other f (List.mem_cons_of_mem _ hf))
      fun reply hmem => room reply (List.mem_cons_of_mem _ hmem)
    exact ⟨congrArg₂ List.cons hreply hreplies, hplay⟩

/-! ### The stream comes and goes -/

/-- What is granted is what the two are apart by: after the request there is one stream more than
before it. This is where the two conversations part. -/
theorem of_start (once : (a.session.subscriptions.map (·.stream)).Nodup)
    (absent : a.session.has stream = false)
    (free : stream = .events → conn ∉ a.hub.connections) :
    Apart conn stream (a.start conn stream) a where
  keys := Session.keys_insert
  absent := Session.notMem_keys.mpr absent
  once := Session.nodup_insert once absent
  once' := once
  hub := by
    rw [Standing.start]
    by_cases hevents : stream = .events
    · simp only [if_pos hevents, Hub.connections_subscribe]
    · simp only [if_neg hevents, List.append_nil]
  free := free

/-- **Giving the stream up undoes the difference:** after `stop` the two standings agree on streams
and on who is registered. And this is where they meet again. -/
theorem undo (h : Apart conn stream a b) :
    (a.stop conn stream).session.keys = b.session.keys ∧
      (a.stop conn stream).hub.connections = b.hub.connections := by
  constructor
  · rw [Standing.stop, Session.keys_erase, h.keys, Finset.erase_insert h.absent]
  · rw [Standing.stop]
    by_cases hevents : stream = .events
    · -- the connection was registered once, for this stream
      simp only [if_pos hevents, Hub.connections_unsubscribe, h.hub, List.filter_append]
      have hkept : b.hub.connections.filter (· ≠ conn) = b.hub.connections := by
        refine List.filter_eq_self.mpr fun other hother => decide_eq_true ?_
        rintro rfl
        exact h.free hevents hother
      rw [hkept]
      simp
    · simp only [if_neg hevents, h.hub, List.append_nil]

end Apart

/-- **A stream that is granted and given up again,** with frames about other streams in between:
these are answered as they are without the request, and nothing is left of it. The theorem about
standings alone; `World.undo_history` adds that conversations are such plays. -/
theorem undo_play {st : Standing} {request undo : List UInt8} {frames : List (List UInt8)}
    {interval : Option Int64} (once : (st.session.subscriptions.map (·.stream)).Nodup)
    (free : stream = .events → conn ∉ st.hub.connections)
    (granted : (st.session.decideFrame services request).1 = .start stream interval)
    (asks : FrameAsks undo .unsubscribe stream)
    (others : ∀ frame ∈ frames, ¬FrameConcerns frame stream)
    (room : ∀ reply ∈ (st.next services conn request).replies services conn frames,
      ¬reply.IsError .limitExceeded) :
    ∃ before last : Standing, before = (st.next services conn request).play services conn frames ∧
      last = before.next services conn undo ∧
      (before.reply services undo).type? = some .subscribed ∧
      (st.next services conn request).replies services conn frames =
        st.replies services conn frames ∧
      last.session.keys = (st.play services conn frames).session.keys ∧
      last.hub.connections = (st.play services conn frames).hub.connections ∧
      stream ∉ last.session.keys ∧ (last.session.subscriptions.map (·.stream)).Nodup := by
  obtain ⟨-, hadmits⟩ := Session.of_decideFrame_start granted
  -- The request sets the two standings apart by its stream, the frames in between keep them so, and
  -- the last one puts them together again.
  have hapart₀ : Apart conn stream (st.start conn stream) st :=
    .of_start once hadmits.absent free
  rw [next_of_start conn granted] at room ⊢
  obtain ⟨hreplies, hapart⟩ := hapart₀.play others room
  have hheld : stream ∈ ((st.start conn stream).play services conn frames).session.keys := by
    rw [hapart.keys]
    exact Finset.mem_insert_self _ _
  obtain ⟨name, hstop⟩ := Session.decideFrame_of_unsubscribe services asks hheld
  obtain ⟨hkeys, hconnections⟩ := hapart.undo
  refine ⟨_, _, rfl, rfl, ?_, hreplies, ?_⟩
  · rw [reply, Verdict.type?_reply_eq_subscribed_iff]
    exact Or.inr ⟨stream, name, hstop⟩
  · rw [next_of_stop conn hstop]
    refine ⟨hkeys, hconnections, ?_, Session.nodup_erase hapart.once⟩
    rw [hkeys]
    exact hapart.absent

end Standing

namespace World

/-- **A request, some frames, and the undoing of the request.** All hypotheses about the frames are
here: what the request was answered with, what the undoing is made of, and that what comes in
between is about other streams and not refused for their number. -/
structure Undoing (w : World) (conn : ConnId) (request undo : List UInt8) (ack last : Envelope)
    (between : List (List UInt8 × Envelope)) (w' : World) : Prop where
  run : Conversation conn w ((request, ack) :: (between ++ [(undo, last)])) w'
  /-- The request is for a stream, and was granted. -/
  granted : ack.type? = some .subscribed
  /-- The undoing has the payload of the acknowledgement, or that of the request. -/
  payload : ∃ asked again, Envelope.ofBytes request = .ok asked ∧
    asked.type? = some .subscribe ∧ Envelope.ofBytes undo = .ok again ∧
    again.type? = some .unsubscribe ∧
    (again.payload = ack.payload ∨ again.payload = asked.payload)
  /-- The frames in between are about other streams, or about none. -/
  others : ∀ stream, FrameAsks request .subscribe stream →
    ∀ exchange ∈ between, ¬FrameConcerns exchange.1 stream
  /-- None of them is refused because there are too many streams. -/
  room : ∀ exchange ∈ between, ¬exchange.2.IsError .limitExceeded

/-- **The same as if the request and its undoing had never been.** `w'` is where the conversation
with them ends and `w''` where the one without them does. Streams and connections are compared and
numbers are not: each subscription takes one, so those given out later are different. -/
structure Undone (conn : ConnId) (request : List UInt8) (last : Envelope)
    (between without : List (List UInt8 × Envelope)) (w' w'' : World) : Prop where
  acknowledged : last.type? = some .subscribed
  replies : between.map Prod.snd = without.map Prod.snd
  keys : ∃ c' c'', w'.client? conn = some c' ∧ w''.client? conn = some c'' ∧
    c'.session.keys = c''.session.keys
  connections : w'.hub.connections = w''.hub.connections
  /-- The stream may be asked for again: it is not held, and if nothing came in between then it is
  granted again. -/
  again : ∀ stream frame reply next, FrameAsks request .subscribe stream →
    FrameAsks frame .subscribe stream → Conversation conn w' [(frame, reply)] next →
      ¬reply.IsError .alreadySubscribed ∧ (between = [] → reply.type? = some .subscribed)

variable {w w' w'' : World} {conn : ConnId} {c : Client} {request undo : List UInt8}
  {ack last : Envelope} {between without : List (List UInt8 × Envelope)}

/-- A connection that is not subscribed to events is not registered for them, where the hub and the
sessions agree. -/
theorem notMem_connections_of_absent (h : w.Agrees) (found : w.client? c.id = some c)
    (absent : c.session.has .events = false) : c.id ∉ w.hub.connections := by
  have hnone : c.session.find? .events = none :=
    Option.not_isSome_iff_eq_none.mp (Bool.eq_false_iff.mp absent)
  refine Hub.notMem_connections ?_
  rw [h.of_client found, Client.registrations_eq_nil hnone]

/-- The request that was granted was granted for one stream. Its acknowledgement has the type that
one of an undoing would have too, so the type of the request is needed. -/
theorem Undoing.exists_start (h : w.Undoing conn request undo ack last between w') {st : Standing}
    {services : Services} (hack : ack = st.reply services request) :
    ∃ stream interval, (st.session.decideFrame services request).1 = .start stream interval := by
  obtain ⟨asked, -, hread, htype, -⟩ := h.payload
  have hgranted := h.granted
  rw [hack, Standing.reply, Verdict.type?_reply_eq_subscribed_iff] at hgranted
  refine hgranted.resolve_right ?_
  rintro ⟨stream, name, hstop⟩
  -- What asks for a stream does not give one up.
  obtain ⟨⟨e, he, htype', -⟩, -⟩ := Session.of_decideFrame_stop hstop
  obtain rfl := Except.ok.inj (hread.symm.trans he)
  rw [htype] at htype'
  cases htype'

/-- The undoing is about the stream that was granted, whichever of the two payloads it has. -/
theorem Undoing.asks (h : w.Undoing conn request undo ack last between w') {st : Standing}
    {services : Services} {stream : Stream} {interval : Option Int64}
    (hack : ack = st.reply services request)
    (granted : (st.session.decideFrame services request).1 = .start stream interval) :
    FrameAsks undo .unsubscribe stream := by
  -- The last frame repeats the payload of the acknowledgement, or that of the request.
  obtain ⟨asked, again, hread, -, hread', htype', hpayload⟩ := h.payload
  obtain ⟨⟨e, he, -, r, hr, hrequest⟩, -⟩ := Session.of_decideFrame_start granted
  obtain rfl := Except.ok.inj (hread.symm.trans he)
  rw [Standing.reply, granted] at hack
  refine ⟨again, hread', htype', ?_⟩
  rcases hpayload with hpayload | hpayload
  · -- the acknowledgement is read as the request that means the stream and nothing else
    have hdecoded : again.payloadAs Request.decoder = .ok stream.ack := by
      rw [Envelope.payloadAs, hpayload, hack]
      exact Request.lossless.decodes stream.ack
    exact ⟨stream.ack, hdecoded, Stream.ofRequest_eq_ok_iff.mpr stream.means_ack⟩
  · have hdecoded : again.payloadAs Request.decoder = .ok r := by
      rw [Envelope.payloadAs, hpayload]
      exact hr
    exact ⟨r, hdecoded, hrequest⟩

/-- **Subscribe, then unsubscribe, is an undo.** Whatever happened to the agent before, and whatever
frames about other streams come in between, unless one of them is refused for the number of streams:
the undoing is acknowledged, the other frames are answered as they are without the request, and in
the end the session is subscribed to the same streams and the same connections are registered.
`Conversation.standing` makes plays of both conversations, and `Standing.undo_play` compares
them. -/
theorem undo_history (services : Services) (events : List Happening)
    (found : (({ services := services } : World).history events).client? conn = some c)
    (idle : c.isIdle = true)
    (undoing : (({ services := services } : World).history events).Undoing conn request undo ack
      last between w')
    (other : Conversation conn (({ services := services } : World).history events) without w'')
    (frames : without.map Prod.fst = between.map Prod.fst) :
    Undone conn request last between without w' w'' := by
  obtain rfl := id_of_client? found
  have hchanges := history_changes { services := services } events
  have hsound := hchanges.sound (.services services)
  have hagrees := hchanges.agrees (.services services) (.services services)
  have hbooks : c.Books := (hsound.client found).books
  have hservices : (({ services := services } : World).history events).services = services :=
    services_history { services := services } events
  generalize ({ services := services } : World).history events = w at *
  obtain ⟨c', hservices', found', idle', hreplies, hplay⟩ :=
    undoing.run.standing hservices found idle
  obtain ⟨c'', -, found'', -, hreplies', hplay'⟩ := other.standing hservices found idle
  rw [frames] at hreplies' hplay'
  -- The conversation with the request, in its three parts.
  simp only [List.map_cons, List.map_append, List.map_nil] at hreplies hplay
  rw [Standing.replies, List.cons.injEq, Standing.replies_append] at hreplies
  obtain ⟨hack, hrest⟩ := hreplies
  -- As many replies came in between as there were frames.
  obtain ⟨hbetween, hlast⟩ := List.append_inj hrest (by
    rw [Standing.length_replies, List.length_map, List.length_map])
  obtain ⟨stream, interval, hstart⟩ := undoing.exists_start hack
  obtain ⟨hasks, hadmits⟩ := Session.of_decideFrame_start hstart
  have hfree : stream = .events → c.id ∉ (w.standing c).hub.connections := by
    rintro rfl
    exact notMem_connections_of_absent hagrees found hadmits.absent
  have hothers : ∀ frame ∈ between.map Prod.fst, ¬FrameConcerns frame stream :=
    List.forall_mem_map.mpr (undoing.others stream hasks)
  have hroom : ∀ reply ∈ between.map Prod.snd, ¬reply.IsError .limitExceeded :=
    List.forall_mem_map.mpr undoing.room
  obtain ⟨st', final, rfl, hfinal, hundone, hsame, hkeys, hconnections, habsent, honce⟩ :=
    Standing.undo_play hbooks.streams hfree hstart (undoing.asks hack hstart) hothers
      (hbetween ▸ hroom)
  -- That is where the conversation comes to.
  have hplay : w'.standing c' = final := by
    rw [hplay, hfinal]
    exact Standing.play_append services c.id ((w.standing c).next services c.id request) _ [undo]
  subst hplay
  rw [← hplay'] at hkeys hconnections
  -- What is left are the fields of `Undone`; all but the last are read off the comparison.
  constructor
  case acknowledged =>
    obtain rfl := List.head_eq_of_cons_eq hlast
    exact hundone
  case replies => rw [hbetween, hsame, hreplies']
  case keys => exact ⟨c', c'', found', found'', hkeys⟩
  case connections => exact hconnections
  case again =>
    intro stream' frame reply next hasks' hframe hconversation
    obtain ⟨-, rfl⟩ := hasks.unique hasks'
    obtain ⟨-, -, -, -, hreplied, -⟩ := hconversation.standing hservices' found' idle'
    have hreply : reply = (w'.standing c').reply services frame := List.head_eq_of_cons_eq hreplied
    rw [hreply]
    refine ⟨Standing.not_alreadySubscribed hframe habsent, ?_⟩
    rintro rfl
    -- What it needed is still there.
    rw [hplay'] at hkeys
    refine Standing.granted_of_available hframe habsent ?_
    exact (Session.availability_congr honce hbooks.streams hkeys).trans hadmits.available

/-! ### An undoing -/

/-- The world after a frame and the reply to it, when nothing else happens. For the conversations of
the example below, which are short. -/
def exchanged (conn : ConnId) (w : World) (frame : List UInt8) : World :=
  (w.step (.frame conn frame)).step (.reply conn 0)

/-- Whether all replies to some frames are sent at once. -/
def isPrompt (conn : ConnId) (w : World) : List (List UInt8) → Bool
  | [] => true
  | frame :: rest =>
    ((w.step (.frame conn frame)).client? conn).any (·.pending.isSome) &&
      ((exchanged conn w frame).client? conn).any (·.pending.isNone) &&
      isPrompt conn (exchanged conn w frame) rest

/-- Frames that are answered at once make up a conversation. So a conversation can be had by
evaluating `isPrompt`, without its replies being written down. -/
theorem exists_conversation {frames : List (List UInt8)} (prompt : isPrompt conn w frames = true) :
    ∃ replies, replies.length = frames.length ∧
      Conversation conn w (frames.zip replies) (frames.foldl (exchanged conn) w) := by
  have hnothing : ∀ event ∈ ([] : List Happening), event.isAside = true := nofun
  induction frames generalizing w with
  | nil => exact ⟨[], rfl, .silence hnothing⟩
  | cons frame rest ih =>
    rw [isPrompt, Bool.and_eq_true, Bool.and_eq_true] at prompt
    obtain ⟨⟨decided, answered⟩, hrest⟩ := prompt
    -- The first frame is decided and answered, so it is an exchange, with the others behind it.
    obtain ⟨replies, hlength, htail⟩ := ih hrest
    obtain ⟨c, hdecided, hsome⟩ := (Option.any_eq_true _ _).mp decided
    obtain ⟨r, hpending⟩ := Option.isSome_iff_exists.mp hsome
    obtain ⟨c', hanswered, hnone⟩ := (Option.any_eq_true _ _).mp answered
    exact ⟨r.message :: replies, congrArg Nat.succ hlength, .exchange hnothing hnothing hdecided
      hpending hanswered (Option.isNone_iff_eq_none.mp hnone) htail⟩

/-- A client was subscribed to events, and another one still is. It asks for events again, then for
the host's metrics, and gives events up with the payload of the acknowledgement. -/
theorem undo_events :
    let w := ({ services := {} } : World).history (eventsTwice.take 8)
    let request := (Stream.ack .events).frame .subscribe
    let metrics := (Stream.ack .metrics).frame .subscribe
    let undo := (Stream.ack .events).frame .unsubscribe
    ∃ c ack reply last w' w'' without, w.client? 0 = some c ∧ c.isIdle = true ∧
      w.Undoing 0 request undo ack last [(metrics, reply)] w' ∧
      Conversation 0 w [(metrics, without)] w'' ∧
      Undone 0 request last [(metrics, reply)] [(metrics, without)] w' w'' := by
  intro w request metrics undo
  have hclient : (w.client? 0).map (fun c => (c.session, c.isIdle)) = some (⟨[], 1⟩, true) := by
    decide
  have hprompt : isPrompt 0 w [request, metrics, undo] = true := by decide +kernel
  have hprompt' : isPrompt 0 w [metrics] = true := by decide +kernel
  have htypes : (Standing.replies {} 0 ⟨⟨[], 1⟩, w.hub⟩ [request, metrics, undo]).map
      (·.type?) = [some .subscribed, some .subscribed, some .subscribed] := by decide +kernel
  have hfirst : Session.decideFrame {} ⟨[], 1⟩ request = (.start .events none, none) := by
    decide +kernel
  obtain ⟨c, found, heq⟩ := Option.map_eq_some_iff.mp hclient
  obtain ⟨hsession, idle⟩ := by simpa only [Prod.mk.injEq] using heq
  have hstanding : w.standing c = ⟨⟨[], 1⟩, w.hub⟩ := by rw [standing, hsession]
  have hevents : FrameAsks request .subscribe .events := Request.frameAsks (Stream.means_ack _)
  have hmetrics : FrameAsks metrics .subscribe .metrics := Request.frameAsks (Stream.means_ack _)
  -- The two conversations, and what their replies are.
  obtain ⟨replies, hlength, hrun⟩ := exists_conversation hprompt
  obtain ⟨ack, reply, last, rfl⟩ := List.length_eq_three.mp hlength
  obtain ⟨replies', hlength', hother⟩ := exists_conversation hprompt'
  obtain ⟨without, rfl⟩ := List.length_eq_one_iff.mp hlength'
  generalize [request, metrics, undo].foldl (exchanged 0) w = w' at hrun
  generalize [metrics].foldl (exchanged 0) w = w'' at hother
  have hservices : w.services = {} := rfl
  obtain ⟨-, -, -, -, hreplies, -⟩ := hrun.standing hservices found idle
  rw [hstanding] at hreplies
  change [ack, reply, last] = Standing.replies {} 0 _ [request, metrics, undo] at hreplies
  obtain rfl : ack = (Verdict.start .events none).reply none := by
    rw [Standing.replies, Standing.reply, hfirst] at hreplies
    exact List.head_eq_of_cons_eq hreplies
  rw [← hreplies] at htypes
  have hreply : reply.type? = some .subscribed := by
    simp only [List.map_cons, List.cons.injEq] at htypes
    exact htypes.2.1
  -- The frame in between is about another stream, and is not refused for want of room.
  have hundoing : w.Undoing 0 request undo ((Verdict.start .events none).reply none) last
      [(metrics, reply)] w' := by
    refine ⟨hrun, rfl, ⟨_, _, Request.ofBytes_frame, rfl, Request.ofBytes_frame, rfl, Or.inl rfl⟩,
      ?_, ?_⟩
    · intro stream hasks exchange hmem
      obtain ⟨-, rfl⟩ := hasks.unique hevents
      rw [List.mem_singleton.mp hmem]
      rintro (h | h)
      · cases (h.unique hmetrics).2
      · cases (h.unique hmetrics).2
    · intro exchange hmem herror
      rw [List.mem_singleton.mp hmem] at herror
      obtain ⟨message, id, rfl⟩ := herror
      have htype := (MessageType.ofName?_name .error).symm.trans hreply
      cases htype
  exact ⟨c, _, reply, last, w', w'', without, found, idle, hundoing, hother,
    undo_history {} (eventsTwice.take 8) found idle hundoing hother rfl⟩

end World

end Lookout
