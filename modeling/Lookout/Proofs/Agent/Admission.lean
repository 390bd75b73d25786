import Lookout.Proofs.Agent.Caps
import Lookout.Proofs.Agent.Keys
import Lookout.Proofs.Agent.Reply
import Lookout.Proofs.Protocol.Payload

/-!
# What is granted, and what is refused first

A request to subscribe is asked seven things, by the reading of its payload, by the resolving of its
stream and by the session in turn. Here they stand side by side as conditions on the payload and on
the set of streams that are subscribed to (`Check`, `Request.Passes`), each said without the others.
The order they are asked in is then a fact about the reply: it is the acknowledgement if all of them
are met, and otherwise the error of the first one that is not.

That a later condition is said without the earlier ones is what makes this exact. A condition on the
stream that is meant is met by a request that means none, so the first one that is not met is the
one where the request goes wrong. Counting the set instead of the list needs that no stream is
subscribed to twice, which holds of every session on every history.

* `Check` — what a request is asked, in order, and the code of the error;
* `Envelope.Passes`, `Envelope.FailsFirst` — the condition, and that it is the first one not met;
* `Session.grant_of_failsFirst`, `Session.grant_of_passes` — what a session says to a request;
* `Admission` — the reply to a request for or against a stream;
* `Client.Provided`, `World.provided_history` — what is about to be started has what it needs;
* `World.admission_history` — it is this one on every history.
-/

namespace Lookout

/-- How many streams of a kind a session may hold, if there is a number that bounds them. Unlike
`Limits.cap` it says nothing of streams without a container, for which no count is ever compared. -/
def Limits.cap? (l : Limits) : StreamName → Option Nat
  | .metrics | .events => none
  | .logs => some l.maxLogStreams.toNat
  | .containerStats => some l.maxStatsStreams.toNat

/-- The service that streams of a kind need is there. The host's metrics need none. -/
def Services.Serve (services : Services) : StreamName → Prop
  | .metrics => True
  | .events => services.hub = true
  | .logs | .containerStats => services.docker = true

/-! ### Conditions -/

/-- **What a request to subscribe is asked.** The constructors stand in the order in which the
questions come; `Check.inOrder` says so, and `Check.code` which error each of them leads to. -/
inductive Check where
  /-- Whether it is a request at all. -/
  | decodes
  /-- Whether there is a stream of its name. -/
  | stream
  /-- Whether it names a container, if the stream needs one. -/
  | container
  /-- Whether what it names is a container reference. -/
  | reference
  /-- Whether the stream is not subscribed to. -/
  | absent
  /-- Whether the service that the stream needs is there. -/
  | service
  /-- Whether there may be one more stream of the kind. -/
  | room
  deriving DecidableEq

namespace Check

/-- The order in which a request is asked. -/
def inOrder : List Check := [decodes, stream, container, reference, absent, service, room]

/-- What is asked before a check. -/
def before (check : Check) : List Check := inOrder.takeWhile (· ≠ check)

/-- The code of the error when a check is not met. Two of them share one. -/
def code : Check → ErrorCode
  | decodes | reference => .badPayload
  | stream => .unknownStream
  | container => .missingContainerId
  | absent => .alreadySubscribed
  | service => .notAvailable
  | room => .limitExceeded

/-- What is asked before a check has less asked before it. Needed for the induction of
`all_or_first`. -/
theorem length_before_lt {earlier check : Check} (h : earlier ∈ check.before) :
    earlier.before.length < check.before.length := by
  revert h
  cases check <;> cases earlier <;> decide

/-- Conditions are all met, or one of them is the first that is not. The induction is on how many
are asked before: if none of those fails, the check itself is the first. -/
theorem all_or_first (met : Check → Prop) :
    (∀ check, met check) ∨ ∃ check, ¬met check ∧ ∀ earlier ∈ check.before, met earlier := by
  by_contra hnot
  obtain ⟨hsome, hfirst⟩ := not_or.mp hnot
  refine hsome fun check => ?_
  -- On how many are asked before.
  induction hlength : check.before.length using Nat.strongRecOn generalizing check with
  | ind n ih =>
    by_contra hfails
    refine hfirst ⟨check, hfails, fun earlier hearlier => ?_⟩
    exact ih _ (hlength ▸ length_before_lt hearlier) earlier rfl

end Check

/-- What a request is asked, once it is decoded. Each condition stands by itself: one that is about
the stream which the request means says nothing of a request that means none. -/
def Request.Passes (services : Services) (keys : Finset Stream) (r : Request) : Check → Prop
  | .decodes => True
  | .stream => ∃ name : StreamName, r.stream = name.text
  | .container => ∀ name : StreamName, r.stream = name.text → name.OfContainer →
      ∃ id, r.containerId = some id ∧ id ≠ ""
  | .reference => ∀ name : StreamName, r.stream = name.text → name.OfContainer →
      ∀ id, r.containerId = some id → ∃ reference : ContainerId, reference.text = id
  | .absent => ∀ stream, r.Means stream → stream ∉ keys
  | .service => ∀ stream, r.Means stream → services.Serve stream.name
  | .room => ∀ stream, r.Means stream → ∀ cap, services.limits.cap? stream.name = some cap →
      (keys.filter fun key => key.name = stream.name).card < cap

namespace Envelope

variable (services : Services) (keys : Finset Stream) (e : Envelope)

/-- **A request meets a condition.** What cannot be decoded fails that alone, and so it is not the
first condition that another check would fail on as well. -/
def Passes (check : Check) : Prop :=
  match e.payloadAs Request.decoder with
  | .error _ => check ≠ .decodes
  | .ok r => r.Passes services keys check

/-- **The first condition that a request does not meet.** There is one at most, and by
`Check.all_or_first` there is one if not all are met. -/
def FailsFirst (check : Check) : Prop :=
  ¬e.Passes services keys check ∧ ∀ earlier ∈ check.before, e.Passes services keys earlier

variable {services keys e}

/-- Of a payload that is a request the request is asked, in each `Check`. -/
theorem passes_of_ok {r : Request} (h : e.payloadAs Request.decoder = .ok r) (check : Check) :
    e.Passes services keys check ↔ r.Passes services keys check := by
  rw [Passes, h]

/-- A payload that is no request fails the first check, `decodes`, and no other. -/
theorem passes_of_error {err : Json.DecodeError} (h : e.payloadAs Request.decoder = .error err)
    (check : Check) : e.Passes services keys check ↔ check ≠ .decodes := by
  rw [Passes, h]

end Envelope

/-! ### Resolving a request -/

namespace Stream

variable {r : Request}

/-- Where no container is named, or an empty text in its place, the container is missing:
`missingContainerId`. -/
theorem requestedContainer_of_missing (h : ∀ id, r.containerId = some id → id = "") :
    requestedContainer r = .error .missingContainerId := by
  unfold requestedContainer
  split
  · rfl
  · next id hid => rw [if_pos (h id hid)]

/-- Where the text is that of no `ContainerId`, it is invalid. -/
theorem requestedContainer_of_invalid {id : String} (hid : r.containerId = some id)
    (hne : id ≠ "") (h : ∀ reference : ContainerId, reference.text ≠ id) :
    requestedContainer r = .error .invalidContainerId := by
  unfold requestedContainer
  rw [hid]
  simp only [if_neg hne]
  split
  · next reference hreference => exact absurd (ContainerId.text_of_ofString hreference) (h _)
  · rfl

end Stream

namespace Request

variable {services : Services} {keys : Finset Stream} {r : Request}

/-- A request that passes the first four conditions means a stream. The first of them is that it is
a request, which it is. -/
theorem exists_means (named : r.Passes services keys .stream)
    (container : r.Passes services keys .container)
    (reference : r.Passes services keys .reference) : ∃ stream, r.Means stream := by
  obtain ⟨name, hname⟩ := named
  -- Only the streams of a container ask for one.
  have hreference : name.OfContainer → ∃ id : ContainerId, r.containerId = some id.text := by
    intro hof
    obtain ⟨text, htext, -⟩ := container name hname hof
    obtain ⟨id, rfl⟩ := reference name hname hof text htext
    exact ⟨id, htext⟩
  cases name with
  | metrics => exact ⟨.metrics, hname, nofun⟩
  | events => exact ⟨.events, hname, nofun⟩
  | logs =>
    obtain ⟨id, hid⟩ := hreference trivial
    exact ⟨.logs id, hname, fun _ h => Option.some.inj h ▸ hid⟩
  | containerStats =>
    obtain ⟨id, hid⟩ := hreference trivial
    exact ⟨.containerStats id, hname, fun _ h => Option.some.inj h ▸ hid⟩

end Request

namespace Session

variable {services : Services} {s : Session} {stream : Stream} {r : Request} {check : Check}

/-! ### What a stream needs -/

/-- Without its service a stream is not available, and the code is `notAvailable`. -/
theorem availability_of_not_serve (h : ¬services.Serve stream.name) :
    ∃ rejection, s.availability services stream = .error rejection ∧
      rejection.code = .notAvailable := by
  cases stream with
  | metrics => exact absurd trivial h
  | events => exact ⟨.noHub, if_neg h, rfl⟩
  | logs id
  | containerStats id =>
    have hdocker : services.docker = false := Bool.eq_false_iff.mpr h
    refine ⟨.noDocker, ?_, rfl⟩
    simp [availability, hdocker]

/-- With its service, but with as many of its kind as `cap?` allows, a stream is too many:
`limitExceeded`. -/
theorem availability_of_full {cap : Nat} (serve : services.Serve stream.name)
    (hcap : services.limits.cap? stream.name = some cap) (full : cap ≤ s.countOf stream.name) :
    ∃ rejection, s.availability services stream = .error rejection ∧
      rejection.code = .limitExceeded := by
  -- Only the two kinds of streams that are counted have a maximum, and each has one of its own.
  cases stream with
  | metrics
  | events => cases hcap
  | logs id =>
    cases hcap
    have hdocker : services.docker = true := serve
    have hfull : ¬s.countOf .logs < services.limits.maxLogStreams.toNat := Nat.not_lt.mpr full
    refine ⟨.limitExceeded services.limits.maxLogStreams.toNat "log", ?_, rfl⟩
    simp [availability, Stream.name, hdocker, hfull]
  | containerStats id =>
    cases hcap
    have hdocker : services.docker = true := serve
    have hfull : ¬s.countOf .containerStats < services.limits.maxStatsStreams.toNat :=
      Nat.not_lt.mpr full
    refine ⟨.limitExceeded services.limits.maxStatsStreams.toNat "container stats", ?_, rfl⟩
    simp [availability, Stream.name, hdocker, hfull]

/-- With its service and with room below the cap of its kind a stream is available. -/
theorem availability_of_room (serve : services.Serve stream.name)
    (room : ∀ cap, services.limits.cap? stream.name = some cap → s.countOf stream.name < cap) :
    s.availability services stream = .ok () := by
  cases stream with
  | metrics => rfl
  | events => exact if_pos serve
  | logs id
  | containerStats id =>
    have hdocker : services.docker = true := serve
    simp only [availability, hdocker, Bool.not_true, Bool.false_eq_true, if_false]
    exact if_pos (room _ rfl)

/-! ### What a session says to a request -/

/-- A request that means no stream is refused for the reason that `Stream.ofRequest` gives. -/
theorem grant_of_unresolved {reason : Stream.Unresolved}
    (h : Stream.ofRequest r = .error reason) :
    s.grant services r = .error (.unresolved reason r.stream) := by
  rw [grant, h]

/-- **A request that fails is refused** with the code of the first condition that it fails. One case
for each check; `before` is needed to know that the request comes as far as this check in the
code. -/
theorem grant_of_failsFirst (once : (s.subscriptions.map (·.stream)).Nodup)
    (fails : ¬r.Passes services s.keys check)
    (before : ∀ earlier ∈ check.before, r.Passes services s.keys earlier) :
    ∃ rejection, s.grant services r = .error rejection ∧ rejection.code = check.code := by
  -- What was asked before it takes a request to the place where it fails.
  cases check with
  | decodes => exact absurd trivial fails
  | stream =>
    have hunknown := Stream.ofRequest_of_unknown fun name hname => fails ⟨name, hname⟩
    exact ⟨_, grant_of_unresolved hunknown, rfl⟩
  | container =>
    simp only [Request.Passes, not_forall, not_exists, not_and, not_not] at fails
    obtain ⟨name, hname, hof, hmissing⟩ := fails
    have hunresolved := Stream.ofRequest_of_requestedContainer hname hof
      (Stream.requestedContainer_of_missing hmissing)
    exact ⟨_, grant_of_unresolved hunresolved, rfl⟩
  | reference =>
    simp only [Request.Passes, not_forall, not_exists] at fails
    obtain ⟨name, hname, hof, id, hid, hnone⟩ := fails
    -- A container was named, so it is not the empty text that is no reference.
    obtain ⟨id', hid', hne⟩ := before .container (by decide) name hname hof
    obtain rfl := Option.some.inj (hid.symm.trans hid')
    have hunresolved := Stream.ofRequest_of_requestedContainer hname hof
      (Stream.requestedContainer_of_invalid hid hne hnone)
    exact ⟨_, grant_of_unresolved hunresolved, rfl⟩
  | absent =>
    simp only [Request.Passes, not_forall, not_not] at fails
    obtain ⟨stream, hmeans, hmem⟩ := fails
    exact ⟨_, grant_of_mem hmeans hmem, rfl⟩
  | service =>
    simp only [Request.Passes, not_forall] at fails
    obtain ⟨stream, hmeans, hserve⟩ := fails
    obtain ⟨rejection, hrejection, hcode⟩ := availability_of_not_serve (s := s) hserve
    refine ⟨rejection, ?_, hcode⟩
    -- The stream is not held, so it comes to whether it is available.
    rw [grant_of_notMem hmeans (before .absent (by decide) stream hmeans), hrejection]
    rfl
  | room =>
    simp only [Request.Passes, not_forall, Nat.not_lt] at fails
    obtain ⟨stream, hmeans, cap, hcap, hfull⟩ := fails
    rw [card_keys once] at hfull
    obtain ⟨rejection, hrejection, hcode⟩ :=
      availability_of_full (before .service (by decide) stream hmeans) hcap hfull
    refine ⟨rejection, ?_, hcode⟩
    rw [grant_of_notMem hmeans (before .absent (by decide) stream hmeans), hrejection]
    rfl

/-- **A request that passes is granted.** It means a stream (`Request.exists_means`), which is not
held, whose service is there and for which there is room. -/
theorem grant_of_passes (once : (s.subscriptions.map (·.stream)).Nodup)
    (passes : ∀ check, r.Passes services s.keys check) :
    ∃ stream, r.Means stream ∧ s.grant services r = .ok stream := by
  obtain ⟨stream, hmeans⟩ := Request.exists_means (passes .stream) (passes .container)
    (passes .reference)
  have hroom : ∀ cap, services.limits.cap? stream.name = some cap →
      s.countOf stream.name < cap := by
    intro cap hcap
    rw [← card_keys once]
    exact passes .room stream hmeans cap hcap
  refine ⟨stream, hmeans, ?_⟩
  rw [grant_of_notMem hmeans (passes .absent stream hmeans),
    availability_of_room (passes .service stream hmeans) hroom]
  rfl

/-- What a request to unsubscribe means is given up if and only if it is subscribed to. A request
that means nothing is treated as one for what is not held. -/
theorem resolve_eq_some_iff :
    s.resolve r = some stream ↔ r.Means stream ∧ stream ∈ s.keys := by
  rw [mem_keys, ← Stream.ofRequest_eq_ok_iff]
  constructor
  · exact of_resolve
  · rintro ⟨hrequest, hhas⟩
    rw [resolve, hrequest]
    exact if_pos hhas

/-! ### What a session says to a message -/

variable {e : Envelope}

/-- `grant_of_failsFirst` for a message to subscribe, with the reading of its payload as the first
check. -/
theorem decideSubscribe_of_failsFirst (once : (s.subscriptions.map (·.stream)).Nodup)
    (h : e.FailsFirst services s.keys check) :
    ∃ rejection, s.decideSubscribe services e = .reject rejection ∧
      rejection.code = check.code := by
  obtain ⟨fails, before⟩ := h
  cases hpayload : e.payloadAs Request.decoder with
  | error err =>
    rw [Envelope.passes_of_error hpayload, not_not] at fails
    -- A payload that cannot be read passes all other checks, so it is this one that fails.
    subst fails
    refine ⟨.badSubscribe err, ?_, rfl⟩
    rw [decideSubscribe, hpayload]
  | ok r =>
    simp only [Envelope.passes_of_ok hpayload] at fails before
    obtain ⟨rejection, hgrant, hcode⟩ := grant_of_failsFirst once fails before
    refine ⟨rejection, ?_, hcode⟩
    rw [decideSubscribe, hpayload]
    simp only [hgrant]

/-- `grant_of_passes` for a message to subscribe; the interval of the start is what the payload
has. -/
theorem decideSubscribe_of_passes (once : (s.subscriptions.map (·.stream)).Nodup)
    (h : ∀ check, e.Passes services s.keys check) :
    ∃ stream interval, s.decideSubscribe services e = .start stream interval := by
  cases hpayload : e.payloadAs Request.decoder with
  | error err => exact absurd rfl ((Envelope.passes_of_error hpayload .decodes).mp (h .decodes))
  | ok r =>
    obtain ⟨stream, -, hgrant⟩ :=
      grant_of_passes once fun check => (Envelope.passes_of_ok hpayload check).mp (h check)
    refine ⟨stream, r.intervalSeconds, ?_⟩
    rw [decideSubscribe, hpayload]
    simp only [hgrant]

/-- **A request to unsubscribe** cannot be decoded, means nothing that is subscribed to, or is
granted. The three exclude each other, which `unsubscribe_replies` uses. -/
theorem decideUnsubscribe_cases (s : Session) (e : Envelope) :
    (∃ err, e.payloadAs Request.decoder = .error err ∧
      s.decideUnsubscribe e = .reject (.badUnsubscribe err)) ∨
    (∃ r, e.payloadAs Request.decoder = .ok r ∧ (∀ stream, r.Means stream → stream ∉ s.keys) ∧
      s.decideUnsubscribe e = .reject (.notSubscribed r.stream)) ∨
    ∃ r stream, e.payloadAs Request.decoder = .ok r ∧ r.Means stream ∧ stream ∈ s.keys ∧
      s.decideUnsubscribe e = .stop stream r.stream := by
  cases hpayload : e.payloadAs Request.decoder with
  | error err =>
    refine Or.inl ⟨err, rfl, ?_⟩
    rw [decideUnsubscribe, hpayload]
  | ok r =>
    -- `resolve` finds the stream that the request means, if the session holds it.
    cases hresolve : s.resolve r with
    | none =>
      refine Or.inr (Or.inl ⟨r, rfl, fun stream hmeans hmem => ?_, ?_⟩)
      · rw [resolve_eq_some_iff.mpr ⟨hmeans, hmem⟩] at hresolve
        cases hresolve
      · simp only [decideUnsubscribe, hpayload, hresolve]
    | some stream =>
      obtain ⟨hmeans, hmem⟩ := resolve_eq_some_iff.mp hresolve
      refine Or.inr (Or.inr ⟨r, stream, rfl, hmeans, hmem, ?_⟩)
      simp only [decideUnsubscribe, hpayload, hresolve]

end Session

/-! ### Replies -/

/-- **The reply to a request for or against a stream,** by the streams that are subscribed to.
`granted`, `refused` and `decided` are about requests to subscribe, the other three about requests
to unsubscribe. `keys` is the only thing it says of the session. -/
structure Admission (services : Services) (keys : Finset Stream) (e reply : Envelope) : Prop where
  /-- A stream is granted if and only if the request meets all conditions. -/
  granted : e.type? = some .subscribe →
    (reply.type? = some .subscribed ↔ ∀ check, e.Passes services keys check)
  /-- Otherwise the reply is the error of the first one that it does not meet. -/
  refused : e.type? = some .subscribe → ∀ check, e.FailsFirst services keys check →
    ∃ message, reply = (Envelope.error check.code message).withId e.id
  /-- There is no third kind of request. -/
  decided : e.type? = some .subscribe →
    (∀ check, e.Passes services keys check) ∨ ∃ check, e.FailsFirst services keys check
  /-- A stream is given up if and only if the request is for one that is subscribed to. -/
  givenUp : e.type? = some .unsubscribe →
    (reply.type? = some .subscribed ↔
      ∃ r stream, e.payloadAs Request.decoder = .ok r ∧ r.Means stream ∧ stream ∈ keys)
  undecoded : e.type? = some .unsubscribe →
    ((∃ message, reply = (Envelope.error .badPayload message).withId e.id) ↔
      ∀ r, e.payloadAs Request.decoder ≠ .ok r)
  notHeld : e.type? = some .unsubscribe →
    ((∃ message, reply = (Envelope.error .notSubscribed message).withId e.id) ↔
      ∃ r, e.payloadAs Request.decoder = .ok r ∧ ∀ stream, r.Means stream → stream ∉ keys)

/-- What is granted is acknowledged, and nothing else is; a stream that is given up has been granted
too. -/
theorem Verdict.type?_reply_eq_subscribed_iff (verdict : Verdict) (id : Option String) :
    (verdict.reply id).type? = some .subscribed ↔
      (∃ stream interval, verdict = .start stream interval) ∨
        ∃ stream name, verdict = .stop stream name := by
  cases verdict with
  | pong =>
    have htype : (Envelope.bare .pong).type? = some .pong := Envelope.type?_bare .pong
    simp [reply, htype]
  | reject r =>
    have htype : (r.toMessage.withId id).type? = some .error := MessageType.ofName?_name .error
    simp [reply, htype]
  | start stream interval =>
    exact iff_of_true (MessageType.ofName?_name .subscribed) (Or.inl ⟨stream, interval, rfl⟩)
  | stop stream name =>
    exact iff_of_true (MessageType.ofName?_name .subscribed) (Or.inr ⟨stream, name, rfl⟩)

namespace Session

variable {services : Services} {s : Session} {e : Envelope}

/-- A request to unsubscribe goes one of three ways, and each of them settles what the reply is. The
three equivalences are proved together, since each case decides all of them. -/
theorem unsubscribe_replies (s : Session) (e : Envelope) :
    let reply := (s.decideUnsubscribe e).reply e.id
    (reply.type? = some .subscribed ↔
      ∃ r stream, e.payloadAs Request.decoder = .ok r ∧ r.Means stream ∧ stream ∈ s.keys) ∧
    ((∃ message, reply = (Envelope.error .badPayload message).withId e.id) ↔
      ∀ r, e.payloadAs Request.decoder ≠ .ok r) ∧
    ((∃ message, reply = (Envelope.error .notSubscribed message).withId e.id) ↔
      ∃ r, e.payloadAs Request.decoder = .ok r ∧ ∀ stream, r.Means stream → stream ∉ s.keys) := by
  simp only [Verdict.type?_reply_eq_subscribed_iff, Verdict.reply_eq_error_iff]
  -- Each of the three answers is the only one of its kind, so a case settles all three
  -- equivalences.
  rcases decideUnsubscribe_cases s e with ⟨err, hpayload, hverdict⟩ |
    ⟨r, hpayload, hnone, hverdict⟩ | ⟨r, stream, hpayload, hmeans, hmem, hverdict⟩
  · simp [hverdict, hpayload, Rejection.code]
  · simpa [hverdict, hpayload, Rejection.code] using hnone
  · simpa [hverdict, hpayload] using ⟨stream, hmeans, hmem⟩

/-- **What a session decides on is this reply,** if it is subscribed to no stream twice. `once` is
needed where streams are counted, since the session counts its list and the condition counts the
set. -/
theorem admission_decide (services : Services) (once : (s.subscriptions.map (·.stream)).Nodup)
    (e : Envelope) : Admission services s.keys e ((s.decide services e).reply e.id) := by
  have hsubscribe : e.type? = some .subscribe → s.decide services e =
      s.decideSubscribe services e := fun htype => by rw [decide, htype]
  have hunsubscribe : e.type? = some .unsubscribe → s.decide services e =
      s.decideUnsubscribe e := fun htype => by rw [decide, htype]
  have hdecided := Check.all_or_first (e.Passes services s.keys)
  -- In the order of the fields of `Admission`: three on asking for a stream, three on giving one
  -- up.
  constructor
  case granted =>
    intro htype
    rw [hsubscribe htype, Verdict.type?_reply_eq_subscribed_iff]
    constructor
    · intro hgranted
      refine hdecided.resolve_right fun ⟨check, hfirst⟩ => ?_
      -- What fails is refused, and not granted.
      obtain ⟨rejection, hreject, -⟩ := decideSubscribe_of_failsFirst once hfirst
      rw [hreject] at hgranted
      rcases hgranted with ⟨_, _, h⟩ | ⟨_, _, h⟩ <;> cases h
    · intro hpasses
      exact Or.inl (decideSubscribe_of_passes once hpasses)
  case refused =>
    intro htype check hfirst
    rw [hsubscribe htype, Verdict.reply_eq_error_iff]
    exact decideSubscribe_of_failsFirst once hfirst
  case decided => exact fun _ => hdecided
  case givenUp => exact fun htype => hunsubscribe htype ▸ (unsubscribe_replies s e).1
  case undecoded => exact fun htype => hunsubscribe htype ▸ (unsubscribe_replies s e).2.1
  case notHeld => exact fun htype => hunsubscribe htype ▸ (unsubscribe_replies s e).2.2

end Session

/-! ### What is started -/

/-- What a session admits has the service that it needs, since `availability` asks for it. -/
theorem Session.Admits.serve {services : Services} {s : Session} {stream : Stream}
    (h : s.Admits services stream) : services.Serve stream.name := by
  by_contra hnot
  obtain ⟨rejection, hreject, -⟩ := availability_of_not_serve (s := s) hnot
  rw [h.available] at hreject
  cases hreject

namespace Client

/-- **What a session is about to start has the service that it needs.** `World.start` does not look
at the services again, and by this it need not. -/
def Provided (services : Services) (c : Client) : Prop :=
  ∀ r stream interval, c.pending = some r → r.start = some (stream, interval) →
    services.Serve stream.name

/-- Only a decision puts something up to be started, and it does so for what `Session.Admits`. All
other changes leave the reply that waits as it is, or take it away. -/
theorem Change.provided {services : Services} {broken : Prop} {c c' : Client}
    {cancels : Option Token} (h : c.Change services broken cancels c')
    (hprovided : c.Provided services) : c'.Provided services := by
  intro r stream interval pending starts
  cases h with
  -- Only a decision puts something there that is about to start, and the service was asked for
  -- first.
  | adjust same => exact hprovided r stream interval (same.pending.symm.trans pending) starts
  | decide r' idle admitted =>
    obtain rfl := Option.some.inj pending
    exact (admitted stream interval starts).serve
  | stop r' idle held nothing =>
    obtain rfl := Option.some.inj pending
    rw [nothing] at starts
    cases starts
  | answer | start => cases pending
  | retire | close | finish | breakDown => exact hprovided r stream interval pending starts

/-- That what is about to be started has its service, as a property of every client; at its
connection nothing is about to be started. -/
theorem lasting_provided (services : Services) (broken : Prop) :
    Lasting services broken (Provided services) where
  connected _ _ := nofun
  kept h hprovided := h.provided hprovided

end Client

/-- **Nothing is started without the service that it needs,** whatever happened to the agent before.
What a session may use never changes (`Changes.services`), so what was there at the decision is
there at the start. -/
theorem World.provided_history (services : Services) (events : List Happening) {conn : ConnId}
    {c : Client}
    (found : (({ services := services } : World).history events).client? conn = some c) :
    c.Provided services :=
  (history_changes { services := services } events).clients
    (Client.lasting_provided services True) nofun found

namespace World

/-- **A session is given a message,** as such or in a frame. Both lead to `Session.decide`. -/
inductive Gives (conn : ConnId) (e : Envelope) : Action → Prop where
  | message : Gives conn e (.dispatch conn e)
  | frame {bytes : List UInt8} (read : Envelope.ofBytes bytes = .ok e) :
    Gives conn e (.frame conn bytes)

/-- A session that is given a message is about to send what it decides on, be the message in a frame
or decoded already. -/
theorem Gives.pending {w : World} {conn : ConnId} {c : Client} {e : Envelope} {a : Action}
    (h : Gives conn e a) (found : w.client? conn = some c) (idle : c.isIdle = true) :
    ∃ c' r, (w.step a).client? conn = some c' ∧ c'.pending = some r ∧
      r.message = (c.session.decide w.services e).reply e.id := by
  cases h with
  | message =>
    obtain ⟨c', found', -, ⟨start, hpending⟩, -⟩ :=
      handle_pending found idle fun s => (s.decide w.services e, e.id)
    exact ⟨c', _, found', hpending, rfl⟩
  | frame read =>
    obtain ⟨c', found', -, ⟨start, hpending⟩, -⟩ :=
      handle_pending found idle (·.decideFrame w.services _)
    refine ⟨c', _, found', hpending, ?_⟩
    rw [Session.decideFrame, read]

/-- **Admission is exact.** Whatever services there are and whatever happened to the agent before, a
session that is given a message for or against a stream is about to send the reply that the
conditions on its payload and on the streams that it is subscribed to settle. What it is going to
start after that has the service that it needs. -/
theorem admission_history (services : Services) (events : List Happening) {conn : ConnId}
    {c : Client}
    (found : (({ services := services } : World).history events).client? conn = some c)
    (idle : c.isIdle = true) {e : Envelope} {a : Action} (given : Gives conn e a) :
    ∃ c' r, ((({ services := services } : World).history events).step a).client? conn = some c' ∧
      c'.pending = some r ∧ Admission services c.session.keys e r.message ∧
      ∀ stream interval, r.start = some (stream, interval) → services.Serve stream.name := by
  have hchanges := history_changes { services := services } events
  have hservices : (({ services := services } : World).history events).services = services :=
    hchanges.services
  have hbooks : c.Books := ((hchanges.sound (.services services)).client found).books
  obtain ⟨c', r, found', hpending, hmessage⟩ := given.pending found idle
  refine ⟨c', r, found', hpending, ?_, fun stream interval starts => ?_⟩
  · rw [hmessage, hservices]
    exact Session.admission_decide services hbooks.streams e
  · -- the session decides in the last step of a history
    have hlater : (({ services := services } : World).history events).step a =
        ({ services := services } : World).history (events ++ [.act a]) := by
      rw [history, history, List.foldl_append]
      rfl
    rw [hlater] at found'
    exact provided_history services (events ++ [.act a]) found' r stream interval hpending starts

/-- The client that has as many streams as it may asks for the output of one more container. Only
the last condition is not met, and it is told so. -/
theorem admission_greed :
    let services : Services := { limits := { maxLogStreams := 1, maxStatsStreams := 0 } }
    let request : Request := ⟨"logs", some "b", none⟩
    ∃ c c' r, (({ services } : World).history greed).client? 0 = some c ∧ c.isIdle = true ∧
      (Envelope.of .subscribe request.toJson).FailsFirst services c.session.keys .room ∧
      ((({ services } : World).history greed).step
        (.dispatch 0 (.of .subscribe request.toJson))).client? 0 = some c' ∧
      c'.pending = some r ∧ ∃ message, r.message = Envelope.error .limitExceeded message := by
  intro services request
  have hclient : ((({ services } : World).history greed).client? 0).map
      (fun c => (c.session.subscriptions.map (·.stream), c.isIdle)) =
        some ([.logs ⟨"a", by decide⟩, .metrics], true) := by decide
  obtain ⟨c, found, heq⟩ := Option.map_eq_some_iff.mp hclient
  obtain ⟨hstreams, idle⟩ := by simpa only [Prod.mk.injEq] using heq
  have hkeys : c.session.keys = {.logs ⟨"a", by decide⟩, .metrics} := by
    rw [Session.keys, hstreams]
    rfl
  have hdecodes : (Envelope.of .subscribe request.toJson).payloadAs Request.decoder =
      .ok request := Request.lossless.decodes request
  have hmeans : ∀ stream, request.Means stream → stream = .logs ⟨"b", by decide⟩ := by
    intro stream h
    have hrequest : Stream.ofRequest request = .ok (.logs ⟨"b", by decide⟩) := by rfl
    exact Except.ok.inj ((Stream.ofRequest_eq_ok_iff.mpr h).symm.trans hrequest)
  have hfirst : (Envelope.of .subscribe request.toJson).FailsFirst services c.session.keys
      .room := by
    rw [hkeys]
    simp only [Envelope.FailsFirst, Envelope.passes_of_ok hdecodes]
    refine ⟨fun h => ?_, fun earlier hearlier => ?_⟩
    · -- the output of one container is followed already, and no more may be
      have hroom : (Finset.filter (fun key : Stream => key.name = .logs)
          {.logs ⟨"a", by decide⟩, .metrics}).card < 1 :=
        h (.logs ⟨"b", by decide⟩) (Stream.ofRequest_eq_ok_iff.mp rfl) 1 rfl
      exact absurd hroom (by decide)
    · cases earlier with
      | decodes => trivial
      | stream => exact ⟨.logs, rfl⟩
      | container => exact fun _ _ _ => ⟨"b", rfl, by decide⟩
      | reference => exact fun _ _ _ id hid => ⟨⟨"b", by decide⟩, Option.some.inj hid⟩
      | absent =>
        intro stream h
        rw [hmeans stream h]
        decide
      | service =>
        intro stream h
        rw [hmeans stream h]
        rfl
      | room => exact absurd hearlier (by decide)
  obtain ⟨c', r, found', hpending, hadmission, -⟩ := admission_history services greed found idle
    (Gives.message (e := Envelope.of .subscribe request.toJson))
  obtain ⟨message, hmessage⟩ := hadmission.refused (Envelope.type?_of .subscribe _) .room hfirst
  exact ⟨c, c', r, found, idle, hfirst, found', hpending, message, hmessage⟩

end World

end Lookout
