import Lookout.Limits
import Lookout.Protocol.Stream

/-!
# Sessions

A session knows which streams its client is subscribed to. Every subscription has a generation, a
number that no other has, so that the end of an old one is never taken for the end of a new one
under the same key. What a message leads to is decided on the session alone (`Session.decide`); the
verdict says what to do and determines the reply.

* `Verdict` — what a message leads to, and `Verdict.reply` — the reply to it;
* `Rejection` — why a request is not granted, with its code and wording;
* `Session.decide` — the verdict on a message;
* `Session.retire` — forgetting a stream that has ended.
-/

namespace Lookout

open Json (DecodeError)

/-- What a session may use. -/
structure Services where
  limits : Limits := {}
  hub : Bool := true
  docker : Bool := true

/-- A stream that is subscribed to. -/
structure Subscription where
  stream : Stream
  /-- The number of the subscription. A counter of 64 bits goes as far as `Session.nextGeneration`
  says, so a natural number stands for it. -/
  generation : Nat
  deriving DecidableEq

/-- What a session knows. -/
structure Session where
  /-- The subscriptions, the oldest first, at most one for each stream. -/
  subscriptions : List Subscription := []
  /-- The number of the next subscription. It is counted in 64 bits, and a session is meant that has
  started fewer than `2 ^ 64` streams: with one start in each nanosecond this takes more than five
  hundred years. Up to there the counter does not come round, and it is this number. -/
  nextGeneration : Nat := 0
  deriving DecidableEq

/-! ### Rejections -/

/-- Why a message is not granted. -/
inductive Rejection where
  | badMessage (e : DecodeError)
  /-- Its type is none that a client sends. -/
  | unknownType (kind : String)
  /-- What is to be subscribed to cannot be decoded. -/
  | badSubscribe (e : DecodeError)
  /-- What is to be given up cannot be decoded. -/
  | badUnsubscribe (e : DecodeError)
  | unresolved (reason : Stream.Unresolved) (stream : String)
  /-- The stream is subscribed to already. -/
  | alreadySubscribed (stream : Stream)
  | noHub
  | noDocker
  /-- There are as many streams of the kind as there may be. -/
  | limitExceeded (cap : Nat) (label : String)
  /-- The stream is not subscribed to. -/
  | notSubscribed (stream : String)
  deriving DecidableEq

namespace Rejection

/-- The code by which a client tells rejections apart. That a request cannot be decoded has one
code, whatever kind of request it was. -/
def code : Rejection → ErrorCode
  | badMessage _ | badSubscribe _ | badUnsubscribe _ => .badPayload
  | unknownType _ => .unknownType
  | unresolved reason _ => reason.code
  | alreadySubscribed _ => .alreadySubscribed
  | noHub | noDocker => .notAvailable
  | limitExceeded _ _ => .limitExceeded
  | notSubscribed _ => .notSubscribed

/-- The words of a rejection. Those of `badMessage`, `badSubscribe` and `badUnsubscribe` end with
what the decoder found wrong. -/
def message : Rejection → String
  | badMessage e => "invalid message: " ++ e.message
  | unknownType kind => "unknown message type: " ++ kind
  | badSubscribe e => "invalid subscribe payload: " ++ e.message
  | badUnsubscribe e => "invalid unsubscribe payload: " ++ e.message
  -- A stream is named as the client named it, not by its key.
  | unresolved .unknownStream stream => "unknown stream: " ++ stream
  | unresolved .missingContainerId stream => "container_id is required for " ++ stream
  | unresolved .invalidContainerId _ => "invalid container_id"
  -- Here it is the key, which tells the container too.
  | alreadySubscribed stream => "already subscribed to " ++ stream.key
  | noHub => "event hub not available"
  | noDocker => "docker not available"
  | limitExceeded cap label =>
    "max " ++ toString cap ++ " concurrent " ++ label ++ " subscriptions"
  | notSubscribed stream => "not subscribed to " ++ stream

/-- The message that tells a client of a rejection. -/
def toMessage (r : Rejection) : Envelope := .error r.code r.message

end Rejection

/-! ### Verdicts -/

/-- What a message leads to. -/
inductive Verdict where
  | pong
  | reject (r : Rejection)
  /-- A new subscription, with the interval that the client wants. -/
  | start (stream : Stream) (interval : Option Int64)
  /-- The end of a subscription, which the client called by this name. -/
  | stop (stream : Stream) (name : String)
  deriving DecidableEq

/-- The reply to a message with an identifier. A sign of life carries none. -/
def Verdict.reply (id : Option String) : Verdict → Envelope
  | pong => .bare .pong
  | reject r => r.toMessage.withId id
  | start stream _ => (Envelope.of .subscribed stream.ack.toJson).withId id
  -- The answer to both requests has one type; this one repeats the name that was asked for.
  | stop _ name =>
    (Envelope.of .subscribed (UnsubscribeAck.toJson ⟨name, "unsubscribed"⟩)).withId id

namespace Session

/-- The subscription to a stream, if there is one. -/
def find? (s : Session) (stream : Stream) : Option Subscription :=
  s.subscriptions.find? fun sub => sub.stream = stream

/-- Whether the stream is subscribed to. -/
def has (s : Session) (stream : Stream) : Bool := (s.find? stream).isSome

/-- How many streams of a kind are subscribed to. -/
def countOf (s : Session) (name : StreamName) : Nat :=
  s.subscriptions.countP fun sub => sub.stream.name = name

/-- The service and the room that a new subscription to a stream needs. -/
def availability (services : Services) (s : Session) (stream : Stream) : Except Rejection Unit :=
  -- First whether there is a daemon, then whether there is room.
  let capped := fun (cap : UInt64) (label : String) =>
    if !services.docker then .error .noDocker
    else if s.countOf stream.name < cap.toNat then .ok ()
    else .error (.limitExceeded cap.toNat label)
  match stream with
  -- The host needs no service, and its streams are not counted.
  | .metrics => .ok ()
  | .events => if services.hub then .ok () else .error .noHub
  | .logs _ => capped services.limits.maxLogStreams "log"
  | .containerStats _ => capped services.limits.maxStatsStreams "container stats"

/-- The stream that a request for a new subscription means, if it is granted. -/
def grant (services : Services) (s : Session) (r : Request) : Except Rejection Stream :=
  match Stream.ofRequest r with
  -- The order of the three checks is that of the replies: a stream that is none, one that is there
  -- already, one that cannot be had.
  | .error reason => .error (.unresolved reason r.stream)
  | .ok stream =>
    if s.has stream then .error (.alreadySubscribed stream)
    else
      match s.availability services stream with
      | .error r => .error r
      | .ok () => .ok stream

/-- The subscribed stream that a request means, if there is one. -/
def resolve (s : Session) (r : Request) : Option Stream :=
  match Stream.ofRequest r with
  -- Why the stream cannot be told does not matter here: it is not subscribed to.
  | .error _ => none
  | .ok stream => if s.has stream then some stream else none

/-- What a request to subscribe leads to. -/
def decideSubscribe (services : Services) (s : Session) (e : Envelope) : Verdict :=
  match e.payloadAs Request.decoder with
  | .error err => .reject (.badSubscribe err)
  | .ok r =>
    match s.grant services r with
    | .error rejection => .reject rejection
    | .ok stream => .start stream r.intervalSeconds

/-- What a request to unsubscribe leads to. -/
def decideUnsubscribe (s : Session) (e : Envelope) : Verdict :=
  match e.payloadAs Request.decoder with
  | .error err => .reject (.badUnsubscribe err)
  | .ok r =>
    match s.resolve r with
    | none => .reject (.notSubscribed r.stream)
    | some stream => .stop stream r.stream

/-- **What a message leads to.** The order of the checks is that of the replies: the type, the
payload, the stream, whether it is there, whether there is room for it. -/
def decide (services : Services) (s : Session) (e : Envelope) : Verdict :=
  match e.type? with
  | some .subscribe => s.decideSubscribe services e
  | some .unsubscribe => s.decideUnsubscribe e
  | some .ping => .pong
  -- Types that only the agent sends are as unknown as any other name.
  | _ => .reject (.unknownType e.kind)

/-- What the bytes of a frame lead to, and the identifier that the reply carries. -/
def decideFrame (services : Services) (s : Session) (frame : List UInt8) :
    Verdict × Option String :=
  match Envelope.ofBytes frame with
  | .ok e => (s.decide services e, e.id)
  -- Without an envelope there is no identifier to answer to.
  | .error err => (.reject (.badMessage err), none)

/-- Adds a subscription, under the next number. -/
def insert (s : Session) (stream : Stream) : Session :=
  -- The counter is never set back, so that a number is never used again.
  { subscriptions := s.subscriptions ++ [⟨stream, s.nextGeneration⟩]
    nextGeneration := s.nextGeneration + 1 }

/-- Removes the subscription to a stream. -/
def erase (s : Session) (stream : Stream) : Session :=
  { s with subscriptions := s.subscriptions.filter fun sub => sub.stream ≠ stream }

/-- Forgets a subscription that has ended; the end of an older one under the same key is ignored. -/
def retire (s : Session) (ended : Subscription) : Session :=
  -- The stream alone would not tell an old subscription from a new one to the same stream.
  { s with subscriptions := s.subscriptions.filter fun sub => sub ≠ ended }

end Session

end Lookout
