import Lookout.Container.Id
import Lookout.Protocol.Envelope

/-!
# Streams and the requests for them

A request names a stream and, for the streams of one container, the container. `Stream.ofRequest`
says which stream is meant, or with which code the request fails; `Stream.ack` is the request that
means a stream and nothing else, which is what the agent answers. The text of a stream, its key,
identifies it.
-/

namespace Lookout

open Json (Value Decoder Field Fields)

/-- The payload of `subscribe` and `unsubscribe`, and of the answer to the former. -/
structure Request where
  stream : String := ""
  /-- The container, for the streams of one. -/
  containerId : Option String := none
  /-- How many seconds the client wants between two messages. -/
  intervalSeconds : Option Int64 := none
  deriving DecidableEq

namespace Request

/-- The request as a JSON object; absent members are left out. -/
def toJson (r : Request) : Value :=
  .object (("stream", .string r.stream) ::
    ((r.containerId.map fun id => ("container_id", .string id)).toList ++
      (r.intervalSeconds.map fun n => ("interval_seconds", .ofInt64 n)).toList))

/-- The fields of a request. All of them may be absent. -/
def fields : Fields (String × Option String × Option Int64 × Unit) :=
  .cons ⟨"stream", Decoder.text, some ""⟩
    (.cons ⟨"container_id", Decoder.option Decoder.text, some none⟩
      (.cons ⟨"interval_seconds", Decoder.option Decoder.int64, some none⟩ .nil))

def decoder : Decoder Request :=
  (Fields.record "SubscribePayload" fields).map
    fun (stream, containerId, intervalSeconds, ()) => ⟨stream, containerId, intervalSeconds⟩

end Request

/-- The answer to an `unsubscribe` that was granted. -/
structure UnsubscribeAck where
  /-- The name of the stream, as it was requested. -/
  stream : String
  status : String := "unsubscribed"
  deriving DecidableEq

namespace UnsubscribeAck

/-- The answer as a JSON object. -/
def toJson (a : UnsubscribeAck) : Value :=
  .object [("stream", .string a.stream), ("status", .string a.status)]

def fields : Fields (String × String × Unit) :=
  .cons ⟨"stream", Decoder.text, none⟩ (.cons ⟨"status", Decoder.text, none⟩ .nil)

def decoder : Decoder UnsubscribeAck :=
  (Fields.record "UnsubscribeAck" fields).map fun (stream, status, ()) => ⟨stream, status⟩

end UnsubscribeAck

/-- The kinds of streams, without the container. -/
inductive StreamName where
  /-- The host's metrics, periodically. -/
  | metrics
  | events
  | logs
  /-- Samples of a container, periodically. -/
  | containerStats
  deriving DecidableEq

namespace StreamName

/-- The name of a kind. -/
def text : StreamName → String
  | metrics => "metrics"
  | events => "events"
  | logs => "logs"
  | containerStats => "container_stats"

end StreamName

/-- A stream that a client can subscribe to. -/
inductive Stream where
  | metrics
  | events
  | logs (id : ContainerId)
  | containerStats (id : ContainerId)
  deriving DecidableEq

namespace Stream

/-- The kind of a stream. -/
def name : Stream → StreamName
  | metrics => .metrics
  | events => .events
  | logs _ => .logs
  | containerStats _ => .containerStats

/-- The container of a stream, if it is of one. -/
def containerId : Stream → Option ContainerId
  | metrics | events => none
  | logs id | containerStats id => some id

/-- The key of a stream: its name, and its container after a colon. -/
def key (s : Stream) : String :=
  match s.containerId with
  | none => s.name.text
  | some id => s.name.text ++ ":" ++ id.text

/-- Why a request means no stream. -/
inductive Unresolved where
  /-- There is no stream of this name. -/
  | unknownStream
  /-- The stream needs a container and none is named. -/
  | missingContainerId
  /-- What is named is no container reference. -/
  | invalidContainerId
  deriving DecidableEq

/-- The code of the rejection. A reference that is none is a bad payload. -/
def Unresolved.code : Unresolved → ErrorCode
  | unknownStream => .unknownStream
  | missingContainerId => .missingContainerId
  | invalidContainerId => .badPayload

/-- The container that a request names; an empty text names none. -/
def requestedContainer (r : Request) : Except Unresolved ContainerId :=
  match r.containerId with
  | none => .error .missingContainerId
  | some id =>
    -- An empty text is as good as none, and is told apart from a bad one.
    if id = "" then .error .missingContainerId
    else
      match ContainerId.ofString id with
      | .ok id => .ok id
      | .error _ => .error .invalidContainerId

/-- **The stream that a request means.** What the request says beyond that, the interval or a
container for a stream that has none, is not looked at. -/
def ofRequest (r : Request) : Except Unresolved Stream :=
  if r.stream = StreamName.metrics.text then .ok metrics
  else if r.stream = StreamName.events.text then .ok events
  else if r.stream = StreamName.logs.text then (requestedContainer r).map logs
  else if r.stream = StreamName.containerStats.text then
    (requestedContainer r).map containerStats
  else .error .unknownStream

/-- The request that means the stream and nothing else. -/
def ack (s : Stream) : Request :=
  { stream := s.name.text, containerId := s.containerId.map (·.text) }

end Stream

end Lookout
