/-!
# Names on the wire

Every message has a type and every error a code; both travel as fixed names. `choices` lists the
names with their meaning, and a name is looked up in that list alone. An `error` message of the
agent names its code from a table of its own (`ErrorCode.name`); where a payload is decoded, the
names are made from the words of the codes (`ErrorCode.spelling`).
-/

namespace Lookout

/-- The types of messages. -/
inductive MessageType where
  | subscribe
  | unsubscribe
  /-- A client asks for a sign of life. -/
  | ping
  /-- A request for or against a stream was granted. -/
  | subscribed
  | pong
  /-- A request was rejected or a stream failed. -/
  | error
  /-- A snapshot of the host's metrics. -/
  | metrics
  | containerEvent
  /-- A line of a container's output. -/
  | logLine
  /-- A sample of a container's use of processor and memory. -/
  | containerStats
  deriving DecidableEq

namespace MessageType

/-- The name of a type. -/
def name : MessageType → String
  | subscribe => "subscribe"
  | unsubscribe => "unsubscribe"
  | ping => "ping"
  | subscribed => "subscribed"
  | pong => "pong"
  | error => "error"
  | metrics => "metrics"
  | containerEvent => "container_event"
  | logLine => "log_line"
  | containerStats => "container_stats"

/-- All types, those that the agent sends and those that clients send. -/
def all : List MessageType :=
  [subscribe, unsubscribe, ping, subscribed, pong, error, metrics, containerEvent, logLine,
    containerStats]

/-- The names of the types, each with the type that it stands for. -/
def choices : List (String × MessageType) := all.map fun t => (t.name, t)

/-- The type of a name, if it is one. -/
def ofName? (name : String) : Option MessageType := choices.lookup name

@[simp] theorem ofName?_name (t : MessageType) : ofName? t.name = some t := by
  cases t <;> decide

end MessageType

/-- The codes of errors. -/
inductive ErrorCode where
  /-- The type of a message is none that a client sends. -/
  | unknownType
  /-- A message or its payload cannot be decoded. -/
  | badPayload
  | unknownStream
  /-- The stream is already subscribed to. -/
  | alreadySubscribed
  /-- The stream is not subscribed to. -/
  | notSubscribed
  /-- A service that the stream needs is not there. -/
  | notAvailable
  /-- A container's stream was asked for without a container. -/
  | missingContainerId
  /-- There are as many streams of the kind as there may be. -/
  | limitExceeded
  /-- A container's output cannot be followed. -/
  | logStreamError
  /-- A container's samples cannot be read. -/
  | statsStreamError
  deriving DecidableEq

/-- A name of capitalised words as one in capitals, with an underscore before each word but the
first. -/
def screamingSnake (name : String) : String :=
  match name.toList with
  | [] => ""
  -- Each capital begins a word, so that one stands for a letter and a line before it.
  | c :: rest =>
    String.ofList (c.toUpper :: rest.flatMap fun c => if c.isUpper then ['_', c] else [c.toUpper])

namespace ErrorCode

/-- The name of a code in the agent's own messages. -/
def name : ErrorCode → String
  | unknownType => "UNKNOWN_TYPE"
  | badPayload => "BAD_PAYLOAD"
  | unknownStream => "UNKNOWN_STREAM"
  | alreadySubscribed => "ALREADY_SUBSCRIBED"
  | notSubscribed => "NOT_SUBSCRIBED"
  | notAvailable => "NOT_AVAILABLE"
  | missingContainerId => "MISSING_CONTAINER_ID"
  | limitExceeded => "LIMIT_EXCEEDED"
  | logStreamError => "LOG_STREAM_ERROR"
  | statsStreamError => "STATS_STREAM_ERROR"

/-- The words of a code, each with a capital. -/
def words : ErrorCode → String
  | unknownType => "UnknownType"
  | badPayload => "BadPayload"
  | unknownStream => "UnknownStream"
  | alreadySubscribed => "AlreadySubscribed"
  | notSubscribed => "NotSubscribed"
  | notAvailable => "NotAvailable"
  | missingContainerId => "MissingContainerId"
  | limitExceeded => "LimitExceeded"
  | logStreamError => "LogStreamError"
  | statsStreamError => "StatsStreamError"

/-- The name of a code in a payload that is encoded or decoded. -/
def spelling (c : ErrorCode) : String := screamingSnake c.words

/-- All codes. -/
def all : List ErrorCode :=
  [unknownType, badPayload, unknownStream, alreadySubscribed, notSubscribed, notAvailable,
    missingContainerId, limitExceeded, logStreamError, statsStreamError]

/-- The names by which a payload is decoded. -/
def choices : List (String × ErrorCode) := all.map fun c => (c.spelling, c)

end ErrorCode

end Lookout
