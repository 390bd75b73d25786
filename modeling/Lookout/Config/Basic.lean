import Lookout.Json.Value
import Lookout.Limits
import Lookout.Net.SocketAddress

/-!
# The configuration

Where the agent listens, which token its clients must present, how it logs, how long it waits before
it subscribes to the daemon's events anew, and the limits of its streams.
-/

namespace Lookout

open Json (Value)

/-- How the agent's own log is written. -/
inductive LogFormat where
  | pretty
  | json
  deriving DecidableEq

/-- The words that the option takes. -/
def LogFormat.choices : List (String × LogFormat) := [("pretty", pretty), ("json", json)]

/-- What a format is called when it is shown. -/
def LogFormat.title : LogFormat → String
  | pretty => "Pretty"
  | json => "Json"

/-- The address to listen on when none is given. -/
def defaultListen : SocketAddress := .v4 [0, 0, 0, 0] 8420

/-- The configuration of the agent. -/
structure Config where
  listen : SocketAddress := defaultListen
  /-- The token that clients must present. -/
  token : String := ""
  logFormat : LogFormat := .json
  /-- How long to wait, in milliseconds, before subscribing to events anew. -/
  reconnectDelay : UInt64 := 2000
  limits : Limits := {}
  deriving DecidableEq

/-- The limits as a JSON object. -/
def Limits.toJson (l : Limits) : Value :=
  .object
    [("max_log_streams", .ofUInt64 l.maxLogStreams),
      ("max_stats_streams", .ofUInt64 l.maxStatsStreams),
      ("default_interval_secs", .ofUInt64 l.defaultInterval),
      ("max_interval_secs", .ofUInt64 l.maxInterval),
      ("log_tail_lines", .ofUInt64 l.logTail),
      ("max_log_frame_bytes", .ofUInt64 l.maxLogFrame)]

/-- The configuration as a JSON object. -/
def Config.toJson (c : Config) : Value :=
  .object
    [("listen", .string c.listen.text), ("token", .string c.token),
      ("log_format", .string c.logFormat.title),
      ("event_reconnect_delay_ms", .ofUInt64 c.reconnectDelay),
      ("limits", c.limits.toJson)]

end Lookout
