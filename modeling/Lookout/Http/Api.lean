import Lookout.Host.Metrics
import Lookout.Failure
import Lookout.Http.Authorization
import Lookout.Text.Search
import Lookout.Text.Utf8

/-!
# The HTTP interface

Four paths are known: the health of the agent, which is public, and behind the token what the agent
is, a snapshot of the host, and the socket on which everything else happens. What is to be done with
a request is decided without looking at any service (`decide`); only the decisions that need one
consult it (`Decision.answer`).
-/

namespace Lookout.Api

open Json (Value)

/-- The known paths. -/
inductive Route where
  | health
  | agentInfo
  | systemMetrics
  | socket
  deriving DecidableEq

/-- The path of a route. -/
def Route.path : Route → String
  | health => "/api/v1/health"
  | agentInfo => "/api/v1/agent/info"
  | systemMetrics => "/api/v1/system/metrics"
  | socket => "/api/v1/ws"

def routes : List Route := [.health, .agentInfo, .systemMetrics, .socket]

/-- The route of a path, which must be the whole path. -/
def route? (path : String) : Option Route :=
  routes.find? fun r => r.path == path

/-- Whether a route needs no token. -/
def Route.isPublic : Route → Bool
  | health => true
  | _ => false

/-- A response with a JSON value. -/
def json (status : Nat) (v : Value) : HttpResponse :=
  { status := status, contentType := some "application/json", body := v.text }

/-- A response with a text. -/
def plain (status : Nat) (text : String) : HttpResponse :=
  { status := status, contentType := some "text/plain; charset=utf-8", body := text }

/-- A response with the message and the code of a failure. -/
def failure (status : Nat) (message code : String) : HttpResponse :=
  json status (.object [("error", .string message), ("code", .string code)])

/-- The response to a request without the token. -/
def unauthorized (r : Refusal) : HttpResponse :=
  failure 401 r.message "UNAUTHORIZED"

def allowedMethods : String := "GET,HEAD"

/-! ### The handshake of the socket -/

/-- Why a request does not open a socket. -/
inductive Handshake where
  | notGet
  | noConnectionUpgrade
  | noUpgrade
  | noKey
  | noVersion
  /-- The connection cannot change its protocol. -/
  | notUpgradable
  deriving DecidableEq

/-- The response to a handshake that failed. -/
def Handshake.response : Handshake → HttpResponse
  | notGet => plain 405 "Request method must be `GET`"
  | noConnectionUpgrade => plain 400 "Connection header did not include 'upgrade'"
  | noUpgrade => plain 400 "`Upgrade` header did not include 'websocket'"
  | noKey => plain 400 "`Sec-WebSocket-Key` header missing"
  | noVersion => plain 400 "`Sec-WebSocket-Version` header did not include '13'"
  | notUpgradable =>
    plain 426 "WebSocket request couldn't be upgraded since no upgrade state was present"

/-- Whether a header holds a small-letter word, in any case. -/
def mentions (headers : Headers) (name word : String) : Bool :=
  match (headers.value? name).bind Utf8.decode? with
  | some text => Text.occursIn word.toList (lowerCase text)
  | none => false

/-- Whether a header is a word, in any case. -/
def equals (headers : Headers) (name word : String) : Bool :=
  match (headers.value? name).bind Utf8.decode? with
  | some text => sameUpToCase text word.toList
  | none => false

/-- Checks a handshake; the first thing that is wrong counts. -/
def handshake (r : HttpRequest) (upgradable : Bool) : Except Handshake Unit :=
  -- The order is that of the responses: the method, what the headers say, what the connection can
  -- do.
  if r.method ≠ "GET" then .error .notGet
  else if !mentions r.headers "connection" "upgrade" then .error .noConnectionUpgrade
  else if !equals r.headers "upgrade" "websocket" then .error .noUpgrade
  else if (r.headers.value? "sec-websocket-key").isNone then .error .noKey
  else if !equals r.headers "sec-websocket-version" "13" then .error .noVersion
  else if !upgradable then .error .notUpgradable
  else .ok ()

/-! ### Decisions -/

/-- What is to be done with a request. -/
inductive Decision where
  | respond (r : HttpResponse)
  /-- The agent's description is asked for. -/
  | describe
  /-- A snapshot of the host is asked for. -/
  | collect
  | serve
  deriving DecidableEq

/-- What a route does with a request that may use it. -/
def Route.decide (r : Route) (request : HttpRequest) (upgradable : Bool) : Decision :=
  match r with
  | health => .respond (json 200 (.object [("status", .string "ok")]))
  | agentInfo => .describe
  | systemMetrics => .collect
  | socket =>
    match handshake request upgradable with
    | .ok () => .serve
    | .error h => .respond h.response

/-- What is to be done with a request. An unknown path comes before the token, the token before the
method. -/
def decide (token : String) (request : HttpRequest) (upgradable : Bool) : Decision :=
  match route? request.path with
  | none => .respond { status := 404 }
  | some route =>
    -- A method that is not known matters only behind the token.
    let known := request.method = "GET" ∨ request.method = "HEAD"
    let allow := if known then none else some allowedMethods
    let refused := if route.isPublic then none else
      match authorize request.headers token with
      | .ok () => none
      | .error refusal => some refusal
    match refused with
    -- The methods are told even to those who are refused.
    | some refusal => .respond { unauthorized refusal with allow := allow }
    | none =>
      if known then route.decide request upgradable
      else .respond { status := 405, allow := allow }

/-- What the agent is. -/
structure Description where
  hostname : String
  os : String
  arch : String

/-- The version of the agent. -/
def version : String := "0.2.0"

/-- The description as a JSON object. A daemon that is not there, or does not tell its version,
leaves the version empty. -/
def Description.toJson (d : Description) (dockerVersion : Option String) : Value :=
  .object
    [("version", .string version), ("hostname", .string d.hostname), ("os", .string d.os),
      ("arch", .string d.arch), ("docker_version", .string (dockerVersion.getD ""))]

/-- What a response needs of the services. -/
structure Consulted where
  description : Description
  /-- The version that the daemon tells, if it does. -/
  dockerVersion : Option String
  /-- What came of collecting a snapshot. -/
  snapshot : Except Failure HostMetrics

/-- The response that a decision makes; opening a socket has none of its own. -/
def Decision.answer (c : Consulted) : Decision → HttpResponse
  | respond r => r
  | describe => json 200 (c.description.toJson c.dockerVersion)
  | collect =>
    match c.snapshot with
    | .ok m => json 200 m.toJson
    | .error _ => failure 500 "failed to collect system metrics" "METRICS_ERROR"
  | serve => { status := 101 }

/-- The response to a request; one to HEAD has no body. -/
def respond (token : String) (c : Consulted) (request : HttpRequest) (upgradable : Bool) :
    HttpResponse :=
  -- The body goes last, so that all else is as for a request that wants one.
  let response := (decide token request upgradable).answer c
  if request.method = "HEAD" then { response with body := "" } else response

end Lookout.Api
