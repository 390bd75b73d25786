import Lookout.Agent.Session
import Lookout.Http.Api
import Lookout.Json.Decoder

/-!
# What a refused request tells

A response can tell of the agent only what the agent asked for to make it: what the host is, the
version of the container daemon, a snapshot of the host, or a session on the socket. So to see what
a client without the token learns, it is enough to see what its requests make the agent ask for
(`State.respond_congr`). They make it ask for nothing (`State.calls_of_refused`), on every path and
with every method, and of two agents with the same token none can be told from the other.

* `State` — all that a request may come to know of;
* `Call`, `State.calls` — what the agent asks for because of a request;
* `State.refused_alike` — a request that is refused tells nothing.
-/

namespace Lookout.Api

open Json (Decoder)

/-- All that the interface has to do with: the token, the services of the sessions, and what comes
of asking others. -/
structure State where
  token : String
  limits : Limits := {}
  /-- Whether there is a hub for the events of containers. -/
  hub : Bool := true
  /-- The container daemon, if there is one, by what it says of its version. -/
  docker : Option (Except Failure String) := none
  /-- What comes of collecting a snapshot of the host. -/
  snapshot : Except Failure HostMetrics
  host : Description

/-- What the agent asks for. -/
inductive Call where
  /-- What the host is. -/
  | host
  /-- The version of the container daemon. -/
  | version
  /-- A snapshot of the host. -/
  | snapshot
  /-- A session on the socket. -/
  | session
  deriving DecidableEq

/-- What is asked for to carry out a decision. -/
def Decision.calls (hasDocker : Bool) : Decision → List Call
  | respond _ => []
  | describe => .host :: if hasDocker then [.version] else []
  | collect => [.snapshot]
  | serve => [.session]

/-- The code in the body of a response, if the body is a JSON object with one. -/
def codeOf (body : String) : Option String :=
  match Decoder.value.decodeDocument (.read (Utf8.encode body.toList)) with
  | .ok (.object members) =>
    match Json.Members.get? members "code" with
    | some (Json.Value.string code) => some code
    | _ => none
  | _ => none

/-- Both refusals have the same code in their body, `UNAUTHORIZED`. -/
theorem codeOf_unauthorized (refusal : Refusal) :
    codeOf (unauthorized refusal).body = some "UNAUTHORIZED" := by
  cases refusal with
  | missingHeader => decide +kernel
  | invalidToken => decide +kernel

/-- The paths that are behind the token. -/
def guardedPaths : List String := (routes.filter fun r => !r.isPublic).map Route.path

example : guardedPaths = ["/api/v1/agent/info", "/api/v1/system/metrics", "/api/v1/ws"] := by decide

/-- A path behind the token has a route, and one that is not public; by the list of
`guardedPaths`. -/
theorem exists_route_of_guarded {path : String} (guarded : path ∈ guardedPaths) :
    ∃ route, route? path = some route ∧ route.isPublic = false := by
  obtain ⟨route, hroute, rfl⟩ := List.mem_map.mp guarded
  have hguarded : route.isPublic = false := by simpa using (List.mem_filter.mp hroute).2
  refine ⟨route, ?_, hguarded⟩
  cases route <;> decide

namespace State

variable {s s' : State} {request : HttpRequest} {upgradable : Bool}

/-- What the sessions of the socket work with. -/
def services (s : State) : Services :=
  { limits := s.limits, hub := s.hub, docker := s.docker.isSome }

/-- What a handler may ask for, as this state knows it. -/
def consulted (s : State) : Consulted :=
  { description := s.host, dockerVersion := s.docker.bind (·.toOption), snapshot := s.snapshot }

/-- The response to a request. -/
def respond (s : State) (request : HttpRequest) (upgradable : Bool) : HttpResponse :=
  Api.respond s.token s.consulted request upgradable

/-- What a request makes the agent ask for. -/
def calls (s : State) (request : HttpRequest) (upgradable : Bool) : List Call :=
  (decide s.token request upgradable).calls s.docker.isSome

/-- Two states give the same when they are asked for something. -/
def Agree (s s' : State) : Call → Prop
  | .host => s'.host = s.host
  | .version => s'.docker = s.docker
  | .snapshot => s'.snapshot = s.snapshot
  | .session => s'.services = s.services

/-! ### What a response depends on -/

/-- With a daemon the version is asked for, so `Agree` at that call can be used. -/
theorem version_mem_calls {hasDocker : Bool} (h : hasDocker = true) :
    Call.version ∈ Decision.describe.calls hasDocker := by
  rw [Decision.calls, if_pos h]
  exact List.mem_cons_of_mem _ List.mem_cons_self

/-- **A response tells of nothing but what was asked for:** two states that `Agree` on the calls of
either of them respond alike. Both decide alike, as a decision is made from the token and the
request. -/
theorem respond_congr (token : s'.token = s.token)
    (agree : ∀ call, call ∈ s.calls request upgradable ∨ call ∈ s'.calls request upgradable →
      s.Agree s' call) : s'.respond request upgradable = s.respond request upgradable := by
  -- Only what is called matters, and this the two states agree on.
  have hanswer : (decide s.token request upgradable).answer s'.consulted =
      (decide s.token request upgradable).answer s.consulted := by
    rw [calls, calls, token] at agree
    cases hdecide : decide s.token request upgradable with
    | respond r => rfl
    | serve => rfl
    | collect =>
      rw [hdecide] at agree
      have hsnapshot : s'.snapshot = s.snapshot := agree .snapshot (Or.inl List.mem_cons_self)
      rw [Decision.answer, Decision.answer, consulted, consulted, hsnapshot]
    | describe =>
      rw [hdecide] at agree
      have hhost : s'.host = s.host := agree .host (Or.inl List.mem_cons_self)
      have hdocker : s'.docker = s.docker := by
        by_cases hsome : s.docker.isSome = true ∨ s'.docker.isSome = true
        · exact agree .version (hsome.imp version_mem_calls version_mem_calls)
        · -- neither has a daemon to ask
          obtain ⟨hnone, hnone'⟩ := not_or.mp hsome
          rw [Option.not_isSome_iff_eq_none] at hnone hnone'
          rw [hnone, hnone']
      rw [Decision.answer, Decision.answer, consulted, consulted, hhost, hdocker]
  rw [respond, respond, Api.respond, Api.respond, token, hanswer]

/-! ### Refused requests -/

/-- A refused request is answered at once: a path that nobody may use without the token is refused,
and what is left is the health of the agent and paths that nobody knows. -/
theorem decide_of_refused {token : String} {refusal : Refusal}
    (refused : authorize request.headers token = .error refusal) :
    ∃ r, decide token request upgradable = .respond r := by
  unfold decide
  -- The path is looked up first: an unknown one is answered before anything is checked.
  cases hroute : route? request.path with
  | none => exact ⟨_, rfl⟩
  | some route =>
    cases route with
    | health =>
      simp only [Route.isPublic, if_true]
      split
      · exact ⟨_, rfl⟩
      · exact ⟨_, rfl⟩
    -- Behind the check nothing is reached.
    | agentInfo | systemMetrics | socket =>
      simp only [Route.isPublic, Bool.false_eq_true, if_false, refused]
      exact ⟨_, rfl⟩

/-- A request that is refused asks nobody, as `decide_of_refused` answers it at once. -/
theorem calls_of_refused {refusal : Refusal}
    (refused : authorize request.headers s.token = .error refusal) :
    s.calls request upgradable = [] := by
  obtain ⟨r, hdecide⟩ : ∃ r, decide s.token request upgradable = .respond r :=
    decide_of_refused refused
  rw [calls, hdecide, Decision.calls]

/-- The response on a path that is not public is `unauthorized refusal`, up to what a method makes
of it: to HEAD the body is left out, and other methods than GET are told which are allowed. -/
theorem respond_of_refused {refusal : Refusal} {route : Route}
    (refused : authorize request.headers s.token = .error refusal)
    (path : route? request.path = some route) (guarded : route.isPublic = false) :
    s.respond request upgradable =
      { unauthorized refusal with
        allow := if request.method = "GET" ∨ request.method = "HEAD" then none
          else some allowedMethods
        body := if request.method = "HEAD" then "" else (unauthorized refusal).body } := by
  rw [respond, Api.respond, decide, path]
  simp only [guarded, Bool.false_eq_true, if_false, refused, Decision.answer]
  split
  · rfl
  · rfl

/-- **A request that is refused tells nothing.** Whatever its method, its path and its headers are,
two agents with the same token give the same response, and neither asks for anything because of it:
without `calls` there is nothing on which `respond_congr` asks them to agree. On one of the
`guardedPaths` the response is a 401 with the code in its body; to HEAD it is the same without the
body. -/
theorem refused_alike {refusal : Refusal} (token : s'.token = s.token)
    (refused : authorize request.headers s.token = .error refusal) :
    s'.respond request upgradable = s.respond request upgradable ∧
      s.calls request upgradable = [] ∧ s'.calls request upgradable = [] ∧
      (request.path ∈ guardedPaths →
        let response := s.respond request upgradable
        response.status = 401 ∧ response.contentType = some "application/json" ∧
          if request.method = "HEAD" then response.body = ""
          else codeOf response.body = some "UNAUTHORIZED") := by
  have hcalls : s.calls request upgradable = [] := calls_of_refused refused
  have hcalls' : s'.calls request upgradable = [] := calls_of_refused (token.symm ▸ refused)
  -- No call is made by either, so that there is nothing to agree on.
  refine ⟨respond_congr token fun call hcall => ?_, hcalls, hcalls', fun guarded => ?_⟩
  · rw [hcalls, hcalls', or_self] at hcall
    cases hcall
  · obtain ⟨route, hroute, hguarded⟩ := exists_route_of_guarded guarded
    intro response
    have hresponse : response = _ := respond_of_refused refused hroute hguarded
    rw [hresponse]
    refine ⟨rfl, rfl, ?_⟩
    split
    · rfl
    · exact codeOf_unauthorized refusal

/-- An agent without a daemon whose host cannot be looked at. -/
def bare : State :=
  { token := "token", snapshot := .error (.metrics "unknown"), host := ⟨"", "", ""⟩ }

/-- With the wrong token, an agent with a daemon cannot be told from one without: the two states
differ in all but the token. -/
theorem refused_alike_wrongToken :
    let known : State :=
      { bare with hub := false, docker := some (.ok "27.3.1"), host := ⟨"a", "b", "c"⟩ }
    let request : HttpRequest :=
      { path := "/api/v1/agent/info"
        headers := [⟨"Authorization", Utf8.encode "Bearer Token".toList⟩] }
    authorize request.headers bare.token = .error .invalidToken ∧
      known.respond request false = bare.respond request false ∧
      bare.calls request false = [] ∧ known.calls request false = [] ∧
      codeOf (bare.respond request false).body = some "UNAUTHORIZED" := by
  intro known request
  have hrefused : authorize request.headers bare.token = .error .invalidToken := rfl
  -- The states differ in all but the token.
  have htoken : known.token = bare.token := rfl
  obtain ⟨hsame, hcalls, hcalls', hguarded⟩ := @refused_alike _ _ _ false _ htoken hrefused
  exact ⟨hrefused, hsame, hcalls, hcalls', (hguarded (by decide)).2.2⟩

/-- **A response to HEAD does not carry the code:** its status is that of the refusal, but there is
no body to read it from. -/
theorem head_without_code :
    let request : HttpRequest := { method := "HEAD", path := "/api/v1/agent/info" }
    authorize request.headers bare.token = .error .missingHeader ∧ request.path ∈ guardedPaths ∧
      ¬((bare.respond request false).status = 401 ∧
        codeOf (bare.respond request false).body = some "UNAUTHORIZED") := by
  intro request
  have hbody : codeOf (bare.respond request false).body = none := by decide +kernel
  refine ⟨rfl, by decide, fun hcoded => ?_⟩
  rw [hbody] at hcoded
  cases hcoded.2

end State

end Lookout.Api
