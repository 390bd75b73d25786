import Lookout.Http.Message

/-!
# Who may talk to the agent

A client presents its token in the `Authorization` header, as `Bearer` and the token with one space
between. The scheme may be written in any case; the token must be the configured one exactly.
-/

namespace Lookout

/-- The token of a bearer credential: what stands behind the first space, if the scheme stands
before it. -/
def bearerToken (credential : List Char) : Option (List Char) :=
  match credential.span (· != ' ') with
  -- Only the first space separates; any further one is part of the token.
  | (scheme, _ :: token) => if sameUpToCase scheme "bearer".toList then some token else none
  | (_, []) => none

/-- Why a request is refused. -/
inductive Refusal where
  | missingHeader
  /-- The credential is not the token. -/
  | invalidToken
  deriving DecidableEq

/-- What is said of a refusal. It does not tell what was wrong with the token. -/
def Refusal.message : Refusal → String
  | missingHeader => "missing authorization header"
  | invalidToken => "invalid or missing bearer token"

/-- Compares the credential with the configured token. -/
def authorize (headers : Headers) (expected : String) : Except Refusal Unit :=
  match headers.value? "authorization" with
  | none => .error .missingHeader
  | some value =>
    -- A value that is no text has no credential, and is refused as a wrong one.
    if (headerText? value).bind bearerToken = some expected.toList then .ok ()
    else .error .invalidToken

end Lookout
