import SessionGateway.Cors
import SessionGateway.Http.Refusal

/-!
# The info endpoint

What a client asks before it picks a transport: whether WebSocket is
available, whether it needs cookies, and some entropy.  The answer may differ
on every request, so it must not be kept; the answer to a preflight may.
-/

namespace SessionGateway.Info

open Http

/-- What an answer depends on besides request and settings. -/
structure Surroundings where
  /-- Seconds since 1970. -/
  now : Nat
  /-- Fresh entropy, a signed number of thirty-two bits. -/
  entropy : Int32
  deriving DecidableEq

/-- The media type of the answer. -/
def contentType : HeaderValue :=
  HeaderValue.literal "application/json;charset=UTF-8"

/-- The capabilities of a service. -/
def body (settings : ServiceSettings) (entropy : Int32) : String :=
  s!"\x7b\"entropy\":{entropy.toInt},\"origins\":[\"*:*\"],\"cookie_needed\":" ++
    s!"{settings.sessionCookieNeeded},\"websocket\":{settings.websocketEnabled}\x7d"

/-- Answers a request for the capabilities, or its preflight. -/
def respond (surroundings : Surroundings) (settings : ServiceSettings) (request : Request)
    (response : Response) : Log.Logged Response := do
  let policy := Cors.Policy.ofSettings settings
  if request.method = Method.get then
    let (served, response) ← Cors.check policy request [Method.get] (Cache.forbid response)
    if served then
      pure ((response.insert .contentType contentType).withBody
        (body settings surroundings.entropy))
    else
      pure response
  else if request.method = Method.options then
    let (served, response) ← Cors.check policy request [Method.options, Method.get] response
    if served then
      pure ((Cache.keepForYear surroundings.now response).withStatus .noContent)
    else
      pure response
  else
    refuseMethod [Method.options, Method.get] response

end SessionGateway.Info
