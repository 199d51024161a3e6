import SessionGateway.Http.Message
import SessionGateway.Log

/-!
# Refused methods

The answer to a request whose method an endpoint does not know.
-/

namespace SessionGateway.Http

/-- Logged for a refused method. -/
def methodRefused : Log.Event :=
  { level := .warn, message := "Sending Method Not Allowed (405)" }

/-- Refuses a method and names the allowed ones, in the place of any named before. -/
def refuseMethod (allowed : List Method) (response : Response) : Log.Logged Response := do
  Log.record [methodRefused]
  let response := response.withStatus .methodNotAllowed
  match HeaderValue.ofString? (Method.join allowed) with
  | some joined => pure (response.insert .allow joined)
  | none => pure response

end SessionGateway.Http
