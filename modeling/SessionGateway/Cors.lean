import SessionGateway.Cache
import SessionGateway.Log
import SessionGateway.Origin
import SessionGateway.Settings

/-!
# Cross-origin grants

`Cors.grant` writes the headers that let the page of a request read the
answer.  `Cors.check` writes them only if the origin policy allows the origin,
the settings do not suppress them and nobody has written them before; it
refuses an origin that is not allowed.
-/

namespace SessionGateway.Cors

open Http

/-- What a grant depends on. -/
structure Policy where
  allowedOrigins : List String
  suppress : Bool := false
  deriving DecidableEq, Repr

/-- The policy of a service. -/
def Policy.ofSettings (settings : ServiceSettings) : Policy :=
  { allowedOrigins := settings.allowedOrigins, suppress := settings.suppressCors }

/-- Logged for an origin that is not allowed. -/
def originRefused (origin : HeaderValue) : Log.Event :=
  { level := .warn
    message := "Origin header value not allowed"
    fields := [("origin", origin.quoted)] }

/-- Writes the allowed methods and how long the grant may be kept. -/
def grantMethods (methods : List Method) (response : Response) : Response :=
  if methods.isEmpty then
    response
  else
    let response := match HeaderValue.ofString? (Method.join methods) with
      | some joined => response.append .accessControlAllowMethods joined
      | none => response
    response.append .accessControlMaxAge (HeaderValue.literal "31536000")

/-- Writes a grant for the origin of the request, whatever the policy. -/
def grant (request : Request) (methods : List Method) (response : Response) : Response :=
  let response := match request.headers.first? .origin with
    | some origin => response.append .accessControlAllowOrigin origin
    | none => response
  let response :=
    response.append .accessControlAllowCredentials (HeaderValue.literal "true")
  let response := (request.headers.values .accessControlRequestHeaders).foldl
    (fun response requested => response.append .accessControlAllowHeaders requested) response
  Cache.varyOnOrigin (grantMethods methods response)

/--
Checks the origin of a request.  Answers whether the request may be served,
and the response with the grant, or with the status of a refusal.
-/
def check (policy : Policy) (request : Request) (methods : List Method) (response : Response) :
    Log.Logged (Bool × Response) :=
  match request.headers.first? .origin with
  | none => pure (true, response)
  | some origin =>
      if Origin.isRequestAllowed request policy.allowedOrigins then
        if policy.suppress || response.headers.contains .accessControlAllowOrigin then
          pure (true, response)
        else
          pure (true, grant request methods response)
      else do
        Log.record [originRefused origin]
        pure (false, response.withStatus .forbidden)

end SessionGateway.Cors
