import SessionGateway.Http.Message
import SessionGateway.Text.White
import SessionGateway.Url

/-!
# Origin policy

Whether a page may talk to the service, decided by the `Origin` header of its
request and the allow-list.

* No origin, or an empty one, is allowed.
* An allow-list with `*` allows every origin.
* An empty allow-list allows the own origin only: scheme, host and port of the
  request's target have to be those of the page.
* Any other allow-list allows exactly its entries, letter by letter.
-/

namespace SessionGateway

open Http

/-- The scheme, host and port a request was sent to. -/
structure ServerOrigin where
  scheme : String
  host : String
  port : Nat
  deriving DecidableEq, Repr

namespace Origin

/-- The default port of the schemes a request can arrive by. -/
def defaultPort? (scheme : String) : Option Nat :=
  match scheme with
  | "http" | "ws" => some 80
  | "https" | "wss" => some 443
  | _ => none

/-- The text without square brackets at either end. -/
def trimBrackets (text : List Char) : List Char :=
  let isBracket (character : Char) : Bool := character == '[' || character == ']'
  ((text.dropWhile isBracket).reverse.dropWhile isBracket).reverse

/-- The scheme a proxy reports: the first of a comma-separated list, in lower case. -/
def forwardedScheme? (headers : Headers) : Option String :=
  (headers.firstText? .xForwardedProto).map fun value =>
    String.ofList (Text.lower (Text.trim ((value.toList.splitOn ',').head?.getD [])))

/-- The scheme of a request: of its target, else as forwarded, else `http`. -/
def requestScheme (request : Request) : String :=
  match request.target.scheme with
  | some scheme => String.ofList (Text.lower scheme.toList)
  | none => (forwardedScheme? request.headers).getD "http"

/-- The authority of a request: its `Host` header if readable, else that of its target. -/
def requestAuthority? (request : Request) : Option Authority :=
  match request.headers.firstText? .host with
  | some host => Authority.parse? host.toList
  | none => request.target.authority

end Origin

namespace ServerOrigin

/-- The origin a request was sent to. -/
def ofRequest? (request : Request) : Option ServerOrigin := do
  let scheme := Origin.requestScheme request
  let authority ← Origin.requestAuthority? request
  let port ← authority.port?.or (Origin.defaultPort? scheme)
  some
    { scheme
      host := String.ofList (Text.lower (Origin.trimBrackets authority.host))
      port }

/-- Whether the origin of a page is this one. -/
def accepts (own : ServerOrigin) (origin : String) : Bool :=
  match Url.parse? origin.toList with
  | none => false
  | some url =>
      match url.host with
      | none => false
      | some host =>
          url.scheme == own.scheme &&
            Text.sameIgnoringCase (Origin.trimBrackets host.text) own.host.toList &&
            url.effectivePort? == some own.port

end ServerOrigin

namespace Origin

/-- Whether an origin is allowed; the own origin counts for an empty allow-list only. -/
def isAllowed (origin? : Option String) (allowed : List String)
    (own? : Option ServerOrigin) : Bool :=
  match origin? with
  | none => true
  | some origin =>
      if origin.isEmpty || allowed.contains "*" then
        true
      else if allowed.isEmpty then
        own?.any (·.accepts origin)
      else
        allowed.contains origin

/-- Whether the origin of a request is allowed; an unreadable one is not. -/
def isRequestAllowed (request : Request) (allowed : List String) : Bool :=
  match request.headers.first? .origin with
  | none => true
  | some value =>
      match value.text? with
      | none => false
      | some origin =>
          let own? := if allowed.isEmpty then ServerOrigin.ofRequest? request else none
          isAllowed (some origin) allowed own?

end Origin

end SessionGateway
