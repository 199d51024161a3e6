import SessionGateway.Http.Date
import SessionGateway.Http.Message
import SessionGateway.Text.White

/-!
# Cache headers

A response is either cacheable for a year or not at all, and a response that
depends on the origin of its request says so in `Vary`.
-/

namespace SessionGateway.Cache

open Http

/-- Seconds of a year. -/
def oneYear : Nat := 31536000

/-- The items of a comma-separated value, trimmed. -/
def items (value : String) : List (List Char) :=
  (value.toList.splitOn ',').map Text.trim

/-- Whether a value names `Origin` among its items. -/
def namesOrigin (value : HeaderValue) : Bool :=
  match value.text? with
  | none => false
  | some text => (items text).any fun item => Text.sameIgnoringCase item "origin".toList

/-- Adds `Origin` to `Vary` unless a readable value names it already. -/
def varyOnOrigin (response : Response) : Response :=
  if (response.headers.values .vary).any namesOrigin then
    response
  else
    response.append .vary (HeaderValue.literal "Origin")

/-- Lets the response be kept for a year from `now`, in seconds since 1970. -/
def keepForYear (now : Nat) (response : Response) : Response :=
  let response :=
    response.insert .cacheControl (HeaderValue.literal "public, max-age=31536000")
  let response := match HeaderValue.ofString? (Date.text (now + oneYear)) with
    | some expires => response.insert .expires expires
    | none => response
  varyOnOrigin response

/-- Forbids any keeping of the response. -/
def forbid (response : Response) : Response :=
  response.insert .cacheControl
    (HeaderValue.literal "no-store, no-cache, must-revalidate, max-age=0")

end SessionGateway.Cache
