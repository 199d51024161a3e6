import SessionGateway.Cache
import SessionGateway.Digest.Md5
import SessionGateway.Http.Refusal

/-!
# The bootstrap page

The page that iframe based transports load.  Its entity tag depends on its
content alone, so a client may ask for it under any name and after any reload;
it is not cacheable, because the origin policy has to be checked again on
every load.
-/

namespace SessionGateway.Iframe

open Http

/-- The page that loads the client library from a URL. -/
def page (clientLibraryUrl : String) : String :=
  "<!DOCTYPE html>\n" ++
  "<html>\n" ++
  "<head>\n" ++
  "  <meta http-equiv=\"X-UA-Compatible\" content=\"IE=edge\" />\n" ++
  "  <meta http-equiv=\"Content-Type\" content=\"text/html; charset=UTF-8\" />\n" ++
  "  <script>\n" ++
  "    document.domain = document.domain;\n" ++
  "    _sockjs_onload = function()\x7bSockJS.bootstrap_iframe();\x7d;\n" ++
  "  </script>\n" ++
  "  <script src=\"" ++ clientLibraryUrl ++ "\"></script>\n" ++
  "</head>\n" ++
  "<body>\n" ++
  "  <h2>Don't panic!</h2>\n" ++
  "  <p>This is a SockJS hidden iframe. It's used for cross domain magic.</p>\n" ++
  "</body>\n" ++
  "</html>"

/-- The entity tag of a content: a quoted `0` and its digest in hexadecimal. -/
def etag (content : List UInt8) : List Char :=
  '"' :: '0' :: (Digest.Md5.digest content).flatMap (fun byte => Text.hexDigits 2 byte.toNat) ++
    ['"']

theorem hexDigit_visible (value : Nat) :
    HeaderValue.isPlainCharacter (Text.hexDigit (value % 16)) = true := by
  have below : value % 16 < 16 := Nat.mod_lt _ (by decide)
  have all : ∀ digit < 16, HeaderValue.isPlainCharacter (Text.hexDigit digit) = true := by decide
  exact all _ below

theorem etag_plain (content : List UInt8) :
    (etag content).all HeaderValue.isPlainCharacter = true := by
  have quote : HeaderValue.isPlainCharacter '"' = true := by decide
  have zero : HeaderValue.isPlainCharacter '0' = true := by decide
  simp [etag, Text.hexDigits, hexDigit_visible, quote, zero]

/-- The entity tag as a header value. -/
def etagValue (content : List UInt8) : HeaderValue :=
  HeaderValue.ofPlain (etag content) (etag_plain content)

/-- The first tag that a request names as known. -/
def knownTag? (headers : Headers) : Option (List Char) := do
  let value ← headers.firstText? .ifNoneMatch
  (Cache.items value).find? fun item => !item.isEmpty

/-- Answers a request for the page. -/
def respond (clientLibraryUrl : String) (request : Request) (response : Response) :
    Log.Logged Response :=
  if request.method = Method.get then
    let content := page clientLibraryUrl
    let octets := Text.octets content
    if knownTag? request.headers = some (etag octets) then
      pure (response.withStatus .notModified)
    else
      let response :=
        response.insert .contentType (HeaderValue.literal "text/html;charset=UTF-8")
      let response := response.insert .contentLength (HeaderValue.ofNat octets.length)
      let response := (Cache.forbid response).insert .etag (etagValue octets)
      pure (response.withBody content)
  else
    refuseMethod [Method.get] response

end SessionGateway.Iframe
