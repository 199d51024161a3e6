import SessionGateway.Digest.Sha1
import SessionGateway.Http.Message
import SessionGateway.Text.Base64

/-!
# The WebSocket handshake

Whether a request may take its connection over, and the two answers.  The
conditions are checked in a fixed order, and the first that fails is the
reason of the rejection.
-/

namespace SessionGateway.WebSocket

open Http

/-- Why a connection cannot be taken over. -/
inductive Rejection where
  | method
  | connection
  | upgrade
  | keyMissing
  | version
  /-- The connection is not one that can be taken over. -/
  | notUpgradable
  deriving DecidableEq, Repr

namespace Rejection

/-- The status of a rejection. -/
def status : Rejection → Status
  | method => .methodNotAllowed
  | notUpgradable => .upgradeRequired
  | connection | upgrade | keyMissing | version => .badRequest

/-- The wording of a rejection. -/
def message : Rejection → String
  | method => "Request method must be `GET`"
  | connection => "Connection header did not include 'upgrade'"
  | upgrade => "`Upgrade` header did not include 'websocket'"
  | keyMissing => "`Sec-WebSocket-Key` header missing"
  | version => "`Sec-WebSocket-Version` header did not include '13'"
  | notUpgradable => "WebSocket request couldn't be upgraded since no upgrade state was present"

/-- The answer to a rejected handshake. -/
def response (rejection : Rejection) : Response :=
  .plainText rejection.status rejection.message

end Rejection

/-- Whether the first value of a header is a text, up to case. -/
def headerIs (headers : Headers) (name : HeaderName) (expected : String) : Bool :=
  match (headers.first? name).bind fun value => Text.ofOctets? value.octets with
  | some text => Text.sameIgnoringCase text.toList expected.toList
  | none => false

/-- Whether the first value of a header contains a lower-case text, up to case. -/
def headerContains (headers : Headers) (name : HeaderName) (expected : String) : Bool :=
  match (headers.first? name).bind fun value => Text.ofOctets? value.octets with
  | some text => Text.occursIn expected.toList (Text.lower text.toList)
  | none => false

/-- The octets that a key is joined with. -/
def acceptSuffix : String := "258EAFA5-E914-47DA-95CA-C5AB0DC85B11"

/-- The proof that a key was read. -/
def acceptText (key : HeaderValue) : List Char :=
  Text.base64 (Digest.Sha1.digest (key.octets ++ Text.octets acceptSuffix))

/-- The answer to an accepted handshake. -/
def accepted (key : HeaderValue) : Response where
  status := .switchingProtocols
  headers :=
    let standard : List (HeaderName × HeaderValue) :=
      [(.connection, HeaderValue.literal "upgrade"), (.upgrade, HeaderValue.literal "websocket")]
    match HeaderValue.ofString? (String.ofList (acceptText key)) with
    | some accept => ⟨standard ++ [(.secWebSocketAccept, accept)]⟩
    | none => ⟨standard⟩

/-- Checks a handshake; answers the key. -/
def handshake (request : Request) : Except Rejection HeaderValue :=
  if request.method ≠ Method.get then
    throw .method
  else if !headerContains request.headers .connection "upgrade" then
    throw .connection
  else if !headerIs request.headers .upgrade "websocket" then
    throw .upgrade
  else
    match request.headers.first? .secWebSocketKey with
    | none => throw .keyMissing
    | some key =>
        if !headerIs request.headers .secWebSocketVersion "13" then
          throw .version
        else if !request.upgradable then
          throw .notUpgradable
        else
          pure key

end SessionGateway.WebSocket
