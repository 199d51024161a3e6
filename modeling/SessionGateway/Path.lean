import SessionGateway.Log
import SessionGateway.Text.Octets
import SessionGateway.Text.Percent
import SessionGateway.Text.White

/-!
# Endpoint paths

The part of a request path below the mount prefix, sorted into the endpoints
of the protocol.  The path is percent-decoded once, before any rule is
applied, so every spelling of a path is treated alike.

* `Path.classify` is the classifier;
* `Path.segments` are the trimmed, non-blank pieces between slashes;
* `Path.validateSegments` is the check a transport applies to a session URL.
-/

namespace SessionGateway

/-- Why a path names no endpoint. -/
inductive Path.Fault where
  | segmentCount
  | dot
  | encoding
  deriving DecidableEq, Repr

/-- A path below the mount prefix. -/
inductive Path where
  | root
  | info
  /-- The bootstrap page, by the name it was asked for. -/
  | iframe (file : String)
  | rawWebSocket
  | session (serverId sessionId transport : String)
  | invalid (fault : Path.Fault)
  deriving DecidableEq, Repr

namespace Path

/-- The wording of a fault. -/
def Fault.message : Fault → String
  | segmentCount => "wrong segment count"
  | dot => "dot not allowed"
  | encoding => "path is not UTF-8 after decoding"

/-- The kinds of path that requests are counted by. -/
inductive Kind where
  | root
  | info
  | iframe
  | rawWebSocket
  | session
  | invalid
  deriving DecidableEq, Repr

/-- The label of a kind in a metric. -/
def Kind.label : Kind → String
  | root => "root"
  | info => "info"
  | iframe => "iframe"
  | rawWebSocket => "raw_websocket"
  | session => "session"
  | invalid => "invalid"

/-- The kind of a path. -/
def kind : Path → Kind
  | root => .root
  | info => .info
  | iframe _ => .iframe
  | rawWebSocket => .rawWebSocket
  | session .. => .session
  | invalid _ => .invalid

/-- A character allowed between `/iframe` and `.html`. -/
def isIframeCharacter (character : Char) : Bool :=
  character.isAlphanum || character == '-' || character == '.' || character == '_'

/-- Paths of the form `/iframe*.html` with a plain name in between. -/
def isIframe (text : List Char) : Bool :=
  let opening := "/iframe".toList
  let ending := ".html".toList
  opening.isPrefixOf text &&
    let rest := text.drop opening.length
    ending.isSuffixOf rest &&
      (rest.take (rest.length - ending.length)).all isIframeCharacter

/-- The trimmed pieces between slashes, blank ones left out. -/
def segments (text : List Char) : List (List Char) :=
  ((text.splitOn '/').map Text.trim).filter fun piece => !piece.isEmpty

/-- Reads the three segments of a session URL. -/
def ofSegments : List (List Char) → Path
  | [serverId, sessionId, transport] =>
      if serverId.contains '.' || sessionId.contains '.' then
        .invalid .dot
      else
        .session (String.ofList serverId) (String.ofList sessionId) (String.ofList transport)
  | _ => .invalid .segmentCount

/-- Sorts a path that is already decoded. -/
def ofDecoded (text : List Char) : Path :=
  if text = [] ∨ text = ['/'] then
    .root
  else if text = "/info".toList then
    .info
  else if isIframe text then
    .iframe (String.ofList text.tail)
  else if text = "/websocket".toList then
    .rawWebSocket
  else
    ofSegments (segments text)

/-- Decodes a path once and sorts the result. -/
def classify (path : String) : Path :=
  match Text.ofOctets? (Text.percentDecode (Text.octets path)) with
  | none => .invalid .encoding
  | some decoded => ofDecoded decoded.toList

/-! ## Session segments -/

/-- Logged for a session URL with a blank segment. -/
def segmentMissing : Log.Event :=
  { level := .warn
    message := "No server, session, or transport path segment in SockJS request" }

/-- The wording for a dot in a server or session segment. -/
def dotMessage : String :=
  "Either server or session contains a \".\" which is not allowed by SockJS protocol"

/-- Logged for a session URL with a dot in its server or session segment. -/
def segmentWithDot (serverId sessionId : String) : Log.Event :=
  { level := .warn
    message := dotMessage
    fields := [("server_id", serverId), ("session_id", sessionId)] }

/-- Checks the three segments of a session URL; a refusal is logged. -/
def validateSegments (serverId sessionId transport : String) : Bool × List Log.Event :=
  if [serverId, sessionId, transport].any (fun segment => Text.isBlank segment.toList) then
    (false, [segmentMissing])
  else if serverId.contains '.' || sessionId.contains '.' then
    (false, [segmentWithDot serverId sessionId])
  else
    (true, [])

end Path

end SessionGateway
