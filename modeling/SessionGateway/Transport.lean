import SessionGateway.Http.Method

/-!
# Transports

The transports a session URL can name, and the method a client uses with each
of them.  Names are case-sensitive.
-/

namespace SessionGateway

/-- A transport of the protocol. -/
inductive Transport where
  | webSocket
  | xhr
  | xhrSend
  | xhrStreaming
  | eventSource
  | htmlFile
  | jsonp
  | jsonpSend
  deriving DecidableEq, Repr

namespace Transport

/-- Every transport. -/
def all : List Transport :=
  [webSocket, xhr, xhrSend, xhrStreaming, eventSource, htmlFile, jsonp, jsonpSend]

/-- The name of a transport in a URL. -/
def name : Transport → String
  | webSocket => "websocket"
  | xhr => "xhr"
  | xhrSend => "xhr_send"
  | xhrStreaming => "xhr_streaming"
  | eventSource => "eventsource"
  | htmlFile => "htmlfile"
  | jsonp => "jsonp"
  | jsonpSend => "jsonp_send"

/-- The transport with a name. -/
def ofName? (name : String) : Option Transport :=
  all.find? fun transport => transport.name == name

/-- The wording for a name that is no transport's. -/
def unknownMessage (name : String) : String :=
  s!"unknown transport '{name}'"

/-- The method a client uses with a transport. -/
def method : Transport → Http.Method
  | webSocket | eventSource | htmlFile | jsonp => Http.Method.get
  | xhr | xhrSend | xhrStreaming | jsonpSend => Http.Method.post

theorem ofName?_name (transport : Transport) : ofName? transport.name = some transport := by
  cases transport <;> decide

theorem ofName?_eq_some_iff {name : String} {transport : Transport} :
    ofName? name = some transport ↔ transport.name = name := by
  constructor
  · intro found
    simpa using List.find?_some found
  · rintro rfl
    exact ofName?_name transport

end Transport

end SessionGateway
