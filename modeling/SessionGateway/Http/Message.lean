import SessionGateway.Http.Headers
import SessionGateway.Http.Method
import SessionGateway.Http.Uri

/-!
# Requests and responses

A response starts as an empty `200` and is written to step by step.
-/

namespace SessionGateway.Http

/-- A status code. -/
structure Status where
  code : Nat
  deriving DecidableEq, Repr

namespace Status

def switchingProtocols : Status := ⟨101⟩

def ok : Status := ⟨200⟩

def accepted : Status := ⟨202⟩

def noContent : Status := ⟨204⟩

def notModified : Status := ⟨304⟩

def badRequest : Status := ⟨400⟩

def forbidden : Status := ⟨403⟩

def notFound : Status := ⟨404⟩

def methodNotAllowed : Status := ⟨405⟩

def payloadTooLarge : Status := ⟨413⟩

def upgradeRequired : Status := ⟨426⟩

def internalServerError : Status := ⟨500⟩

/-- Statuses of success. -/
def isSuccess (status : Status) : Bool :=
  200 ≤ status.code && status.code < 300

end Status

/-- A request. -/
structure Request where
  method : Method := Method.get
  target : Uri := { path := ['/'] }
  headers : Headers := {}
  body : String := ""
  /-- Whether the connection that carries the request can be taken over. -/
  upgradable : Bool := false
  deriving DecidableEq

/-- The method and target of a request, for the log. -/
def Request.description (request : Request) : String :=
  s!"{request.method.token} {request.target.text}"

/-- A response. -/
structure Response where
  status : Status := Status.ok
  headers : Headers := {}
  body : String := ""
  deriving DecidableEq

namespace Response

/-- A whole answer of plain text. -/
def plainText (status : Status) (body : String) : Response where
  status
  headers := ⟨[(.contentType, HeaderValue.literal "text/plain; charset=utf-8")]⟩
  body

/-- Changes the status only. -/
def withStatus (response : Response) (status : Status) : Response :=
  { response with status }

/-- Makes a value the only one of its header. -/
def insert (response : Response) (name : HeaderName) (value : HeaderValue) : Response :=
  { response with headers := response.headers.insert name value }

/-- Adds a header value behind those already there. -/
def append (response : Response) (name : HeaderName) (value : HeaderValue) : Response :=
  { response with headers := response.headers.append name value }

/-- Changes the body only. -/
def withBody (response : Response) (body : String) : Response :=
  { response with body }

end Response

end SessionGateway.Http
