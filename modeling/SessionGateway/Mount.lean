import SessionGateway.Service

/-!
# The mount point

The service is mounted at a prefix.  It gets every request to the prefix
itself and to everything below it; all others are answered with a bare 404.
A prefix may hold parameters in braces, which stand for the rest of a
non-empty segment; such a prefix is not the literal beginning of a path, so
the service gets a request below it without a path.

A mount point is three routes, and a router does not take every pattern:
`Mount.router` says whether there is a router for a prefix.  Where there is
one, `Mount.remainder?` decides which requests belong to the mount point, and
`Mount.below?` what the service is told about their path.
-/

namespace SessionGateway.Mount

open Http

/-! ## Registration -/

/-- The routes of a mount point. -/
inductive Route where
  | itself
  /-- The prefix and a slash. -/
  | slashed
  /-- The prefix, a slash, and something else. -/
  | beneath
  deriving DecidableEq, Repr

/-- The pattern that a route is registered with. -/
def Route.pattern (mount : String) : Route → String
  | itself => mount
  | slashed => mount ++ "/"
  | beneath => mount ++ "/" ++ "\x7b*path\x7d"

/-- Why a router does not take a pattern. -/
inductive Refusal where
  /-- The pattern does not begin with a slash. -/
  | relative
  /-- A segment begins with a colon, which patterns used to have for a parameter. -/
  | colon
  /-- A segment begins with an asterisk, which patterns used to have for a remainder. -/
  | asterisk
  /-- A brace is not that of a parameter, or a parameter is not where it may be. -/
  | parameter
  deriving DecidableEq, Repr

/-- What keeps a segment from being part of a pattern. -/
def segmentRefusal? (segment : List Char) : Option Refusal :=
  match segment.head? with
  | some ':' => some .colon
  | some '*' => some .asterisk
  | _ => none

/--
Whether all braces of a pattern are those of parameters.  A doubled brace
stands for the brace itself.  A parameter has a name and ends its segment; one
whose name begins with an asterisk ends the pattern.
-/
def isReadable : List Char → Bool
  | '\x7b' :: '\x7b' :: rest => isReadable rest
  | '\x7d' :: '\x7d' :: rest => isReadable rest
  | '\x7d' :: _ => false
  | '\x7b' :: '\x7d' :: _ => false
  | '\x7b' :: '*' :: '\x7d' :: _ => false
  | '\x7b' :: '*' :: rest => named true rest
  | '\x7b' :: _ :: rest => named false rest
  | '\x7b' :: [] => false
  | _ :: rest => isReadable rest
  | [] => true
where
  /-- Reads the rest of a name, and what is behind the parameter. -/
  named (isLast : Bool) : List Char → Bool
    | '\x7d' :: '\x7d' :: rest => named isLast rest
    | '\x7d' :: '/' :: rest => !isLast && isReadable rest
    | '\x7d' :: rest => rest.isEmpty
    | '*' :: _ => false
    | '/' :: _ => false
    | _ :: rest => named isLast rest
    | [] => false

/-- What keeps a router from taking a pattern. -/
def patternRefusal? (pattern : List Char) : Option Refusal :=
  if pattern.head? = some '/' then
    ((pattern.splitOn '/').findSome? segmentRefusal?).or
      (if isReadable pattern then none else some .parameter)
  else
    some .relative

/-- What keeps a prefix from being a mount point: the first refusal of a pattern. -/
def refusal? (mount : String) : Option Refusal :=
  [Route.itself, .slashed, .beneath].findSome? fun route =>
    patternRefusal? (route.pattern mount).toList

/-- A router that has taken the routes of a mount point. -/
structure Router where
  mount : String
  isTaken : refusal? mount = none

/-- Registers a mount point; the program does not go on from a refusal. -/
def router (mount : String) : Except Refusal Router :=
  match taken : refusal? mount with
  | none => .ok { mount, isTaken := taken }
  | some refusal => .error refusal

/-! ## Routing -/

/-- A piece of a prefix. -/
inductive Piece where
  | character (character : Char)
  /-- Stands for the non-empty rest of a segment. -/
  | parameter
  deriving DecidableEq, Repr

/-- The pieces of a prefix; a doubled brace stands for the brace itself. -/
def pieces : List Char → List Piece
  | '\x7b' :: '\x7b' :: rest => .character '\x7b' :: pieces rest
  | '\x7d' :: '\x7d' :: rest => .character '\x7d' :: pieces rest
  | '\x7b' :: rest => .parameter :: parameter rest
  | character :: rest => .character character :: pieces rest
  | [] => []
where
  /-- Leaves out the name of a parameter. -/
  parameter : List Char → List Piece
    | '\x7d' :: rest => pieces rest
    | _ :: rest => parameter rest
    | [] => []

/-- What is left of a path behind a prefix. -/
def remainder? : List Piece → List Char → Option (List Char)
  | [], path => some path
  | .character expected :: rest, character :: path =>
      if character = expected then remainder? rest path else none
  | .character _ :: _, [] => none
  | .parameter :: rest, path =>
      let segment := path.takeWhile (· ≠ '/')
      if segment.isEmpty then none else remainder? rest (path.drop segment.length)

/-- Whether a path is the prefix or lies below it. -/
def covers (mount : String) (path : List Char) : Bool :=
  match remainder? (pieces mount.toList) path with
  | some [] => true
  | some (character :: _) => character == '/'
  | none => false

/-- The path below the prefix, if the path literally begins with it. -/
def below? (mount : String) (path : List Char) : Option String :=
  if mount.toList.isPrefixOf path then
    some (String.ofList (path.drop mount.toList.length))
  else
    none

/-! ## Serving -/

/-- The answer to a request outside the prefix. -/
def outside (request : Request) : Response :=
  let bare : Response := { status := .notFound }
  if request.target.path.head? = some '/' then
    bare
  else
    bare.insert .contentLength (HeaderValue.ofNat 0)

/--
Completes a response on its way out.  The length of the body is given unless
it is already, the answer to `HEAD` loses its body after that, and a
successful `CONNECT` has neither.
-/
def complete (method : Method) (response : Response) : Response :=
  if method = Method.connect ∧ response.status.isSuccess then
    response.withBody ""
  else
    let response :=
      if response.headers.contains .contentLength then
        response
      else
        response.insert .contentLength (HeaderValue.ofNat response.body.utf8ByteSize)
    if method = Method.head then response.withBody "" else response

/--
Serves a request at a mount point that a router has taken; a failure is
answered with a bare 500.
-/
def serve (collaborators : Service.Collaborators) (surroundings : Info.Surroundings)
    (threshold : Log.Level) (mount : String) (settings : ServiceSettings) (request : Request) :
    Service.Outcome :=
  let path := request.target.path
  if covers mount path then
    let outcome :=
      Service.handle collaborators surroundings threshold settings (below? mount path) request {}
    let response := match outcome.failure with
      | some fault => fault.response
      | none => outcome.response
    { outcome with response := complete request.method response }
  else
    { response := outside request }

/-- Serves a request at the mount point of a router. -/
def Router.serve (router : Router) (collaborators : Service.Collaborators)
    (surroundings : Info.Surroundings) (threshold : Log.Level) (settings : ServiceSettings)
    (request : Request) : Service.Outcome :=
  Mount.serve collaborators surroundings threshold router.mount settings request

end SessionGateway.Mount
