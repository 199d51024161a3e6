import SessionGateway.Json.TextList
import SessionGateway.Text.White

/-!
# Session frames

The texts that a session exchanges with its client.  A client sends a list of
messages or a single one; a server sends `o`, `h`, lists of messages behind an
`a`, and `c` with a reason.

`Frame.decode?` and `Frame.encode?` are the two directions of messages.
-/

namespace SessionGateway

/-- A frame that a session sends. -/
inductive Frame where
  | opened
  | heartbeat
  /-- Replies to one message. -/
  | messages (texts : List String)
  | goAway
  /-- The end of the connection itself; it carries no text. -/
  | close
  deriving DecidableEq, Repr

namespace Frame

/--
The messages of a client frame.  A blank frame has none; any other frame has
to be a list of strings or one string.
-/
def decode? (frame : String) : Option (List String) :=
  let text := frame.toList
  if Text.isBlank text then
    some []
  else
    match Json.whole (Json.readTextList text) with
    | some texts => some (texts.map String.ofList)
    | none => (Json.whole (Json.readTextValue text)).map fun text => [String.ofList text]

/-- The frame that carries some messages; there is none without messages. -/
def encode? (texts : List String) : Option String :=
  if texts.isEmpty then
    none
  else
    some (String.ofList ('a' :: Json.writeTextList (texts.map String.toList)))

/-- The text of a frame, if it carries one. -/
def text? : Frame → Option String
  | opened => some "o"
  | heartbeat => some "h"
  | messages texts => encode? texts
  | goAway => some "c[3000,\"Go away!\"]"
  | close => none

end Frame

end SessionGateway
