/-!
# Tokens

The token characters of HTTP.  Method names and header names are non-empty
runs of them.
-/

namespace SessionGateway.Http

/-- A character of an HTTP token. -/
def isTokenCharacter (character : Char) : Bool :=
  character.isAlphanum || "!#$%&'*+-.^_`|~".toList.contains character

/-- A non-empty run of token characters. -/
def isToken (text : String) : Bool :=
  !text.toList.isEmpty && text.toList.all isTokenCharacter

end SessionGateway.Http
