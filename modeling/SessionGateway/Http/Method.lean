import SessionGateway.Http.Token

/-!
# Request methods

Methods are case-sensitive tokens; an extension method is as good as a
registered one.  A method list is written with `, ` between its members.
-/

namespace SessionGateway.Http

/-- A request method. -/
structure Method where
  token : String
  legal : isToken token = true := by decide
  deriving DecidableEq

namespace Method

/-- The method with the given name, if the name is a token. -/
def ofString? (token : String) : Option Method :=
  if legal : isToken token = true then some ⟨token, legal⟩ else none

def get : Method := { token := "GET" }

def head : Method := { token := "HEAD" }

def options : Method := { token := "OPTIONS" }

def post : Method := { token := "POST" }

def connect : Method := { token := "CONNECT" }

/-- The members of a method list, separated by a comma and a blank. -/
def join (methods : List Method) : String :=
  ", ".intercalate (methods.map token)

end Method

end SessionGateway.Http
