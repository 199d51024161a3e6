import SessionGateway.Settings.Validation
import SessionGateway.Text.Octets
import SessionGateway.Toml

/-!
# Loading settings

Settings are read from a file that holds a TOML document: the file has to be
readable text, the document has to be well formed and of the right types, and
the settings have to be valid.  The first of these that fails is the fault.
-/

namespace SessionGateway.Settings

/-- Why a file gives no text. -/
inductive FileFault where
  | missing
  | directory
  | notText
  deriving DecidableEq, Repr

/-- The wording of a file fault. -/
def FileFault.message : FileFault → String
  | missing => "No such file or directory (os error 2)"
  | directory => "Is a directory (os error 21)"
  | notText => "stream did not contain valid UTF-8"

/-- What is found at a path. -/
inductive File where
  | missing
  | directory
  | content (octets : List UInt8)
  deriving DecidableEq, Repr

/-- The text of a file. -/
def File.text : File → Except FileFault String
  | missing => throw .missing
  | directory => throw .directory
  | content octets =>
      match Text.ofOctets? octets with
      | some text => pure text
      | none => throw .notText

/-- Why settings could not be loaded. -/
inductive Fault where
  | file (fault : FileFault)
  /-- The document is malformed, or a value in it has the wrong type. -/
  | document
  | invalid (problems : List Problem)
  deriving DecidableEq, Repr

namespace Fault

/-- The wording of a fault. -/
def message : Fault → String
  | file fault => "IO error: " ++ fault.message
  | document => "Parse error"
  | invalid problems => "Validation failed: " ++ ", ".intercalate (problems.map Problem.message)

/-- Whether a fault was caused by another one below. -/
def hasSource : Fault → Bool
  | file _ | document => true
  | invalid _ => false

end Fault

/-- Reads settings from the text of a document; `name` stands in for a missing service name. -/
def parse (name content : String) : Except Fault GatewaySettings :=
  match (Toml.parse? content).bind (Document.gateway? .lenient name) with
  | none => throw .document
  | some settings =>
      match problems settings with
      | [] => pure settings
      | found => throw (.invalid found)

/-- Loads settings from a file. -/
def load (name : String) (file : File) : Except Fault GatewaySettings :=
  match file.text with
  | .error fault => throw (.file fault)
  | .ok content => parse name content

end SessionGateway.Settings
