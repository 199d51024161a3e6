import SessionGateway.Settings

/-!
# Settings from a document

A document is a tree of tables, lists and plain values.  Reading settings from
one fills in the default of every field that is missing and leaves out every
entry that no field is called by.  A group of fields may also be given as a
list of their values in the order of the fields; its missing tail is filled
in.

`Document.Reading` says whether a list with more values than fields is
refused.
-/

namespace SessionGateway

/-- A value of a document. -/
inductive Document where
  | text (value : String)
  | integer (value : Int)
  | truth (value : Bool)
  | list (values : List Document)
  | table (entries : List (String × Document))
  /-- A value that no field can hold. -/
  | other

namespace Document

/-- How strictly lists of field values are read. -/
inductive Reading where
  /-- A list may not have more values than there are fields. -/
  | exact
  /-- Values behind the last field are left out. -/
  | lenient
  deriving DecidableEq, Repr

/-- The text a value holds. -/
def text? : Document → Option String
  | text value => some value
  | _ => none

/-- The truth value a value holds. -/
def truth? : Document → Option Bool
  | truth value => some value
  | _ => none

/-- The unsigned number a value holds. -/
def number? : Document → Option UInt64
  | integer value =>
      if 0 ≤ value ∧ value < 18446744073709551616 then some (UInt64.ofNat value.toNat) else none
  | _ => none

/-- The list of texts a value holds. -/
def texts? : Document → Option (List String)
  | list values => values.mapM text?
  | _ => none

/-- A group of fields, found by place or by name. -/
structure Fields where
  find? : (place : Nat) → (name : String) → Option Document

/-- The fields of a table or of a list of values. -/
def fields? (reading : Reading) (count : Nat) : Document → Option Fields
  | table entries => some { find? := fun _ name => entries.lookup name }
  | list values =>
      if reading = .exact ∧ count < values.length then
        none
      else
        some { find? := fun place _ => values[place]? }
  | _ => none

/-- The value of one field, or its default where the field is missing. -/
def Fields.get? {α : Type} (fields : Fields) (place : Nat) (name : String)
    (read? : Document → Option α) (absent : α) : Option α :=
  match fields.find? place name with
  | some value => read? value
  | none => some absent

/-- Reads the settings of a listener. -/
def listener? (reading : Reading) (document : Document) : Option ListenerSettings := do
  let fields ← document.fields? reading 3
  let absent : ListenerSettings := {}
  some
    { bindAddress := ← fields.get? 0 "bind_address" text? absent.bindAddress
      pathPrefix := ← fields.get? 1 "path_prefix" text? absent.pathPrefix
      maxBodySize := ← fields.get? 2 "max_body_size" number? absent.maxBodySize }

/-- Reads the settings of a service; `name` stands in for a missing name. -/
def service? (reading : Reading) (name : String) (document : Document) :
    Option ServiceSettings := do
  let fields ← document.fields? reading 10
  let absent : ServiceSettings := { name }
  some
    { name := ← fields.get? 0 "name" text? absent.name
      clientLibraryUrl := ← fields.get? 1 "client_library_url" text? absent.clientLibraryUrl
      streamBytesLimit := ← fields.get? 2 "stream_bytes_limit" number? absent.streamBytesLimit
      sessionCookieNeeded :=
        ← fields.get? 3 "session_cookie_needed" truth? absent.sessionCookieNeeded
      heartbeatInterval :=
        ← fields.get? 4 "heartbeat_interval_ms" number? absent.heartbeatInterval
      disconnectDelay := ← fields.get? 5 "disconnect_delay_ms" number? absent.disconnectDelay
      messageCacheSize :=
        ← fields.get? 6 "http_message_cache_size" number? absent.messageCacheSize
      websocketEnabled := ← fields.get? 7 "websocket_enabled" truth? absent.websocketEnabled
      allowedOrigins := ← fields.get? 8 "allowed_origins" texts? absent.allowedOrigins
      suppressCors := ← fields.get? 9 "suppress_cors" truth? absent.suppressCors }

/-- Reads what a gateway reports about itself. -/
def observability? (reading : Reading) (document : Document) : Option ObservabilitySettings := do
  let fields ← document.fields? reading 3
  let absent : ObservabilitySettings := {}
  some
    { logLevel := ← fields.get? 0 "log_level" text? absent.logLevel
      metricsEnabled := ← fields.get? 1 "metrics_enabled" truth? absent.metricsEnabled
      metricsAddress := ← fields.get? 2 "metrics_address" text? absent.metricsAddress }

/-- Reads all settings of a gateway; `name` stands in for a missing service name. -/
def gateway? (reading : Reading) (name : String) (document : Document) :
    Option GatewaySettings := do
  let fields ← document.fields? reading 3
  let absent : GatewaySettings := { service := { name } }
  some
    { listener := ← fields.get? 0 "listener" (listener? reading) absent.listener
      service := ← fields.get? 1 "sockjs" (service? reading name) absent.service
      observability :=
        ← fields.get? 2 "observability" (observability? reading) absent.observability }

end Document

end SessionGateway
