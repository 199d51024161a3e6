import SessionGateway.Http.Token
import SessionGateway.Text.Ascii
import SessionGateway.Text.Octets

/-!
# Headers

Header names, header values and the ordered multimap of both.

* A name is a token in lower case, so names compare without regard to case.
* A value is a run of octets without control characters other than the tab.
  It is *readable* if all of it is visible ASCII.
* `Headers.append` adds a value behind those already there, `Headers.insert`
  puts one value in their place.  The view of a multimap is `Headers.values`:
  the values of one name, in order.
-/

namespace SessionGateway.Http

/-! ## Names -/

/-- A header name in lower case. -/
structure HeaderName where
  text : String
  deriving DecidableEq

namespace HeaderName

/-- The header name a token spells, in whatever case. -/
def ofString? (text : String) : Option HeaderName :=
  if isToken text then some ⟨String.ofList (Text.lower text.toList)⟩ else none

def accessControlAllowCredentials : HeaderName := ⟨"access-control-allow-credentials"⟩

def accessControlAllowHeaders : HeaderName := ⟨"access-control-allow-headers"⟩

def accessControlAllowMethods : HeaderName := ⟨"access-control-allow-methods"⟩

def accessControlAllowOrigin : HeaderName := ⟨"access-control-allow-origin"⟩

def accessControlMaxAge : HeaderName := ⟨"access-control-max-age"⟩

def accessControlRequestHeaders : HeaderName := ⟨"access-control-request-headers"⟩

def allow : HeaderName := ⟨"allow"⟩

def cacheControl : HeaderName := ⟨"cache-control"⟩

def connection : HeaderName := ⟨"connection"⟩

def contentLength : HeaderName := ⟨"content-length"⟩

def contentType : HeaderName := ⟨"content-type"⟩

def etag : HeaderName := ⟨"etag"⟩

def expires : HeaderName := ⟨"expires"⟩

def host : HeaderName := ⟨"host"⟩

def ifNoneMatch : HeaderName := ⟨"if-none-match"⟩

def origin : HeaderName := ⟨"origin"⟩

def secWebSocketAccept : HeaderName := ⟨"sec-websocket-accept"⟩

def secWebSocketKey : HeaderName := ⟨"sec-websocket-key"⟩

def secWebSocketVersion : HeaderName := ⟨"sec-websocket-version"⟩

def upgrade : HeaderName := ⟨"upgrade"⟩

def vary : HeaderName := ⟨"vary"⟩

def xForwardedProto : HeaderName := ⟨"x-forwarded-proto"⟩

def xFrameOptions : HeaderName := ⟨"x-frame-options"⟩

def xRequestId : HeaderName := ⟨"x-request-id"⟩

end HeaderName

/-! ## Values -/

/-- An octet that may stand in a header value. -/
def isValueOctet (byte : UInt8) : Bool :=
  (0x20 ≤ byte && byte != 0x7F) || byte == 9

/-- An octet of visible ASCII, blank and tab included. -/
def isVisibleOctet (byte : UInt8) : Bool :=
  (0x20 ≤ byte && byte < 0x7F) || byte == 9

/-- A header value. -/
structure HeaderValue where
  octets : List UInt8
  legal : octets.all isValueOctet = true := by decide
  deriving DecidableEq

namespace HeaderValue

/-- The value with the given octets, if all of them are legal. -/
def ofOctets? (octets : List UInt8) : Option HeaderValue :=
  if legal : octets.all isValueOctet = true then some ⟨octets, legal⟩ else none

/-- The value with the octets of a text, if all of them are legal. -/
def ofString? (text : String) : Option HeaderValue :=
  ofOctets? (Text.octets text)

/-- A value fixed in advance. -/
def literal (text : String)
    (legal : (Text.octets text).all isValueOctet = true := by decide) : HeaderValue :=
  ⟨Text.octets text, legal⟩

/-- A character of printable ASCII. -/
def isPlainCharacter (character : Char) : Bool :=
  0x20 ≤ character.toNat && character.toNat < 0x7F

theorem isValueOctet_of_isPlainCharacter {character : Char}
    (plain : isPlainCharacter character = true) :
    isValueOctet (UInt8.ofNat character.toNat) = true := by
  simp only [isPlainCharacter, Bool.and_eq_true, decide_eq_true_eq] at plain
  have below : character.toNat < 256 := by omega
  have lower : (0x20 : UInt8) ≤ UInt8.ofNat character.toNat := by
    rw [UInt8.le_iff_toNat_le, UInt8.toNat_ofNat_of_lt' below]
    exact plain.1
  have different : UInt8.ofNat character.toNat ≠ 0x7F := by
    intro equal
    have := congrArg UInt8.toNat equal
    rw [UInt8.toNat_ofNat_of_lt' below] at this
    have limit : (0x7F : UInt8).toNat = 127 := rfl
    omega
  simp [isValueOctet, lower, different]

/-- The value of a text of printable ASCII. -/
def ofPlain (text : List Char) (plain : text.all isPlainCharacter = true) : HeaderValue where
  octets := text.map fun character => UInt8.ofNat character.toNat
  legal := by
    simp only [List.all_eq_true, List.mem_map, forall_exists_index, and_imp,
      forall_apply_eq_imp_iff₂] at plain ⊢
    exact fun character member => isValueOctet_of_isPlainCharacter (plain character member)

theorem isPlainCharacter_of_isDigit {character : Char} (digit : character.isDigit = true) :
    isPlainCharacter character = true := by
  simp only [Char.isDigit, Bool.and_eq_true, decide_eq_true_eq, isPlainCharacter] at digit ⊢
  have low : 48 ≤ character.toNat := UInt32.le_iff_toNat_le.mp digit.1
  have high : character.toNat ≤ 57 := UInt32.le_iff_toNat_le.mp digit.2
  omega

/-- The decimal numeral of a number. -/
def ofNat (number : Nat) : HeaderValue :=
  ofPlain (Nat.toDigits 10 number) <| List.all_eq_true.2 fun _ member =>
    isPlainCharacter_of_isDigit (Nat.isDigit_of_mem_toDigits (by decide) (by decide) member)

/-- An octet that is left out at either end of a value on its way over a connection. -/
def isBlankOctet (byte : UInt8) : Bool :=
  byte == 0x20 || byte == 9

/-- The value as it arrives over a connection: without blanks at either end. -/
def stripped (value : HeaderValue) : HeaderValue where
  octets :=
    ((value.octets.dropWhile isBlankOctet).reverse.dropWhile isBlankOctet).reverse
  legal := by
    have legal := value.legal
    rw [List.all_eq_true] at legal ⊢
    intro byte member
    apply legal
    have inner := (List.dropWhile_suffix isBlankOctet).subset (List.mem_reverse.1 member)
    exact (List.dropWhile_suffix isBlankOctet).subset (List.mem_reverse.1 inner)

/-- The text of a readable value. -/
def text? (value : HeaderValue) : Option String :=
  if value.octets.all isVisibleOctet then Text.ofOctets? value.octets else none

/-- The value in double quotes, with hexadecimal escapes for what is not visible ASCII. -/
def quoted (value : HeaderValue) : String :=
  let body := value.octets.flatMap fun byte =>
    if byte = 0x22 then
      ['\\', '"']
    else if isVisibleOctet byte then
      [Char.ofNat byte.toNat]
    else
      '\\' :: 'x' :: (Text.hexOfOctets [byte]).toList
  String.ofList ('"' :: body ++ ['"'])

end HeaderValue

/-! ## The multimap -/

/-- Header fields in order; a name may occur more than once. -/
structure Headers where
  fields : List (HeaderName × HeaderValue) := []
  deriving DecidableEq

namespace Headers

/-- The values of one name, in order. -/
def values (headers : Headers) (name : HeaderName) : List HeaderValue :=
  (headers.fields.filter fun field => field.1 = name).map Prod.snd

/-- The first value of a name. -/
def first? (headers : Headers) (name : HeaderName) : Option HeaderValue :=
  (headers.values name).head?

/-- The text of the first value of a name, if that value is readable. -/
def firstText? (headers : Headers) (name : HeaderName) : Option String :=
  (headers.first? name).bind HeaderValue.text?

/-- Whether a name has a value. -/
def contains (headers : Headers) (name : HeaderName) : Bool :=
  !(headers.values name).isEmpty

/-- Adds a value behind those already there. -/
def append (headers : Headers) (name : HeaderName) (value : HeaderValue) : Headers :=
  ⟨headers.fields ++ [(name, value)]⟩

/-- Puts a field in the place of the first one of its name and drops the others. -/
def insertField (name : HeaderName) (value : HeaderValue) :
    List (HeaderName × HeaderValue) → List (HeaderName × HeaderValue)
  | [] => [(name, value)]
  | field :: rest =>
      if field.1 = name then
        (name, value) :: rest.filter fun other => other.1 ≠ name
      else
        field :: insertField name value rest

/-- Makes a value the only one of its name. -/
def insert (headers : Headers) (name : HeaderName) (value : HeaderValue) : Headers :=
  ⟨insertField name value headers.fields⟩

/-- Removes every value of a name. -/
def erase (headers : Headers) (name : HeaderName) : Headers :=
  ⟨headers.fields.filter fun field => field.1 ≠ name⟩

@[simp]
theorem values_append (headers : Headers) (name other : HeaderName) (value : HeaderValue) :
    (headers.append name value).values other =
      headers.values other ++ if name = other then [value] else [] := by
  by_cases same : name = other <;> simp [append, values, same]

theorem values_insert_same (headers : Headers) (name : HeaderName) (value : HeaderValue) :
    (headers.insert name value).values name = [value] := by
  suffices ∀ fields : List (HeaderName × HeaderValue),
      ((insertField name value fields).filter fun field => field.1 = name).map Prod.snd =
        [value] from this headers.fields
  intro fields
  induction fields with
  | nil => simp [insertField]
  | cons field rest hypothesis =>
      by_cases same : field.1 = name
      · simp [insertField, same, List.filter_filter]
      · simpa [insertField, same] using hypothesis

theorem values_insert_other (headers : Headers) {name other : HeaderName} (value : HeaderValue)
    (different : other ≠ name) :
    (headers.insert name value).values other = headers.values other := by
  suffices ∀ fields : List (HeaderName × HeaderValue),
      ((insertField name value fields).filter fun field => field.1 = other).map Prod.snd =
        (fields.filter fun field => field.1 = other).map Prod.snd from this headers.fields
  intro fields
  induction fields with
  | nil => simp [insertField, different.symm]
  | cons field rest hypothesis =>
      by_cases same : field.1 = name
      · simp only [insertField, same, if_true, List.filter_cons, different.symm,
          decide_false, Bool.false_eq_true, if_false, List.filter_filter]
        congr 1
        apply List.filter_congr
        intro candidate _
        by_cases equal : candidate.1 = other <;> simp [equal, different]
      · by_cases equal : field.1 = other
        · simpa [insertField, same, List.filter_cons, equal, different] using hypothesis
        · simpa [insertField, same, List.filter_cons, equal] using hypothesis

end Headers

end SessionGateway.Http
