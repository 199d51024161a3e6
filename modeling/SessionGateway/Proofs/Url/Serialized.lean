import SessionGateway.Proofs.Url.Reading

/-!
# Origins as browsers write them

Many texts are URLs of one origin, but a browser writes the origin in one way
only: the scheme in lower case, the host in its own form, and the port in plain
decimal unless it is the default one (`IsSerialized`).  Reading such a text and
writing the origin of what was read gives the text back, and no other text has
this property (`origin?_eq_some_iff_isSerialized`).
-/

namespace SessionGateway.Url

/-! ## Writing an origin -/

/-- A port that is not the default one of the scheme, or none. -/
def IsOwnPort (scheme : WebScheme) (port? : Option (Fin 65536)) : Prop :=
  ∀ port ∈ port?, port.val ≠ scheme.defaultPort

/-- The writing of a port behind a host. -/
def portText (port? : Option (Fin 65536)) : List Char :=
  match port? with
  | some port => ':' :: Nat.toDigits 10 port
  | none => []

/-- The writing of an origin, given that of its host. -/
def originText (scheme : WebScheme) (host : List Char) (port? : Option (Fin 65536)) :
    List Char :=
  scheme.text.toList ++ "://".toList ++ (host ++ portText port?)

/-- A text that is the writing of an origin whose host is written as it is read. -/
def IsSerialized (text : List Char) : Prop :=
  ∃ scheme host port?,
    Host.parse? host.text = some host ∧ IsOwnPort scheme port? ∧
      text = originText scheme host.text port?

section Writing

variable
  {scheme : WebScheme}
  {host : Host}
  {port? : Option (Fin 65536)}

theorem port_ofParts (own : IsOwnPort scheme port?) :
    (ofParts scheme host port?).port = port?.map Fin.val := by
  rw [ofParts, defaultPort?_text]
  cases port? with
  | none => rfl
  | some port =>
      have other : port.val ≠ scheme.defaultPort := own port rfl
      simp [Option.filter, other]

theorem origin?_ofParts (own : IsOwnPort scheme port?) :
    (ofParts scheme host port?).origin? = some (originText scheme host.text port?) := by
  rw [origin?, port_ofParts own]
  cases port? <;> simp [ofParts, originText, portText]

theorem isPortNumeral_toDigits (port : Fin 65536) :
    IsPortNumeral (Nat.toDigits 10 port) port where
  nonempty := Nat.toDigits_ne_nil
  decimal := List.all_eq_true.mpr fun character member =>
    Nat.isDigit_of_mem_toDigits (by decide) (by decide) member
  value := Nat.ofDigitChars_toDigits (by decide) (by decide)

theorem writesPort_portText (port? : Option (Fin 65536)) : WritesPort port? (portText port?) := by
  cases port? with
  | none => exact .absent
  | some port => exact .decimal (isPortNumeral_toDigits port)

theorem parse?_originText {text : List Char} (host : IsHostText text) :
    parse? (originText scheme text port?) =
      (Host.parse? text).map fun host => ofParts scheme host port? := by
  have named : scheme.Names scheme.text.toList := by
    cases scheme <;> rfl
  exact parse?_of_written named host (writesPort_portText port?)

end Writing

/-! ## What a web URL is made of -/

/-- The URL of a host, empty or not, and the port behind it. -/
def ofHost (scheme : String) (host : Host) (number? : Option Nat) : Url where
  scheme := scheme
  host := if host ≠ .domain [] then some host else none
  port := number?.filter fun number => some number ≠ defaultPort? scheme

/-- Reads the host of a scheme with a known default port, or of another one. -/
def host? (special : Bool) (word : List Char) : Option Host :=
  if special then
    if word.isEmpty then none else Host.parse? word
  else
    Host.parseOpaque? word

/-- Reads what is behind a host; only a host that is not empty has a port. -/
def hostPort? (host : Host) (behind : List Char) : Option (Option Nat) :=
  match behind with
  | ':' :: rest => if host ≠ .domain [] then Url.port? rest else none
  | _ => some none

section Inversion

variable
  {scheme : String}
  {special : Bool}
  {text : List Char}
  {url : Url}

theorem port?_lt {number : Nat} (read : Url.port? text = some (some number)) :
    number < 65536 := by
  rw [Url.port?] at read
  split at read
  split at read
  · split at read
    · cases read
    · obtain ⟨value, filtered, same⟩ := Option.map_eq_some_iff.mp read
      cases same
      exact of_decide_eq_true (Option.filter_eq_some_iff.mp filtered).2
  · cases read

theorem hostPort?_lt
    {found : Host} {number? : Option Nat} (read : hostPort? found text = some number?) :
    ∀ number ∈ number?, number < 65536 := by
  rintro number rfl
  rw [hostPort?.eq_def] at read
  split at read
  · split at read
    · exact port?_lt read
    · cases read
  · cases read

theorem hostPort?_bind (found : Host) (behind : List Char) (finish : Option Nat → Option Url) :
    (match behind with
      | ':' :: rest => if found ≠ .domain [] then (Url.port? rest).bind finish else none
      | _ => finish none) = (hostPort? found behind).bind finish := by
  rw [hostPort?.eq_def]
  split
  · split <;> simp [*]
  · rfl

/-- Credentials, host and port are read one after the other, and then put together. -/
theorem authority?_eq_bind :
    authority? scheme special text =
      (credentials? special text).bind fun front =>
        let parts := hostText special false front.2
        (host? special parts.1).bind fun found =>
          (hostPort? found parts.2).bind fun number? =>
            if !decide (found ≠ .domain []) && front.1 then
              none
            else
              some (ofHost scheme found number?) := by
  rw [authority?]
  congr 1
  funext front
  obtain ⟨hasCredentials, rest⟩ := front
  dsimp only
  generalize hostText special false rest = parts
  obtain ⟨word, behind⟩ := parts
  dsimp only
  rw [host?]
  split
  · split
    · rfl
    · congr 1
      funext found
      exact hostPort?_bind found behind _
  · congr 1
    funext found
    exact hostPort?_bind found behind _

theorem authority?_eq_some (read : authority? scheme special text = some url) :
    ∃ word found behind number?,
      host? special word = some found ∧ hostPort? found behind = some number? ∧
        url = ofHost scheme found number? := by
  rw [authority?_eq_bind] at read
  obtain ⟨⟨hasCredentials, rest⟩, -, read⟩ := Option.bind_eq_some_iff.mp read
  obtain ⟨found, parsed, read⟩ := Option.bind_eq_some_iff.mp read
  obtain ⟨number?, numeral, read⟩ := Option.bind_eq_some_iff.mp read
  split at read
  · cases read
  · exact ⟨_, found, _, number?, parsed, numeral, (Option.some.inj read).symm⟩

theorem exists_authority?_of_parse? {web : WebScheme}
    (read : parse? text = some url) (named : url.scheme = web.text) :
    ∃ rest, authority? web.text true rest = some url := by
  rw [parse?] at read
  obtain ⟨⟨name, rest⟩, -, read⟩ := Option.bind_eq_some_iff.mp read
  dsimp only at read
  split at read
  · obtain ⟨word, found, behind, number?, -, -, rfl⟩ := authority?_eq_some read
    cases named
    exact ⟨_, read⟩
  · rename_i unknown
    -- A scheme without a default port is no web scheme, whatever follows it.
    have same : url.scheme = name := by
      split at read
      · split at read
        · cases read
          rfl
        · obtain ⟨word, found, behind, number?, -, -, rfl⟩ := authority?_eq_some read
          rfl
      · cases read
        rfl
    rw [← same, named, defaultPort?_text] at unknown
    exact absurd rfl unknown

end Inversion

section Parts

variable
  {scheme : WebScheme}
  {text : List Char}
  {url : Url}

theorem eq_ofParts_of_parse? (read : parse? text = some url) (named : url.scheme = scheme.text) :
    ∃ name host port?,
      Host.parse? name = some host ∧ IsOwnPort scheme port? ∧ url = ofParts scheme host port? := by
  obtain ⟨rest, read⟩ := exists_authority?_of_parse? read named
  obtain ⟨name, host, behind, number?, parsed, numeral, rfl⟩ := authority?_eq_some read
  have known : Host.parse? name = some host := (Option.ite_none_left_eq_some.mp parsed).2
  have notEmpty := Host.ne_domain_nil known
  cases number? with
  | none =>
      refine ⟨name, host, none, known, by simp [IsOwnPort], ?_⟩
      simp [ofHost, ofParts, notEmpty]
  | some number =>
      by_cases default : number = scheme.defaultPort
      · refine ⟨name, host, none, known, by simp [IsOwnPort], ?_⟩
        simp [ofHost, ofParts, notEmpty, default, defaultPort?_text, Option.filter]
      · have small : number < 65536 := hostPort?_lt numeral number rfl
        refine ⟨name, host, some ⟨number, small⟩, known, by simpa [IsOwnPort] using default, ?_⟩
        simp [ofHost, ofParts, notEmpty]

/-- The origin of a web URL is written as the URL itself exactly if that is serialized. -/
theorem origin?_eq_some_iff_isSerialized
    (read : parse? text = some url) (named : url.scheme = scheme.text) :
    url.origin? = some text ↔ IsSerialized text := by
  constructor
  · intro same
    obtain ⟨name, host, port?, known, own, rfl⟩ := eq_ofParts_of_parse? read named
    rw [origin?_ofParts own] at same
    cases same
    rw [parse?_originText (Host.isHostText_text known)] at read
    obtain ⟨other, again, equal⟩ := Option.map_eq_some_iff.mp read
    obtain rfl : other = host := Option.some.inj (congrArg Url.host equal)
    exact ⟨scheme, other, port?, again, own, rfl⟩
  · rintro ⟨scheme, host, port?, known, own, rfl⟩
    rw [parse?_originText (Host.isHostText_text known), known] at read
    cases read
    exact origin?_ofParts own

end Parts

end SessionGateway.Url
