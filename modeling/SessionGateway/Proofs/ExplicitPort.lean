import SessionGateway.Proofs.Origin.Policy
import SessionGateway.Proofs.Origin.Target

/-!
# Ports written in a `Host` header

A `Host` header may name a port behind the host.  `Authority.ReadsAs` says which
texts name one: decimal numerals below 65536, which may have a plus sign.  Any
other text there counts as no port, and the own origin then has the default port
of its scheme (`Origin.TakesPort`), although the header asks for another one.

`Origin.explicitPort_decides` derives from this which port the own origin has,
and which pages are let in without an allow-list; `Origin.accepts_other_port` is
a page that is let in for a port that the header does not name.
-/

namespace SessionGateway

open Http

/-! ## Numerals with a sign -/

namespace Http

variable
  {text : List Char}
  {number : Nat}

theorem exists_isPortNumeral
    (decimal : text.all Char.isDigit = true)
    (read : (Text.decimal? text).filter (· < 65536) = some number) :
    ∃ port : Fin 65536, port.val = number ∧ IsPortNumeral text port := by
  obtain ⟨value, small⟩ := Option.filter_eq_some_iff.mp read
  have nonempty : text ≠ [] := by
    rintro rfl
    cases value
  rw [Text.decimal?_of_isDigit nonempty (List.all_eq_true.mp decimal)] at value
  exact ⟨⟨number, of_decide_eq_true small⟩, rfl, nonempty, decimal, Option.some.inj value⟩

theorem port?_eq_some_iff :
    Http.port? text = some number ↔
      ∃ port : Fin 65536, port.val = number ∧
        ∃ sign digits, text = sign ++ digits ∧ (sign = [] ∨ sign = ['+']) ∧
          IsPortNumeral digits port := by
  constructor
  · intro read
    rw [Http.port?.eq_def] at read
    split at read
    · rename_i digits
      obtain ⟨decimal, read⟩ := Option.ite_none_right_eq_some.mp read
      obtain ⟨port, rfl, numeral⟩ := exists_isPortNumeral decimal read
      exact ⟨port, rfl, ['+'], digits, rfl, Or.inr rfl, numeral⟩
    · obtain ⟨decimal, read⟩ := Option.ite_none_right_eq_some.mp read
      obtain ⟨port, rfl, numeral⟩ := exists_isPortNumeral decimal read
      exact ⟨port, rfl, [], text, rfl, Or.inl rfl, numeral⟩
  · rintro ⟨port, rfl, sign, digits, rfl, rfl | rfl, numeral⟩
    · exact Authority.readPort_of_numeral numeral
    · exact (if_pos numeral.decimal).trans numeral.read

end Http

/-! ## The text behind a host -/

namespace Http.Authority

/-- A text stands behind the colon of the host. -/
def BearsPort (authority : Authority) (text : List Char) : Prop :=
  authority.hostAndPort = authority.host ++ ':' :: text

/--
A text stands for a port: it is a numeral, which may have a plus sign.  If the
text has colons itself, what is behind the last of them counts.
-/
def ReadsAs (text : List Char) (port : Fin 65536) : Prop :=
  ∃ before sign digits,
    Text.LastCut ':' text before (sign ++ digits) ∧ (sign = [] ∨ sign = ['+']) ∧
      IsPortNumeral digits port

variable
  {authority : Authority}
  {text before piece : List Char}
  {port : Fin 65536}

theorem readsAs_of_isPortNumeral (numeral : IsPortNumeral text port) : ReadsAs text port := by
  refine ⟨[], [], text, ⟨rfl, by simp, ?_⟩, Or.inl rfl, numeral⟩
  intro colon
  exact absurd (numeral.digit ':' colon) (by decide)

/-- A port belongs to the host, not to what stands in front of it. -/
theorem port?_of_bearsPort
    (bears : authority.BearsPort text) (cut : Text.LastCut ':' text before piece) :
    authority.port? = Http.port? piece := by
  obtain ⟨user, rest, signCut⟩ := Text.exists_lastCut '@' authority.text
  have rest_eq : rest = authority.host ++ ':' :: text := by
    rw [← bears, hostAndPort, signCut.getLast?_splitOn]
    rfl
  have whole : authority.text = user ++ authority.host ++ ':' :: text := by
    rw [List.append_assoc, ← rest_eq]
    exact signCut.whole
  have colon : authority.text.contains ':' = true := by
    rw [whole]
    simp
  have last : (authority.text.splitOn ':').getLast? = some piece := by
    rw [whole]
    exact (cut.behind (user ++ authority.host)).getLast?_splitOn
  rw [port?, portText?, if_pos colon, last, Option.bind_some]

theorem port?_eq_some_iff_readsAs (bears : authority.BearsPort text) {number : Nat} :
    authority.port? = some number ↔ ∃ port : Fin 65536, port.val = number ∧ ReadsAs text port := by
  constructor
  · intro read
    obtain ⟨before, piece, cut⟩ := Text.exists_lastCut ':' text
    rw [port?_of_bearsPort bears cut] at read
    obtain ⟨port, same, sign, digits, rfl, signed, numeral⟩ := port?_eq_some_iff.mp read
    exact ⟨port, same, before, sign, digits, cut, signed, numeral⟩
  · rintro ⟨port, same, before, sign, digits, cut, signed, numeral⟩
    rw [port?_of_bearsPort bears cut]
    exact port?_eq_some_iff.mpr ⟨port, same, sign, digits, rfl, signed, numeral⟩

end Http.Authority

/-! ## The own origin -/

namespace Origin

/-- The port of an own origin, given its scheme and the text behind the host. -/
inductive TakesPort (scheme : String) (text : List Char) : Nat → Prop
  | written {port : Fin 65536} (reads : Authority.ReadsAs text port) :
      TakesPort scheme text port
  /-- A text that stands for no port is passed over. -/
  | assumed {port : Nat} (unread : ∀ other, ¬Authority.ReadsAs text other)
      (default : defaultPort? scheme = some port) :
      TakesPort scheme text port

section Requests

variable
  {request : Request}
  {host : String}
  {authority : Authority}
  {text : List Char}

theorem takesPort_iff
    (bears : authority.BearsPort text) (scheme : String) (port : Nat) :
    authority.port?.or (defaultPort? scheme) = some port ↔ TakesPort scheme text port := by
  cases read : authority.port? with
  | some number =>
      obtain ⟨written, same, reads⟩ :=
        (Authority.port?_eq_some_iff_readsAs bears).mp read
      rw [Option.some_or, Option.some_inj, ← same]
      constructor
      · rintro rfl
        exact .written reads
      · intro takes
        cases takes with
        | written other =>
            have again :=
              (Authority.port?_eq_some_iff_readsAs bears).mpr ⟨_, rfl, other⟩
            rw [read, ← same] at again
            exact Option.some.inj again
        | assumed unread default => exact absurd reads (unread written)
  | none =>
      have unread : ∀ other, ¬Authority.ReadsAs text other := by
        intro other reads
        rw [(Authority.port?_eq_some_iff_readsAs bears).mpr ⟨other, rfl, reads⟩] at read
        cases read
      rw [Option.none_or]
      constructor
      · exact .assumed unread
      · intro takes
        cases takes with
        | written reads => exact absurd reads (unread _)
        | assumed _ default => exact default

theorem exists_ofRequest?_iff
    (sent : request.headers.firstText? .host = some host)
    (parsed : Authority.parse? host.toList = some authority)
    (bears : authority.BearsPort text) (port : Nat) :
    (∃ own, ServerOrigin.ofRequest? request = some own ∧ own.port = port) ↔
      TakesPort (requestScheme request) text port := by
  have named : requestAuthority? request = some authority := by
    rw [requestAuthority?, sent]
    exact parsed
  rw [← takesPort_iff bears]
  simp only [ServerOrigin.ofRequest?, named, Option.bind_eq_bind, Option.bind_some]
  cases authority.port?.or (defaultPort? (requestScheme request)) <;> simp

/-- Without an allow-list, a page with an origin is let in for the port of the own one. -/
theorem exists_own_of_allowed
    {origin : String} (named : request.headers.firstText? .origin = some origin)
    (notEmpty : origin ≠ "") (allowed : isRequestAllowed request [] = true) :
    ∃ own url, ServerOrigin.ofRequest? request = some own ∧
      Url.parse? origin.toList = some url ∧ url.effectivePort? = some own.port := by
  obtain ⟨value, present, read⟩ := Option.bind_eq_some_iff.mp named
  rw [isRequestAllowed_of_text? present read] at allowed
  have accepted : ∃ own, ServerOrigin.ofRequest? request = some own ∧
      own.accepts origin = true := by
    simpa [isAllowed, notEmpty, Option.any_eq_true] using allowed
  obtain ⟨own, sent, accepts⟩ := accepted
  rw [ServerOrigin.accepts] at accepts
  split at accepts
  · cases accepts
  · rename_i url spelled
    split at accepts
    · cases accepts
    · rw [Bool.and_eq_true, beq_iff_eq] at accepts
      exact ⟨own, url, sent, spelled, accepts.2⟩

end Requests

/--
The port of the own origin is the one behind the host, if that is a port, and
the default one of the scheme otherwise.

Let a request have a readable `Host` header that is an authority, with a text
behind the colon of its host.  The ports that its own origin can have are those
of `TakesPort`, and an own origin with such a port exists.  The text is a
numeral of that port if and only if it is a decimal numeral below 65536.
Without an allow-list, a page with an origin is let in only if its effective
port is this port.
-/
theorem explicitPort_decides
    (request : Request) (host : String) (authority : Authority) (text : List Char)
    (sent : request.headers.firstText? .host = some host)
    (parsed : Authority.parse? host.toList = some authority)
    (bears : authority.BearsPort text) :
    (∀ port,
        (∃ own, ServerOrigin.ofRequest? request = some own ∧ own.port = port) ↔
          TakesPort (requestScheme request) text port) ∧
      (∀ own, ServerOrigin.ofRequest? request = some own →
        ((∃ port : Fin 65536, port.val = own.port ∧ IsPortNumeral text port) ↔
          ∃ port, IsPortNumeral text port)) ∧
      ∀ origin, request.headers.firstText? .origin = some origin → origin ≠ "" →
        isRequestAllowed request [] = true →
          ∃ url port, Url.parse? origin.toList = some url ∧
            url.effectivePort? = some port ∧ TakesPort (requestScheme request) text port := by
  have ports := exists_ofRequest?_iff sent parsed bears
  refine ⟨ports, ?_, ?_⟩
  · intro own known
    constructor
    · exact fun ⟨port, _, numeral⟩ => ⟨port, numeral⟩
    · rintro ⟨port, numeral⟩
      have takes : TakesPort (requestScheme request) text port :=
        .written (Authority.readsAs_of_isPortNumeral numeral)
      obtain ⟨other, otherKnown, same⟩ := (ports port).mpr takes
      rw [known] at otherKnown
      cases otherKnown
      exact ⟨port, same.symm, numeral⟩
  · intro origin named notEmpty allowed
    obtain ⟨own, url, known, spelled, effective⟩ :=
      exists_own_of_allowed named notEmpty allowed
    exact ⟨url, own.port, spelled, effective, (ports own.port).mp ⟨own, known, rfl⟩⟩

/-- A request whose user information looks like a port, from a page on the port of the host. -/
def ported : Request where
  headers :=
    { fields :=
        [(.host, .literal "user:81@gate.example:08080"),
          (.origin, .literal "http://gate.example:8080")] }

theorem explicitPort_decides_user :
    let authority : Authority := { text := "user:81@gate.example:08080".toList }
    Authority.parse? "user:81@gate.example:08080".toList = some authority ∧
      authority.BearsPort "08080".toList ∧
        ∃ own, ServerOrigin.ofRequest? ported = some own ∧ own.port = 8080 := by
  intro authority
  have parsed : Authority.parse? "user:81@gate.example:08080".toList = some authority := by
    decide +kernel
  have bears : authority.BearsPort "08080".toList := by
    unfold Authority.BearsPort
    decide +kernel
  have numeral : IsPortNumeral "08080".toList 8080 := ⟨by decide, rfl, rfl⟩
  refine ⟨parsed, bears, ?_⟩
  exact ((explicitPort_decides ported _ authority _ rfl parsed bears).1 8080).mpr
    (.written (Authority.readsAs_of_isPortNumeral numeral))

/-- A request for a port that does not exist, from a page on the default one. -/
def misported : Request where
  headers :=
    { fields :=
        [(.host, .literal "gate.example:99999"), (.origin, .literal "http://gate.example")] }

/-- The header names no port that the own origin could have, and lets in a page on port 80. -/
theorem accepts_other_port :
    let authority : Authority := { text := "gate.example:99999".toList }
    misported.headers.firstText? .host = some "gate.example:99999" ∧
      Authority.parse? "gate.example:99999".toList = some authority ∧
        authority.BearsPort "99999".toList ∧
          ServerOrigin.ofRequest? misported =
              some { scheme := "http", host := "gate.example", port := 80 } ∧
            ¬IsPortNumeral "99999".toList 80 ∧ isRequestAllowed misported [] = true := by
  intro authority
  refine ⟨rfl, by decide +kernel, ?_, by decide +kernel, ?_, by decide +kernel⟩
  · unfold Authority.BearsPort
    decide +kernel
  · intro numeral
    exact absurd numeral.value (by decide)

end Origin

end SessionGateway
