import SessionGateway.Origin
import SessionGateway.Proofs.Origin.Spelling
import SessionGateway.Proofs.Text.White

/-!
# The origin a request was sent to

What the two forms of a request say about the origin it was sent to.  In
origin form, the host and port stand in the `Host` header and the scheme in
`X-Forwarded-Proto`, if a proxy has put it there; in absolute form, all of
them stand in the target.  `SentTo` relates a request of either form to its
origin, in every spelling, and `ServerOrigin.ofRequest?` reads that origin.
-/

namespace SessionGateway

open Http

/-! ## Spelled hosts and ports -/

section Spelling

variable
  {name : HostName}
  {port? : Option (Fin 65536)}
  {text rest : List Char}

namespace Http.Authority

theorem next?_of_isHostCharacter
    {character : Char} (host : isHostCharacter character = true) (progress : Progress) :
    progress.next? character = some progress := by
  have plain :
      character ≠ ':' ∧ character ≠ '[' ∧ character ≠ ']' ∧ character ≠ '@' ∧
        character ≠ '%' ∧ isAuthorityCharacter character = true :=
    forall_isHostCharacter
      (fun character =>
        character ≠ ':' ∧ character ≠ '[' ∧ character ≠ ']' ∧ character ≠ '@' ∧
          character ≠ '%' ∧ isAuthorityCharacter character = true)
      (by decide) host
  obtain ⟨colon, opening, closing, sign, percent, allowed⟩ := plain
  simp [Progress.next?, colon, opening, closing, sign, percent, allowed]

theorem foldlM_next?
    (host : ∀ character ∈ text, isHostCharacter character = true) (progress : Progress) :
    text.foldlM Progress.next? progress = some progress := by
  induction text with
  | nil => rfl
  | cons first others induction =>
      rw [List.foldlM_cons, next?_of_isHostCharacter (host first List.mem_cons_self)]
      exact induction fun character member => host character (List.mem_cons_of_mem first member)

theorem isWellFormed_of_written
    (written : name.Writes port? text) :
    isWellFormed text = true := by
  have noSign : text.getLast? ≠ some '@' := by
    intro last
    exact written.not_mem (by decide) (by decide) (List.mem_of_getLast? last)
  have reads :
      ∃ colons ≤ 1, text.foldlM Progress.next? {} = some { colons := colons : Progress } := by
    obtain ⟨port, rfl, portWritten⟩ := written
    rw [List.foldlM_append, foldlM_next? fun character => HostName.isHostCharacter_of_mem]
    cases portWritten with
    | absent => exact ⟨0, Nat.zero_le 1, rfl⟩
    | decimal numeral =>
        exact ⟨1, Nat.le_refl 1, foldlM_next?
          (fun character member => isHostCharacter_of_isDigit (numeral.digit character member)) _⟩
  obtain ⟨colons, few, progress⟩ := reads
  rw [isWellFormed, progress]
  simp [few, noSign]

theorem scan?_of_written
    (written : name.Writes port? text)
    (ends : rest.head?.all isTerminator = true) :
    scan? (text ++ rest) = some (⟨text⟩, rest) := by
  have inside : ∀ character ∈ text, (!isTerminator character) = true := by
    intro character member
    rcases written.characters character member with host | rfl
    · exact forall_isHostCharacter
        (fun character => (!isTerminator character) = true) (by decide) host
    · rfl
  have boundary : ∀ character ∈ rest.head?, (!isTerminator character) = false := by
    intro character member
    have ended : isTerminator character = true := by
      simpa [Option.mem_def.mp member] using ends
    rw [ended, Bool.not_true]
  rw [scan?, Text.span_append inside boundary]
  exact if_pos (isWellFormed_of_written written)

theorem parse?_of_written
    (written : name.Writes port? text) :
    parse? text = some ⟨text⟩ := by
  have scanned : scan? (text ++ []) = some (⟨text⟩, []) := scan?_of_written written rfl
  obtain ⟨first, others, rfl, -⟩ := written.eq_cons
  rw [List.append_nil] at scanned
  rw [parse?, scanned]
  rfl

theorem host_of_written
    (written : name.Writes port? text) :
    (⟨text⟩ : Authority).host = name.text := by
  have whole : (⟨text⟩ : Authority).hostAndPort = text := by
    rw [hostAndPort, List.splitOn_eq_singleton (written.not_mem (by decide) (by decide))]
    rfl
  obtain ⟨first, others, cons, letter⟩ := written.eq_cons
  have notOpening : first ≠ '[' :=
    ne_of_isHostCharacter (isHostCharacter_of_isAlpha letter) (by decide)
  have plain : (⟨text⟩ : Authority).host = text.takeWhile (· ≠ ':') := by
    rw [host, whole, cons]
    split
    · rename_i opened
      exact absurd (List.cons.inj opened).1 notOpening
    · rfl
  obtain ⟨port, rfl, portWritten⟩ := written
  have inside : ∀ character ∈ name.text, decide (character ≠ ':') = true := by
    intro character member
    have different : character ≠ ':' :=
      ne_of_isHostCharacter (HostName.isHostCharacter_of_mem member) (by decide)
    exact decide_eq_true different
  have outside : port.takeWhile (· ≠ ':') = [] := by
    cases portWritten <;> rfl
  rw [plain, List.takeWhile_append_of_pos inside, outside, List.append_nil]

theorem readPort_of_numeral
    {digits : List Char} {port : Fin 65536} (numeral : IsPortNumeral digits port) :
    Http.port? digits = some port.val := by
  rw [Http.port?.eq_def]
  split
  · exact absurd (numeral.digit '+' List.mem_cons_self) (by decide)
  · exact (if_pos numeral.decimal).trans numeral.read

theorem port?_of_written
    (written : name.Writes port? text) :
    (⟨text⟩ : Authority).port? = port?.map Fin.val := by
  obtain ⟨tail, rfl, portWritten⟩ := written
  have noColon : ':' ∉ name.text := by
    intro member
    exact ne_of_isHostCharacter (HostName.isHostCharacter_of_mem member) (by decide) rfl
  cases portWritten with
  | absent =>
      rw [Authority.port?, portText?, List.append_nil, if_neg (by simpa using noColon)]
      rfl
  | @decimal port digits numeral =>
      have noSecondColon : ':' ∉ digits := by
        intro member
        exact absurd (numeral.digit ':' member) (by decide)
      have lastPiece : (name.text ++ ':' :: digits).splitOn ':' = [name.text, digits] := by
        rw [List.splitOn_append_cons_self_of_not_mem noColon,
          List.splitOn_eq_singleton noSecondColon]
      rw [Authority.port?, portText?, if_pos (by simp), lastPiece]
      exact readPort_of_numeral numeral

end Http.Authority

/-! ## Absolute targets -/

namespace Http.Uri

variable
  {scheme : WebScheme}
  {origin : WebOrigin}
  {target : Uri}
  {word : List Char}

theorem scheme?_of_names
    (named : scheme.Names word) (rest : List Char) :
    scheme? (word ++ ':' :: '/' :: '/' :: rest) = some (some scheme.text, rest) := by
  have inside : ∀ character ∈ word, isSchemeCharacter character = true := by
    intro character member
    simp [isSchemeCharacter, Char.isAlphanum, named.isAlpha character member]
  have known : String.ofList (Text.lower word) = scheme.text := by
    rw [named, String.ofList_toList]
  rw [scheme?, Text.span_append inside (by simp [isSchemeCharacter])]
  cases scheme <;> simp [known, WebScheme.text]

theorem parseFull?_of_writes
    (written : origin.Writes text)
    (ends : rest.head?.all Authority.isTerminator = true)
    (read : parseFull? (text ++ rest) = some target) :
    target.scheme = some origin.scheme.text ∧
      ∃ authority,
        target.authority = some ⟨authority⟩ ∧ origin.host.Writes origin.port? authority := by
  obtain ⟨word, authority, rfl, named, hostWritten⟩ := written
  have scheme : scheme? (word ++ "://".toList ++ authority ++ rest) =
      some (some origin.scheme.text, authority ++ rest) := by
    rw [List.append_assoc, List.append_assoc]
    exact scheme?_of_names named (authority ++ rest)
  obtain ⟨first, others, rfl, -⟩ := hostWritten.eq_cons
  have scanned := Authority.scan?_of_written hostWritten ends
  simp only [parseFull?, scheme, scanned, Option.bind_eq_bind, Option.bind_some] at read
  obtain ⟨parts, -, finished⟩ := Option.bind_eq_some_iff.mp read
  cases finished
  exact ⟨rfl, _, rfl, hostWritten⟩

theorem parse?_of_writes
    (written : origin.Writes text)
    (ends : rest.head?.all Authority.isTerminator = true)
    (read : parse? (String.ofList (text ++ rest)) = some target) :
    target.scheme = some origin.scheme.text ∧
      ∃ authority,
        target.authority = some ⟨authority⟩ ∧ origin.host.Writes origin.port? authority := by
  obtain ⟨first, others, rfl, letter⟩ := written.eq_cons
  have notSlash : first ≠ '/' :=
    ne_of_isHostCharacter (isHostCharacter_of_isAlpha letter) (by decide)
  have notStar : first ≠ '*' :=
    ne_of_isHostCharacter (isHostCharacter_of_isAlpha letter) (by decide)
  have full : parseFull? (first :: others ++ rest) = some target := by
    rw [parse?] at read
    split at read
    · cases read
    · rw [String.toList_ofList] at read
      split at read
      · cases read
      · rename_i star
        exact absurd (List.cons.inj star).1 notStar
      · rename_i slash
        exact absurd (List.cons.inj slash).1 notSlash
      · exact read
  exact parseFull?_of_writes written ends full

end Http.Uri

end Spelling

/-! ## Requests -/

/-- What proxies report of the scheme: nothing, or a readable list whose first item names it. -/
inductive Forwards (headers : Headers) : WebScheme → Prop where
  | silent (absent : headers.first? .xForwardedProto = none) : Forwards headers .http
  | named {scheme : WebScheme} {value : String} {before word behind others : List Char}
      (sent : headers.firstText? .xForwardedProto = some value)
      (spelled : value.toList = before ++ word ++ behind ++ others)
      (blankBefore : Text.isBlank before = true)
      (names : scheme.Names word)
      (blankBehind : Text.isBlank behind = true)
      (separated : others.head?.all (· == ',') = true) :
      Forwards headers scheme

/-- The origin a request was sent to, by its headers or by an absolute target without `Host`. -/
inductive SentTo (request : Request) (origin : WebOrigin) : Prop where
  | headers {host : String}
      (relative : request.target.scheme = none)
      (sent : request.headers.firstText? .host = some host)
      (written : origin.host.Writes origin.port? host.toList)
      (forwarded : Forwards request.headers origin.scheme)
  | target {text rest : List Char}
      (unnamed : request.headers.first? .host = none)
      (written : origin.Writes text)
      (ends : rest.head?.all Authority.isTerminator = true)
      (read : Uri.parse? (String.ofList (text ++ rest)) = some request.target)

section Requests

variable
  {request : Request}
  {origin : WebOrigin}
  {headers : Headers}
  {scheme : WebScheme}

theorem WebScheme.Names.trimmed
    {word : List Char} (named : scheme.Names word) :
    Text.Trimmed word := by
  have dark : ∀ character ∈ word, Text.isWhite character = false := by
    intro character member
    exact forall_isHostCharacter (fun character => Text.isWhite character = false)
      (by decide) (isHostCharacter_of_isAlpha (named.isAlpha character member))
  constructor
  · intro character head
    exact dark character (List.mem_of_head? head)
  · intro character last
    exact dark character (List.mem_of_getLast? last)

theorem comma_not_mem
    {before word behind : List Char}
    (named : scheme.Names word)
    (blankBefore : Text.isBlank before = true)
    (blankBehind : Text.isBlank behind = true) :
    ',' ∉ before ++ word ++ behind := by
  intro member
  rcases List.mem_append.mp member with front | blank
  · rcases List.mem_append.mp front with blank | inner
    · exact absurd (Text.isBlank_iff.mp blankBefore ',' blank) (by decide)
    · exact absurd (named.isAlpha ',' inner) (by decide)
  · exact absurd (Text.isBlank_iff.mp blankBehind ',' blank) (by decide)

theorem head?_splitOn_comma
    {piece others : List Char} (noComma : ',' ∉ piece)
    (separated : others.head?.all (· == ',') = true) :
    ((piece ++ others).splitOn ',').head? = some piece := by
  cases others with
  | nil =>
      rw [List.append_nil, List.splitOn_eq_singleton noComma]
      rfl
  | cons comma others =>
      obtain rfl : comma = ',' := beq_iff_eq.mp separated
      rw [List.splitOn_append_cons_self_of_not_mem noComma]
      rfl

theorem forwardedScheme_of_forwards
    (forwards : Forwards headers scheme) :
    (Origin.forwardedScheme? headers).getD "http" = scheme.text := by
  cases forwards with
  | silent absent =>
      rw [Origin.forwardedScheme?, Headers.firstText?, absent]
      rfl
  | named sent spelled blankBefore names blankBehind separated =>
      have first := head?_splitOn_comma (comma_not_mem names blankBefore blankBehind) separated
      have trimmed := names.trimmed.trim_padded blankBefore blankBehind
      rw [← spelled] at first
      rw [Origin.forwardedScheme?, sent]
      simp only [Option.map_some, first, Option.getD_some, trimmed]
      rw [names, String.ofList_toList]

theorem trimBrackets_of_isHostCharacter
    {text : List Char} (host : ∀ character ∈ text, isHostCharacter character = true) :
    Origin.trimBrackets text = text := by
  apply Text.stripped_of_kept
  intro character member
  exact forall_isHostCharacter
    (fun character => (character == '[' || character == ']') = false)
    (by decide) (host character member)

/-- What the server knows of an origin: the host in lower case, and always a port. -/
def ServerOrigin.ofOrigin (origin : WebOrigin) : ServerOrigin where
  scheme := origin.scheme.text
  host := String.ofList (Text.lower origin.host.text)
  port := origin.port

theorem ServerOrigin.ofRequest?_of_sentTo
    (sent : SentTo request origin) :
    ServerOrigin.ofRequest? request = some (ofOrigin origin) := by
  have parts :
      Origin.requestScheme request = origin.scheme.text ∧
        ∃ text,
          Origin.requestAuthority? request = some ⟨text⟩ ∧
            origin.host.Writes origin.port? text := by
    cases sent with
    | @headers host relative sent written forwarded =>
        constructor
        · rw [Origin.requestScheme, relative]
          exact forwardedScheme_of_forwards forwarded
        · refine ⟨host.toList, ?_, written⟩
          rw [Origin.requestAuthority?, sent]
          exact Authority.parse?_of_written written
    | target unnamed written ends read =>
        obtain ⟨scheme, authority, named, hostWritten⟩ := Uri.parse?_of_writes written ends read
        constructor
        · rw [Origin.requestScheme, scheme]
          cases origin.scheme <;> rfl
        · refine ⟨authority, ?_, hostWritten⟩
          rw [Origin.requestAuthority?, Headers.firstText?, unnamed]
          exact named
  obtain ⟨scheme, text, authority, written⟩ := parts
  have port :
      (⟨text⟩ : Authority).port?.or (Origin.defaultPort? origin.scheme.text) =
        some origin.port := by
    rw [Authority.port?_of_written written, WebOrigin.port]
    cases origin.port? with
    | none => cases origin.scheme <;> rfl
    | some port => rfl
  have host : Origin.trimBrackets (⟨text⟩ : Authority).host = origin.host.text := by
    rw [Authority.host_of_written written]
    exact trimBrackets_of_isHostCharacter fun character => HostName.isHostCharacter_of_mem
  simp only [ofRequest?, scheme, authority, Option.bind_eq_bind, Option.bind_some, port, host,
    ofOrigin]

end Requests

end SessionGateway
