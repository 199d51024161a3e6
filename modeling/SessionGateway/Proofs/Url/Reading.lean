import SessionGateway.Proofs.Domain.Permitted
import SessionGateway.Proofs.Origin.Spelling
import SessionGateway.Url

/-!
# Reading the URL of an origin

A URL that is no more than a web scheme, a host and perhaps a port.  Whatever
stands as a host (`IsHostText`) is never taken apart: the scheme, the host and
the port are split off as they were put together, and only the text of the host
is left to be read (`parse?_of_written`).  The writing of every host that was
read stands as one (`Host.isHostText_text`).
-/

namespace SessionGateway.Url

/-! ## Characters of a host -/

/-- A text that stands as a host in a URL: a name, or an address in square brackets. -/
inductive IsHostText : List Char → Prop
  | name {text : List Char} (nonempty : text ≠ []) (permitted : Domain.IsPermitted text) :
      IsHostText text
  | address {inner : List Char}
      (characters : ∀ character ∈ inner,
        Domain.isForbidden character = false ∨ character = ':') :
      IsHostText ('[' :: inner ++ [']'])

/-- A character that is no blank, does not end the authority, and sets no user apart. -/
structure IsInner (character : Char) : Prop where
  bright : 0x20 < character.toNat
  inside : isTerminator true character = false
  notSign : character ≠ '@'

section Characters

variable
  {text : List Char}
  {character : Char}

theorem ne_of_permitted
    (permitted : Domain.isForbidden character = false)
    {mark : Char} (forbidden : Domain.isForbidden mark = true) :
    character ≠ mark := by
  rintro rfl
  rw [permitted] at forbidden
  cases forbidden

theorem IsInner.of_permitted (permitted : Domain.isForbidden character = false) :
    IsInner character where
  bright := by
    simp only [Domain.isForbidden, Bool.or_eq_false_iff, decide_eq_false_iff_not] at permitted
    exact Nat.lt_of_not_le permitted.1.1
  inside := by
    have different {mark : Char} (forbidden : Domain.isForbidden mark = true) :
        (character == mark) = false :=
      beq_eq_false_iff_ne.mpr (ne_of_permitted permitted forbidden)
    have slash : (character == '/') = false := different rfl
    have question : (character == '?') = false := different rfl
    have hash : (character == '#') = false := different rfl
    have backslash : (character == '\\') = false := different rfl
    rw [isTerminator, slash, question, hash, backslash]
    rfl
  notSign := ne_of_permitted permitted rfl

theorem IsInner.of_isDigit (digit : character.isDigit = true) : IsInner character := by
  apply IsInner.of_permitted
  exact forall_isHostCharacter (fun character => Domain.isForbidden character = false)
    (by decide) (isHostCharacter_of_isDigit digit)

theorem IsInner.colon : IsInner ':' :=
  ⟨by decide, rfl, by decide⟩

theorem IsHostText.inner (host : IsHostText text) : ∀ character ∈ text, IsInner character := by
  intro character member
  cases host with
  | name nonempty permitted => exact .of_permitted (permitted character member)
  | address characters =>
      rw [List.cons_append, List.mem_cons, List.mem_append, List.mem_singleton] at member
      rcases member with rfl | inner | rfl
      · exact ⟨by decide, rfl, by decide⟩
      · rcases characters character inner with permitted | rfl
        · exact .of_permitted permitted
        · exact .colon
      · exact ⟨by decide, rfl, by decide⟩

theorem IsHostText.ne_nil (host : IsHostText text) : text ≠ [] := by
  cases host with
  | name nonempty permitted => exact nonempty
  | address characters => exact List.cons_ne_nil _ _

theorem permitted_text (name : HostName) : Domain.IsPermitted name.text := by
  intro character member
  exact forall_isHostCharacter (fun character => Domain.isForbidden character = false)
    (by decide) (HostName.isHostCharacter_of_mem member)

theorem isHostText_text (name : HostName) : IsHostText name.text :=
  .name name.text_ne_nil (permitted_text name)

end Characters

/-! ## Hosts as they are written -/

theorem permitted_digitChar {digit : Nat} (small : digit < 16) :
    Domain.isForbidden (Nat.digitChar digit) = false := by
  have all : ∀ digit < 16, Domain.isForbidden (Nat.digitChar digit) = false := by decide
  exact all digit small

theorem permitted_toDigits
    {base : Nat} (large : 1 < base) (small : base ≤ 16) (number : Nat) :
    Domain.IsPermitted (Nat.toDigits base number) := by
  induction number using Nat.strongRecOn with
  | ind number induction =>
      rw [Nat.toDigits_eq_if large]
      split
      · rename_i single
        exact List.forall_mem_singleton.mpr
          (permitted_digitChar (Nat.lt_of_lt_of_le single small))
      · have last : number % base < 16 :=
          Nat.lt_of_lt_of_le (Nat.mod_lt number (by omega)) small
        refine (induction _ ?_).append (List.forall_mem_singleton.mpr (permitted_digitChar last))
        exact Nat.div_lt_self (by omega) large

theorem isHostText_ipv4 (address : Nat) : IsHostText (Ipv4.text address) := by
  have digits (number : Nat) : Domain.IsPermitted (Nat.toDigits 10 number) :=
    permitted_toDigits (by decide) (by decide) number
  have dotted (number : Nat) : Domain.IsPermitted ('.' :: Nat.toDigits 10 number) :=
    List.forall_mem_cons.mpr ⟨rfl, digits number⟩
  refine .name (by simp [Ipv4.text]) ?_
  exact (((digits _).append (dotted _)).append (dotted _)).append (dotted _)

theorem characters_joined (pieces : List Nat) :
    ∀ character ∈ Ipv6.joined pieces,
      Domain.isForbidden character = false ∨ character = ':' := by
  intro character member
  rcases Text.mem_intercalate member with rfl | ⟨piece, pieceMember, inner⟩
  · exact Or.inr rfl
  · obtain ⟨number, -, rfl⟩ := List.mem_map.mp pieceMember
    exact Or.inl (permitted_toDigits (by decide) (by decide) number character inner)

theorem isHostText_ipv6 (pieces : List Nat) : IsHostText (Host.ipv6 pieces).text := by
  apply IsHostText.address
  intro character member
  rw [Ipv6.text] at member
  dsimp only at member
  split at member
  · rcases List.mem_append.mp member with front | back
    · rcases List.mem_append.mp front with front | colons
      · exact characters_joined _ character front
      · exact Or.inr (by simpa using colons)
    · exact characters_joined _ character back
  · exact characters_joined _ character member

theorem Host.isHostText_text
    {name : List Char} {host : Host} (read : Host.parse? name = some host) :
    IsHostText host.text := by
  rw [Host.parse?.eq_def] at read
  split at read
  · rw [bracketed?] at read
    split at read
    · obtain ⟨pieces, -, rfl⟩ := Option.map_eq_some_iff.mp read
      exact isHostText_ipv6 pieces
    · cases read
  · obtain ⟨decoded, -, read⟩ := Option.bind_eq_some_iff.mp read
    obtain ⟨domain, ascii, read⟩ := Option.bind_eq_some_iff.mp read
    split at read
    · cases read
    · rename_i nonempty
      split at read
      · obtain ⟨address, -, rfl⟩ := Option.map_eq_some_iff.mp read
        exact isHostText_ipv4 address
      · cases read
        exact .name (fun empty => nonempty (List.isEmpty_iff.mpr empty))
          (Domain.permitted_toAscii? ascii)

/-- A name is not read as an empty host. -/
theorem Host.ne_domain_nil
    {name : List Char} {host : Host} (read : Host.parse? name = some host) :
    host ≠ .domain [] := by
  rintro rfl
  exact (Host.isHostText_text read).ne_nil rfl

/-! ## Splitting off a host -/

section Splitting

variable
  {text port : List Char}

theorem hostText_port (starts : ∀ character ∈ port.head?, character = ':') :
    hostText true false port = ([], port) := by
  cases port with
  | nil => rfl
  | cons first rest =>
      obtain rfl : first = ':' := starts first rfl
      rfl

theorem hostText_name
    (permitted : Domain.IsPermitted text) (starts : ∀ character ∈ port.head?, character = ':') :
    hostText true false (text ++ port) = (text, port) := by
  induction text with
  | nil => exact hostText_port starts
  | cons first rest induction =>
      obtain ⟨here, others⟩ := List.forall_mem_cons.mp permitted
      have inside : isTerminator true first = false := (IsInner.of_permitted here).inside
      have notColon : first ≠ ':' := ne_of_permitted here rfl
      have notOpening : first ≠ '[' := ne_of_permitted here rfl
      rw [List.cons_append, hostText]
      simp [inside, notColon, beq_eq_false_iff_ne.mpr notOpening, induction others]

/-- Between brackets, colons belong to the host. -/
theorem hostText_inner
    {inner : List Char}
    (characters : ∀ character ∈ inner,
      Domain.isForbidden character = false ∨ character = ':')
    (starts : ∀ character ∈ port.head?, character = ':') :
    hostText true true (inner ++ ']' :: port) = (inner ++ [']'], port) := by
  induction inner with
  | nil =>
      rw [List.nil_append, hostText]
      simp [isTerminator, hostText_port starts]
  | cons first rest induction =>
      obtain ⟨here, others⟩ := List.forall_mem_cons.mp characters
      have plain : isTerminator true first = false ∧ first ≠ ']' := by
        rcases here with permitted | rfl
        · exact ⟨(IsInner.of_permitted permitted).inside, ne_of_permitted permitted rfl⟩
        · decide
      rw [List.cons_append, hostText]
      simp [plain.1, bne_iff_ne.mpr plain.2, induction others]

theorem IsHostText.hostText_append
    (host : IsHostText text) (starts : ∀ character ∈ port.head?, character = ':') :
    hostText true false (text ++ port) = (text, port) := by
  cases host with
  | name nonempty permitted => exact hostText_name permitted starts
  | @address inner characters =>
      have split := hostText_inner characters starts
      rw [List.cons_append, List.cons_append, hostText, List.append_assoc, List.singleton_append]
      simp [isTerminator, split]

end Splitting

/-! ## Hosts and ports -/

/-- The URL of an origin; it has no port if that is the default one of the scheme. -/
def ofParts (scheme : WebScheme) (host : Host) (port? : Option (Fin 65536)) : Url where
  scheme := scheme.text
  host := some host
  port := (port?.map Fin.val).filter fun number => some number ≠ defaultPort? scheme.text

section Authority

variable
  {scheme : WebScheme}
  {port? : Option (Fin 65536)}
  {text port : List Char}

theorem port?_of_numeral
    {digits : List Char} {port : Fin 65536} (numeral : IsPortNumeral digits port) :
    Url.port? digits = some (some port.val) := by
  rw [Url.port?, Text.span_whole numeral.digit]
  simp [numeral.nonempty, numeral.read]

theorem starts_of_writesPort (written : WritesPort port? port) :
    ∀ character ∈ port.head?, character = ':' := by
  cases written <;> simp

theorem inner_of_writesPort (written : WritesPort port? port) :
    ∀ character ∈ port, IsInner character := by
  intro character member
  rcases written.characters character member with digit | rfl
  · exact .of_isDigit digit
  · exact .colon

theorem credentials?_of_inner (inner : ∀ character ∈ text, IsInner character) :
    credentials? true text = some (false, text) := by
  have inside : ∀ character ∈ text, (!isTerminator true character) = true := by
    intro character member
    rw [(inner character member).inside, Bool.not_false]
  have noSign : '@' ∉ text := fun member => (inner '@' member).notSign rfl
  rw [credentials?, Text.span_whole inside]
  simp [noSign]

theorem authority?_of_written (host : IsHostText text) (written : WritesPort port? port) :
    authority? scheme.text true (text ++ port) =
      (Host.parse? text).map fun host => ofParts scheme host port? := by
  have inner := List.forall_mem_append.mpr ⟨host.inner, inner_of_writesPort written⟩
  simp only [authority?, credentials?_of_inner inner,
    host.hostText_append (starts_of_writesPort written),
    List.isEmpty_eq_false_iff.mpr host.ne_nil, Option.bind_eq_bind, Option.bind_some]
  cases read : Host.parse? text with
  | none => rfl
  | some found =>
      have named : found ≠ .domain [] := Host.ne_domain_nil read
      cases written with
      | absent => simp [ofParts, named]
      | decimal numeral => simp [ofParts, named, port?_of_numeral numeral]

end Authority

/-! ## Whole URLs -/

section Whole

variable
  {scheme : WebScheme}
  {port? : Option (Fin 65536)}
  {word text port : List Char}

theorem clean_of_bright (bright : ∀ character ∈ text, 0x20 < character.toNat) :
    clean text = text := by
  have kept : ∀ character ∈ text, decide (character.toNat ≤ 0x20) = false := by
    intro character member
    exact decide_eq_false (Nat.not_le.mpr (bright character member))
  rw [clean, Text.stripped_of_kept kept]
  apply List.filter_eq_self.mpr
  intro character member
  have above := bright character member
  apply decide_eq_true
  refine ⟨?_, ?_, ?_⟩
  all_goals
    rintro rfl
    exact absurd above (by decide)

theorem scheme?_of_names (named : scheme.Names word) (rest : List Char) :
    scheme? (word ++ ':' :: rest) = some (scheme.text, rest) := by
  have inside : ∀ character ∈ word, isSchemeCharacter character = true := by
    intro character member
    simp [isSchemeCharacter, Char.isAlphanum, named.isAlpha character member]
  have lowered : String.ofList (Text.lower word) = scheme.text := by
    rw [named, String.ofList_toList]
  have split : (word ++ ':' :: rest).span isSchemeCharacter = (word, ':' :: rest) :=
    Text.span_append inside (by simp [isSchemeCharacter])
  obtain ⟨first, others, rfl⟩ := named.eq_cons
  have letter : first.isAlpha = true := named.isAlpha first List.mem_cons_self
  rw [scheme?, split]
  simp [letter, lowered]

theorem defaultPort?_text (scheme : WebScheme) :
    defaultPort? scheme.text = some scheme.defaultPort := by
  cases scheme <;> rfl

/-- Nothing of a host is taken for the slashes in front of it. -/
theorem dropWhile_slashes (nonempty : text ≠ []) (inner : ∀ character ∈ text, IsInner character) :
    ('/' :: '/' :: text).dropWhile (fun character =>
        decide (character = '/' ∨ character = '\\')) = text := by
  obtain ⟨first, rest, rfl⟩ := List.exists_cons_of_ne_nil nonempty
  have inside := (inner first List.mem_cons_self).inside
  simp only [isTerminator, Bool.or_eq_false_iff, Bool.true_and, beq_eq_false_iff_ne] at inside
  simp [inside]

/-- The parts of a web URL come out as they were put together. -/
theorem parse?_of_written
    (named : scheme.Names word) (host : IsHostText text) (written : WritesPort port? port) :
    parse? (word ++ "://".toList ++ (text ++ port)) =
      (Host.parse? text).map fun host => ofParts scheme host port? := by
  have inner := List.forall_mem_append.mpr ⟨host.inner, inner_of_writesPort written⟩
  have letters : ∀ character ∈ word, 0x20 < character.toNat := by
    intro character member
    exact forall_isHostCharacter (fun character => 0x20 < character.toNat)
      (by decide) (isHostCharacter_of_isAlpha (named.isAlpha character member))
  have marks : ∀ character ∈ "://".toList, 0x20 < character.toNat := by
    have checked : "://".toList.all (0x20 < ·.toNat) = true := rfl
    exact fun character member => of_decide_eq_true (List.all_eq_true.mp checked character member)
  have cleaned : clean (word ++ "://".toList ++ (text ++ port)) =
      word ++ "://".toList ++ (text ++ port) := by
    apply clean_of_bright
    exact List.forall_mem_append.mpr
      ⟨List.forall_mem_append.mpr ⟨letters, marks⟩,
        fun character member => (inner character member).bright⟩
  have split : scheme? (word ++ "://".toList ++ (text ++ port)) =
      some (scheme.text, '/' :: '/' :: (text ++ port)) := by
    rw [List.append_assoc]
    exact scheme?_of_names named _
  have known : (defaultPort? scheme.text).isSome = true := by
    rw [defaultPort?_text]
    rfl
  have nonempty : text ++ port ≠ [] := List.append_ne_nil_of_left_ne_nil host.ne_nil port
  simp only [parse?, cleaned, split, Option.bind_eq_bind, Option.bind_some, known, if_true,
    dropWhile_slashes nonempty inner]
  exact authority?_of_written host written

end Whole

end SessionGateway.Url
