import SessionGateway.Proofs.Text.Reading

/-!
# Web origins

A web origin is the scheme, host and port by which browsers tell pages apart.
`WebOrigin.Same` compares two of them: host names up to the case of their
letters, ports with the default one of the scheme in the place of an absent
one.  `WebOrigin.Writes` relates an origin to all of its spellings, and
`HostName.Writes` relates a host and a port to theirs.
-/

namespace SessionGateway

/-! ## Schemes -/

/-- A scheme of web pages. -/
inductive WebScheme where
  | http
  | https
  deriving DecidableEq, Repr

namespace WebScheme

def text : WebScheme → String
  | http => "http"
  | https => "https"

def defaultPort : WebScheme → Nat
  | http => 80
  | https => 443

/-- Whether a word is the name of a scheme, in letters of any case. -/
def Names (scheme : WebScheme) (word : List Char) : Prop :=
  Text.lower word = scheme.text.toList

end WebScheme

/-! ## Host names -/

/-- A character of a host name other than the full stop. -/
def isLabelCharacter (character : Char) : Bool :=
  character.isAlphanum || character == '-'

/-- A label that a letter starts, and that does not announce an encoded one. -/
structure IsHostLabel (label : List Char) : Prop where
  letter : label.head?.any Char.isAlpha = true
  plain : label.all isLabelCharacter = true
  literal : ¬"xn--".toList <+: Text.lower label

instance (label : List Char) : Decidable (IsHostLabel label) :=
  decidable_of_iff
    (label.head?.any Char.isAlpha = true ∧ label.all isLabelCharacter = true ∧
      ¬"xn--".toList <+: Text.lower label)
    ⟨fun ⟨letter, plain, literal⟩ => ⟨letter, plain, literal⟩,
      fun valid => ⟨valid.letter, valid.plain, valid.literal⟩⟩

/-- A character of a host name. -/
def isHostCharacter (character : Char) : Bool :=
  isLabelCharacter character || character == '.'

/-- A name of at least one label. -/
structure HostName where
  labels : List (List Char)
  nonempty : labels ≠ []
  valid : ∀ label ∈ labels, IsHostLabel label

/-- The labels with full stops between them. -/
def HostName.text (name : HostName) : List Char :=
  ['.'].intercalate name.labels

/-! ## Ports -/

/-- A decimal numeral of a port; zeros may stand in front of it. -/
structure IsPortNumeral (digits : List Char) (port : Fin 65536) : Prop where
  nonempty : digits ≠ []
  decimal : digits.all Char.isDigit = true
  value : Nat.ofDigitChars 10 digits 0 = port

/-- A spelling of what stands behind a host: nothing, or a colon and a numeral. -/
inductive WritesPort : Option (Fin 65536) → List Char → Prop where
  | absent : WritesPort none []
  | decimal {port : Fin 65536} {digits : List Char} (numeral : IsPortNumeral digits port) :
      WritesPort (some port) (':' :: digits)

/-- A spelling of a host and the port behind it. -/
def HostName.Writes (name : HostName) (port? : Option (Fin 65536)) (text : List Char) : Prop :=
  ∃ port, text = name.text ++ port ∧ WritesPort port? port

/-! ## Origins -/

/-- The scheme, host and port of a page; the port may be left out. -/
structure WebOrigin where
  scheme : WebScheme
  host : HostName
  port? : Option (Fin 65536)

namespace WebOrigin

/-- The port, or the default one of the scheme. -/
def port (origin : WebOrigin) : Nat :=
  (origin.port?.map Fin.val).getD origin.scheme.defaultPort

/-- Whether browsers take two origins for the same. -/
structure Same (left right : WebOrigin) : Prop where
  scheme : left.scheme = right.scheme
  host : Text.lower left.host.text = Text.lower right.host.text
  port : left.port = right.port

/-- A spelling of an origin. -/
def Writes (origin : WebOrigin) (text : List Char) : Prop :=
  ∃ word authority,
    text = word ++ "://".toList ++ authority ∧
      origin.scheme.Names word ∧ origin.host.Writes origin.port? authority

end WebOrigin

/-! ## Characters of a host name -/

section Characters

variable
  {character other : Char}

theorem isHostCharacter_of_isAlpha (letter : character.isAlpha = true) :
    isHostCharacter character = true := by
  simp [isHostCharacter, isLabelCharacter, Char.isAlphanum, letter]

theorem isHostCharacter_of_isDigit (digit : character.isDigit = true) :
    isHostCharacter character = true := by
  simp [isHostCharacter, isLabelCharacter, Char.isAlphanum, digit]

theorem ne_of_isHostCharacter
    (host : isHostCharacter character = true)
    (foreign : isHostCharacter other = false) :
    character ≠ other := by
  rintro rfl
  rw [host] at foreign
  cases foreign

theorem toNat_lt_of_isHostCharacter (host : isHostCharacter character = true) :
    character.toNat < 128 := by
  simp only [isHostCharacter, isLabelCharacter, Bool.or_eq_true, beq_iff_eq] at host
  rcases host with (alphanumeric | rfl) | rfl
  · rcases Bool.or_eq_true_iff.mp alphanumeric with letter | digit
    · rcases Text.isUpper_or_isLower letter with upper | lower
      · exact Nat.lt_of_le_of_lt (Text.toNat_of_isUpper upper).2 (by decide)
      · exact Nat.lt_of_le_of_lt (Text.toNat_of_isLower lower).2 (by decide)
    · exact Nat.lt_of_le_of_lt (Text.toNat_of_isDigit digit).2 (by decide)
  · decide
  · decide

/-- What is checked of the host characters in the ASCII range holds of every host character. -/
theorem forall_isHostCharacter
    (property : Char → Prop)
    (checked :
      ∀ code < 128,
        isHostCharacter (Char.ofNat code) = true → property (Char.ofNat code))
    (host : isHostCharacter character = true) :
    property character := by
  have holds := checked character.toNat (toNat_lt_of_isHostCharacter host)
  rw [Char.ofNat_toNat] at holds
  exact holds host

theorem isAlpha_of_isAlpha_toLower
    (letter : character.toLower.isAlpha = true) :
    character.isAlpha = true := by
  cases upper : character.isUpper with
  | true => exact Bool.or_eq_true_iff.mpr (Or.inl upper)
  | false =>
      have same : character.toLower = character := dif_neg (of_decide_eq_false upper)
      rwa [same] at letter

theorem lower_lower
    {text : List Char} (host : ∀ character ∈ text, isHostCharacter character = true) :
    Text.lower (Text.lower text) = Text.lower text := by
  rw [Text.lower, Text.lower, List.map_map]
  apply List.map_congr_left
  intro character member
  exact forall_isHostCharacter
    (fun character => character.toLower.toLower = character.toLower)
    (by decide) (host character member)

end Characters

namespace WebScheme

variable
  {scheme : WebScheme}
  {word : List Char}

theorem text_eq_iff {left right : WebScheme} : left.text = right.text ↔ left = right := by
  constructor
  · intro equal
    cases left <;> cases right
    · rfl
    · exact absurd equal (by decide)
    · exact absurd equal (by decide)
    · rfl
  · exact congrArg text

theorem Names.isAlpha
    (named : scheme.Names word) :
    ∀ character ∈ word, character.isAlpha = true := by
  intro character member
  apply isAlpha_of_isAlpha_toLower
  have lowered : character.toLower ∈ scheme.text.toList := by
    rw [← named]
    exact List.mem_map_of_mem member
  have letters : ∀ letter ∈ scheme.text.toList, letter.isAlpha = true := by
    apply List.all_eq_true.mp
    cases scheme <;> rfl
  exact letters _ lowered

theorem Names.eq_cons
    (named : scheme.Names word) :
    ∃ first rest, word = first :: rest := by
  cases word with
  | nil => cases scheme <;> cases named
  | cons first rest => exact ⟨first, rest, rfl⟩

end WebScheme

/-! ## Labels and names -/

namespace IsHostLabel

variable
  {label : List Char}

theorem isHostCharacter
    (valid : IsHostLabel label) :
    ∀ character ∈ label, isHostCharacter character = true := by
  intro character member
  have plain : isLabelCharacter character = true :=
    List.all_eq_true.mp valid.plain character member
  rw [SessionGateway.isHostCharacter, plain, Bool.true_or]

theorem eq_cons
    (valid : IsHostLabel label) :
    ∃ first rest, label = first :: rest ∧ first.isAlpha = true := by
  cases label with
  | nil => cases valid.letter
  | cons first rest => exact ⟨first, rest, rfl, valid.letter⟩

theorem lower
    (valid : IsHostLabel label) :
    IsHostLabel (Text.lower label) := by
  constructor
  · obtain ⟨first, rest, rfl, letter⟩ := valid.eq_cons
    exact forall_isHostCharacter
      (fun character => character.isAlpha = true → character.toLower.isAlpha = true)
      (by decide) (isHostCharacter_of_isAlpha letter) letter
  · apply List.all_eq_true.mpr
    intro character member
    obtain ⟨former, formerMember, rfl⟩ := List.mem_map.mp member
    exact forall_isHostCharacter
      (fun character =>
        isLabelCharacter character = true → isLabelCharacter character.toLower = true)
      (by decide) (valid.isHostCharacter former formerMember)
      (List.all_eq_true.mp valid.plain former formerMember)
  · rw [lower_lower valid.isHostCharacter]
    exact valid.literal

end IsHostLabel

namespace HostName

theorem dotFree
    (name : HostName) :
    ∀ label ∈ name.labels, '.' ∉ label := by
  intro label member dot
  exact absurd (List.all_eq_true.mp (name.valid label member).plain '.' dot) (by decide)

theorem splitOn_text (name : HostName) : name.text.splitOn '.' = name.labels :=
  List.splitOn_intercalate '.' name.dotFree name.nonempty

theorem isHostCharacter_of_mem
    {name : HostName} {character : Char} (member : character ∈ name.text) :
    isHostCharacter character = true := by
  rcases Text.mem_intercalate member with rfl | ⟨label, labelMember, inner⟩
  · rfl
  · exact (name.valid label labelMember).isHostCharacter character inner

theorem text_eq_cons
    (name : HostName) :
    ∃ first rest, name.text = first :: rest ∧ first.isAlpha = true := by
  obtain ⟨labels, nonempty, valid⟩ := name
  cases labels with
  | nil => exact absurd rfl nonempty
  | cons label others =>
      obtain ⟨first, rest, rfl, letter⟩ := (valid label List.mem_cons_self).eq_cons
      cases others with
      | nil => exact ⟨first, rest, List.intercalate_singleton, letter⟩
      | cons second others => exact ⟨first, _, List.intercalate_cons_cons, letter⟩

theorem text_ne_nil (name : HostName) : name.text ≠ [] := by
  obtain ⟨first, rest, cons, -⟩ := name.text_eq_cons
  rw [cons]
  exact List.cons_ne_nil first rest

/-- The same name in lower case. -/
def lowered (name : HostName) : HostName where
  labels := name.labels.map Text.lower
  nonempty := by simpa using name.nonempty
  valid := by
    intro label member
    obtain ⟨former, formerMember, rfl⟩ := List.mem_map.mp member
    exact (name.valid former formerMember).lower

theorem lower_intercalate (labels : List (List Char)) :
    Text.lower (['.'].intercalate labels) = ['.'].intercalate (labels.map Text.lower) := by
  induction labels with
  | nil => rfl
  | cons first rest induction =>
      cases rest with
      | nil => simp
      | cons second rest =>
          rw [List.intercalate_cons_cons, Text.lower, List.map_append, List.map_append]
          rw [Text.lower] at induction
          rw [induction]
          exact List.intercalate_cons_cons.symm

theorem text_lowered (name : HostName) : name.lowered.text = Text.lower name.text :=
  (lower_intercalate name.labels).symm

end HostName

/-! ## Characters of a spelling -/

section Spelling

variable
  {name : HostName}
  {port? : Option (Fin 65536)}
  {text : List Char}

theorem IsPortNumeral.digit
    {port : Fin 65536} (numeral : IsPortNumeral text port) :
    ∀ character ∈ text, character.isDigit = true :=
  List.all_eq_true.mp numeral.decimal

/-- Both readers of a port take a numeral below 65536 for the number it stands for. -/
theorem IsPortNumeral.read
    {port : Fin 65536} (numeral : IsPortNumeral text port) :
    (Text.decimal? text).filter (· < 65536) = some port.val := by
  rw [Text.decimal?_of_isDigit numeral.nonempty numeral.digit, numeral.value]
  exact Option.filter_some_pos (decide_eq_true port.isLt)

theorem WritesPort.characters
    (written : WritesPort port? text) :
    ∀ character ∈ text, character.isDigit = true ∨ character = ':' := by
  intro character member
  cases written with
  | absent => cases member
  | decimal numeral =>
      rcases List.mem_cons.mp member with colon | inner
      · exact Or.inr colon
      · exact Or.inl (numeral.digit character inner)

theorem HostName.Writes.characters
    (written : name.Writes port? text) :
    ∀ character ∈ text, isHostCharacter character = true ∨ character = ':' := by
  obtain ⟨port, rfl, portWritten⟩ := written
  intro character member
  rcases List.mem_append.mp member with name | number
  · exact Or.inl (HostName.isHostCharacter_of_mem name)
  · exact (portWritten.characters character number).imp_left isHostCharacter_of_isDigit

theorem HostName.Writes.not_mem
    (written : name.Writes port? text)
    {other : Char} (foreign : isHostCharacter other = false) (notColon : other ≠ ':') :
    other ∉ text := by
  intro member
  rcases written.characters other member with host | colon
  · exact ne_of_isHostCharacter host foreign rfl
  · exact notColon colon

theorem HostName.Writes.eq_cons
    (written : name.Writes port? text) :
    ∃ first rest, text = first :: rest ∧ first.isAlpha = true := by
  obtain ⟨port, rfl, -⟩ := written
  obtain ⟨first, rest, name, letter⟩ := name.text_eq_cons
  exact ⟨first, rest ++ port, by rw [name, List.cons_append], letter⟩

theorem WebOrigin.Writes.eq_cons
    {origin : WebOrigin} (written : origin.Writes text) :
    ∃ first rest, text = first :: rest ∧ first.isAlpha = true := by
  obtain ⟨word, authority, rfl, named, -⟩ := written
  obtain ⟨first, rest, rfl⟩ := named.eq_cons
  exact ⟨first, _, rfl, named.isAlpha first List.mem_cons_self⟩

end Spelling

end SessionGateway
