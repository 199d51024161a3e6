import Mathlib.Logic.Basic
import SessionGateway.Json.Text

/-!
# The grammar of JSON strings

RFC 8259 as far as strings go, stated without a reader: `Spells` lists the ways
to write one character, `Content` those to write a run of them, and `Literal`
adds the quotes.

`readText_eq_some_iff` says that the reader follows the grammar, in both
directions and with whatever text behind the closing quote; so a literal stands
for one string only.  `literal_writeText` says that the writer does.  The last
section is about what the reader stops at.
-/

namespace SessionGateway.Json

/-! ## The grammar -/

/-- The characters that have an escape of one letter. -/
inductive Escapes : Char → Char → Prop where
  | quote : Escapes '"' '"'
  | backslash : Escapes '\\' '\\'
  | solidus : Escapes '/' '/'
  | backspace : Escapes 'b' '\x08'
  | formFeed : Escapes 'f' '\x0c'
  | lineFeed : Escapes 'n' '\n'
  | carriageReturn : Escapes 'r' '\r'
  | tab : Escapes 't' '\t'

/-- Four hexadecimal digits, in either case, and the number they name. -/
inductive NamesUnit : List Char → Nat → Prop where
  | digits {a b c d : Char} {i j k l : Nat}
      (first : Text.hexValue? a = some i)
      (second : Text.hexValue? b = some j)
      (third : Text.hexValue? c = some k)
      (fourth : Text.hexValue? d = some l) :
      NamesUnit [a, b, c, d] (4096 * i + 256 * j + 16 * k + l)

/--
The ways to write one character of a string.  No character has the number of
half a surrogate pair, so such a half names a character only together with the
other one.
-/
inductive Spells : List Char → Char → Prop where
  | unescaped {character : Char}
      (printable : 0x20 ≤ character.toNat)
      (notQuote : character ≠ '"')
      (notBackslash : character ≠ '\\') :
      Spells [character] character
  | escape {letter character : Char} (escapes : Escapes letter character) :
      Spells ['\\', letter] character
  | unit {digits : List Char} {character : Char}
      (names : NamesUnit digits character.toNat) :
      Spells ('\\' :: 'u' :: digits) character
  | pair {left right : List Char} {leading trailing : Nat} {character : Char}
      (namesLeading : NamesUnit left leading)
      (namesTrailing : NamesUnit right trailing)
      (leads : 0xD800 ≤ leading ∧ leading < 0xDC00)
      (trails : 0xDC00 ≤ trailing ∧ trailing < 0xE000)
      (number :
        character.toNat = 0x10000 + (leading - 0xD800) * 1024 + (trailing - 0xDC00)) :
      Spells ('\\' :: 'u' :: (left ++ '\\' :: 'u' :: right)) character

/-- What may stand between the quotes of a string. -/
inductive Content : List Char → List Char → Prop where
  | nil : Content [] []
  | cons {front rest text : List Char} {character : Char}
      (spells : Spells front character)
      (content : Content rest text) :
      Content (front ++ rest) (character :: text)

/-- A string between its quotes. -/
inductive Literal : List Char → List Char → Prop where
  | quoted {spelled text : List Char} (content : Content spelled text) :
      Literal ('"' :: (spelled ++ ['"'])) text

variable
    {front rest text digits left right : List Char}
    {character letter : Char}
    {unit leading trailing : Nat}

/-! ## Units -/

theorem escaped?_eq_some_iff : escaped? letter = some character ↔ Escapes letter character := by
  constructor
  · intro escaped
    unfold escaped? at escaped
    split at escaped
    all_goals cases escaped
    · exact .quote
    · exact .backslash
    · exact .solidus
    · exact .backspace
    · exact .formFeed
    · exact .lineFeed
    · exact .carriageReturn
    · exact .tab
  · intro escapes
    cases escapes <;> rfl

theorem unit?_eq_some_iff {a b c d : Char} :
    unit? a b c d = some unit ↔ NamesUnit [a, b, c, d] unit := by
  constructor
  · intro read
    simp only [unit?, Option.bind_eq_bind, Option.bind_eq_some_iff, Option.some.injEq] at read
    obtain ⟨i, first, j, second, k, third, l, fourth, same⟩ := read
    have number : unit = 4096 * i + 256 * j + 16 * k + l := by omega
    rw [number]
    exact .digits first second third fourth
  · intro names
    cases names with
    | digits first second third fourth =>
        simp only [unit?, first, second, third, fourth, Option.bind_eq_bind, Option.bind_some,
          Option.some.injEq]
        omega

theorem NamesUnit.exists_read (names : NamesUnit digits unit) :
    ∃ a b c d, digits = [a, b, c, d] ∧ unit? a b c d = some unit := by
  cases names with
  | digits first second third fourth =>
      exact
        ⟨_, _, _, _, rfl, unit?_eq_some_iff.mpr (.digits first second third fourth)⟩

theorem hexValue?_lt {value : Nat} (read : Text.hexValue? character = some value) :
    value < 16 := by
  unfold Text.hexValue? at read
  split at read
  · next digit =>
      have high : character.toNat ≤ 57 := UInt32.le_iff_toNat_le.mp digit.2
      cases read
      omega
  · split at read
    · next lower =>
        have high : character.toNat ≤ 102 := UInt32.le_iff_toNat_le.mp lower.2
        cases read
        omega
    · split at read
      · next upper =>
          have high : character.toNat ≤ 70 := UInt32.le_iff_toNat_le.mp upper.2
          cases read
          omega
      · cases read

theorem NamesUnit.lt (names : NamesUnit digits unit) : unit < 0x10000 := by
  cases names with
  | digits first second third fourth =>
      have i := hexValue?_lt first
      have j := hexValue?_lt second
      have k := hexValue?_lt third
      have l := hexValue?_lt fourth
      omega

theorem isLeading_iff : isLeading unit = true ↔ 0xD800 ≤ unit ∧ unit < 0xDC00 := by
  simp [isLeading]

theorem isTrailing_iff : isTrailing unit = true ↔ 0xDC00 ≤ unit ∧ unit < 0xE000 := by
  simp [isTrailing]

/-- Only half a surrogate pair is not the number of a character. -/
theorem isValidChar_of_unit
    (small : unit < 0x10000)
    (notLeading : ¬isLeading unit = true) (notTrailing : ¬isTrailing unit = true) :
    unit.isValidChar := by
  rw [isLeading_iff] at notLeading
  rw [isTrailing_iff] at notTrailing
  simp only [Nat.isValidChar]
  omega

theorem not_surrogate (character : Char) :
    ¬isLeading character.toNat = true ∧ ¬isTrailing character.toNat = true := by
  have valid :
      character.toNat < 0xD800 ∨ 0xDFFF < character.toNat ∧ character.toNat < 0x110000 :=
    character.valid
  rw [isLeading_iff, isTrailing_iff]
  omega

theorem toNat_ofNat {number : Nat} (valid : number.isValidChar) :
    (Char.ofNat number).toNat = number := by
  rw [Char.ofNat, dif_pos valid]
  rfl

/-! ## The reader accepts what the grammar allows -/

theorem readText_unescaped
    (printable : 0x20 ≤ character.toNat) (notQuote : character ≠ '"')
    (notBackslash : character ≠ '\\') (rest : List Char) :
    readText (character :: rest) = prepend character (readText rest) := by
  rw [readText]
  · rw [if_neg]
    rw [not_or, Nat.not_lt]
    exact ⟨printable, notBackslash⟩
  · exact notQuote
  · intros
    contradiction
  · intros
    contradiction

theorem readText_escape (escapes : Escapes letter character) (rest : List Char) :
    readText ('\\' :: letter :: rest) = prepend character (readText rest) := by
  rw [readText]
  · rw [escaped?_eq_some_iff.mpr escapes]
  · cases escapes <;> simp

theorem readText_unit (names : NamesUnit digits character.toNat) (rest : List Char) :
    readText ('\\' :: 'u' :: (digits ++ rest)) = prepend character (readText rest) := by
  obtain ⟨a, b, c, d, rfl, read⟩ := names.exists_read
  obtain ⟨notLeading, notTrailing⟩ := not_surrogate character
  simp only [List.cons_append, List.nil_append]
  rw [readText, read]
  simp [notLeading, notTrailing]

theorem readText_pair
    (namesLeading : NamesUnit left leading) (namesTrailing : NamesUnit right trailing)
    (leads : isLeading leading = true) (trails : isTrailing trailing = true)
    (rest : List Char) :
    readText ('\\' :: 'u' :: (left ++ '\\' :: 'u' :: (right ++ rest))) =
      prepend (pairCharacter leading trailing) (readText rest) := by
  obtain ⟨a, b, c, d, rfl, readLeading⟩ := namesLeading.exists_read
  obtain ⟨e, f, g, h, rfl, readTrailing⟩ := namesTrailing.exists_read
  simp only [List.cons_append, List.nil_append]
  rw [readText, readLeading]
  simp [leads, readTrailing, trails]

theorem readText_of_spells (spells : Spells front character) (rest : List Char) :
    readText (front ++ rest) = prepend character (readText rest) := by
  cases spells with
  | unescaped printable notQuote notBackslash =>
      exact readText_unescaped printable notQuote notBackslash rest
  | escape escapes => exact readText_escape escapes rest
  | unit names => exact readText_unit names rest
  | @pair left right leading trailing _ namesLeading namesTrailing leads trails number =>
      have same : pairCharacter leading trailing = character := by
        rw [pairCharacter, ← number, Char.ofNat_toNat]
      have read :=
        readText_pair namesLeading namesTrailing (isLeading_iff.mpr leads)
          (isTrailing_iff.mpr trails) rest
      rw [same] at read
      simpa using read

/-- What was read of a string is passed over, whatever comes behind it. -/
theorem readText_of_content {spelled : List Char} (content : Content spelled text)
    (rest : List Char) :
    readText (spelled ++ rest) =
      (readText rest).map fun (tail, behind) => (text ++ tail, behind) := by
  induction content with
  | nil => simp
  | cons spells content induction =>
      rw [List.append_assoc, readText_of_spells spells, induction, prepend, Option.map_map]
      rfl

/-! ## The reader accepts nothing else -/

theorem spells_unit
    (names : NamesUnit digits unit)
    (notLeading : ¬isLeading unit = true) (notTrailing : ¬isTrailing unit = true) :
    Spells ('\\' :: 'u' :: digits) (Char.ofNat unit) := by
  apply Spells.unit
  rw [toNat_ofNat (isValidChar_of_unit names.lt notLeading notTrailing)]
  exact names

theorem spells_pair
    (namesLeading : NamesUnit left leading) (namesTrailing : NamesUnit right trailing)
    (leads : isLeading leading = true) (trails : isTrailing trailing = true) :
    Spells ('\\' :: 'u' :: (left ++ '\\' :: 'u' :: right))
      (pairCharacter leading trailing) := by
  rw [isLeading_iff] at leads
  rw [isTrailing_iff] at trails
  refine .pair namesLeading namesTrailing leads trails ?_
  apply toNat_ofNat
  simp only [Nat.isValidChar]
  omega

/-- One more character in front of what was read. -/
theorem content_of_prepend
    {behind : List Char}
    (spells : Spells front character)
    (inner : ∀ {text}, readText behind = some (text, rest) →
      ∃ spelled, Content spelled text ∧ behind = spelled ++ '"' :: rest)
    (read : prepend character (readText behind) = some (text, rest)) :
    ∃ spelled, Content spelled text ∧ front ++ behind = spelled ++ '"' :: rest := by
  obtain ⟨⟨tail, remaining⟩, found, same⟩ := Option.map_eq_some_iff.mp read
  cases same
  obtain ⟨spelled, content, split⟩ := inner found
  refine ⟨front ++ spelled, .cons spells content, ?_⟩
  rw [split, List.append_assoc]

theorem content_of_readText {input : List Char} (read : readText input = some (text, rest)) :
    ∃ spelled, Content spelled text ∧ input = spelled ++ '"' :: rest := by
  fun_induction readText input generalizing text with
  | case1 | case3 | case4 | case6 | case7 | case8 | case10 | case12 => cases read
  | case2 =>
      cases read
      exact ⟨[], .nil, rfl⟩
  | case5 a b c d leading readLeading leads e f g h behind trailing readTrailing trails
      induction =>
      have namesLeading := unit?_eq_some_iff.mp readLeading
      have namesTrailing := unit?_eq_some_iff.mp readTrailing
      exact
        content_of_prepend (spells_pair namesLeading namesTrailing leads trails) induction read
  | case9 a b c d behind unit readUnit notLeading notTrailing induction =>
      have names := unit?_eq_some_iff.mp readUnit
      exact content_of_prepend (spells_unit names notLeading notTrailing) induction read
  | case11 letter behind _ character escaped induction =>
      have escapes := escaped?_eq_some_iff.mp escaped
      exact content_of_prepend (.escape escapes) induction read
  | case13 character behind notQuote _ _ allowed induction =>
      rw [not_or, Nat.not_lt] at allowed
      obtain ⟨printable, notBackslash⟩ := allowed
      exact content_of_prepend (.unescaped printable notQuote notBackslash) induction read

/-- A string is read up to its closing quote, and as the grammar has it. -/
theorem readText_eq_some_iff {input : List Char} :
    readText input = some (text, rest) ↔
      ∃ spelled, Content spelled text ∧ input = spelled ++ '"' :: rest := by
  constructor
  · exact content_of_readText
  · rintro ⟨spelled, content, rfl⟩
    rw [readText_of_content content, readText]
    simp

/-! ## Where a string breaks off -/

/-- An escape of the second half of a surrogate pair. -/
inductive TrailingEscape : List Char → Prop where
  | escape {digits rest : List Char} {unit : Nat}
      (names : NamesUnit digits unit)
      (trails : isTrailing unit = true) :
      TrailingEscape ('\\' :: 'u' :: (digits ++ rest))

/-- What cannot stand in a string: a control character, or half a surrogate pair alone. -/
inductive Breaks : List Char → Prop where
  | control {character : Char} {rest : List Char} (control : character.toNat < 0x20) :
      Breaks (character :: rest)
  | loneTrailing {rest : List Char} (escape : TrailingEscape rest) : Breaks rest
  | loneLeading {digits rest : List Char} {unit : Nat}
      (names : NamesUnit digits unit)
      (leads : isLeading unit = true)
      (alone : ¬TrailingEscape rest) :
      Breaks ('\\' :: 'u' :: (digits ++ rest))

theorem readText_control (control : character.toNat < 0x20) (rest : List Char) :
    readText (character :: rest) = none := by
  have notQuote : character ≠ '"' := by
    rintro rfl
    exact absurd control (by decide)
  have notBackslash : character ≠ '\\' := by
    rintro rfl
    exact absurd control (by decide)
  rw [readText]
  · rw [if_pos (Or.inl control)]
  · exact notQuote
  · intros
    contradiction
  · intros
    contradiction

theorem readText_loneTrailing (escape : TrailingEscape rest) : readText rest = none := by
  obtain ⟨names, trails⟩ := escape
  obtain ⟨a, b, c, d, rfl, read⟩ := names.exists_read
  have bounds := isTrailing_iff.mp trails
  simp only [List.cons_append, List.nil_append]
  rw [readText, read]
  dsimp only
  rw [if_neg, if_pos trails]
  rw [isLeading_iff]
  omega

theorem readText_loneLeading
    (names : NamesUnit digits unit) (leads : isLeading unit = true)
    (alone : ¬TrailingEscape rest) :
    readText ('\\' :: 'u' :: (digits ++ rest)) = none := by
  obtain ⟨a, b, c, d, rfl, read⟩ := names.exists_read
  simp only [List.cons_append, List.nil_append]
  rw [readText, read]
  dsimp only
  rw [if_pos leads]
  split
  · next e f g h behind =>
      split
      · rfl
      · next second readSecond =>
          rw [if_neg]
          intro trails
          exact alone (.escape (unit?_eq_some_iff.mp readSecond) trails)
  · rfl

theorem readText_of_breaks (breaks : Breaks rest) : readText rest = none := by
  cases breaks with
  | control control => exact readText_control control _
  | loneTrailing escape => exact readText_loneTrailing escape
  | loneLeading names leads alone => exact readText_loneLeading names leads alone

/-! ## No control characters -/

/-- No character of the text is a control character. -/
def Printable (text : List Char) : Prop :=
  ∀ character ∈ text, 0x20 ≤ character.toNat

theorem Printable.append (front : Printable left) (back : Printable right) :
    Printable (left ++ right) := by
  intro character member
  rcases List.mem_append.mp member with former | latter
  · exact front character former
  · exact back character latter

theorem Printable.cons (first : 0x20 ≤ character.toNat) (others : Printable rest) :
    Printable (character :: rest) :=
  List.forall_mem_cons.mpr ⟨first, others⟩

theorem printable_hexDigit {value : Nat} (read : Text.hexValue? character = some value) :
    0x20 ≤ character.toNat := by
  rcases Nat.lt_or_ge character.toNat 0x20 with control | printable
  · have all : ∀ number < 0x20, Text.hexValue? (Char.ofNat number) = none := by decide
    have none := all character.toNat control
    rw [Char.ofNat_toNat, read] at none
    cases none
  · exact printable

theorem NamesUnit.printable (names : NamesUnit digits unit) : Printable digits := by
  cases names with
  | digits first second third fourth =>
      have last : Printable [_] := .cons (printable_hexDigit fourth) nofun
      exact
        .cons (printable_hexDigit first)
          (.cons (printable_hexDigit second) (.cons (printable_hexDigit third) last))

/-- Every way to write a character does without control characters. -/
theorem Spells.printable (spells : Spells front character) : Printable front := by
  have escape {digits : List Char} (names : Printable digits) :
      Printable ('\\' :: 'u' :: digits) :=
    .cons (by decide) (.cons (by decide) names)
  cases spells with
  | unescaped printable => exact .cons printable nofun
  | escape escapes => cases escapes <;> exact .cons (by decide) (.cons (by decide) nofun)
  | unit names => exact escape names.printable
  | pair namesLeading namesTrailing =>
      exact escape (namesLeading.printable.append (escape namesTrailing.printable))

theorem Content.printable {spelled : List Char} (content : Content spelled text) :
    Printable spelled := by
  induction content with
  | nil => exact nofun
  | cons spells _ induction => exact spells.printable.append induction

theorem Literal.printable {spelled : List Char} (literal : Literal spelled text) :
    Printable spelled := by
  cases literal with
  | quoted content =>
      exact .cons (by decide) (content.printable.append (.cons (by decide) nofun))

/-! ## The writer -/

theorem hexValue?_hexDigit {value : Nat} (small : value < 16) :
    Text.hexValue? (Text.hexDigit value) = some value := by
  have all : ∀ digit < 16, Text.hexValue? (Text.hexDigit digit) = some digit := by decide
  exact all value small

theorem namesUnit_hexDigits {number : Nat} (small : number < 0x10000) :
    NamesUnit (Text.hexDigits 4 number) number := by
  have split :
      number =
        4096 * (number / 16 / 16 / 16 % 16) + 256 * (number / 16 / 16 % 16) +
          16 * (number / 16 % 16) + number % 16 := by
    omega
  have digit (value : Nat) :
      Text.hexValue? (Text.hexDigit (value % 16)) = some (value % 16) :=
    hexValue?_hexDigit (Nat.mod_lt value (by decide))
  have named : NamesUnit (Text.hexDigits 4 number) _ :=
    .digits (digit (number / 16 / 16 / 16)) (digit (number / 16 / 16)) (digit (number / 16))
      (digit number)
  rwa [← split] at named

theorem spells_writeCharacter (character : Char) :
    Spells (writeCharacter character) character := by
  unfold writeCharacter
  split
  · exact .escape .quote
  · exact .escape .backslash
  · exact .escape .backspace
  · exact .escape .formFeed
  · exact .escape .lineFeed
  · exact .escape .carriageReturn
  · exact .escape .tab
  · next notQuote notBackslash _ _ _ _ _ =>
      split
      · next control => exact .unit (namesUnit_hexDigits (by omega))
      · next printable => exact .unescaped (Nat.le_of_not_lt printable) notQuote notBackslash

theorem literal_writeText (text : List Char) : Literal (writeText text) text := by
  apply Literal.quoted
  induction text with
  | nil => exact .nil
  | cons character rest induction =>
      rw [List.flatMap_cons]
      exact .cons (spells_writeCharacter character) induction

end SessionGateway.Json
