import SessionGateway.Text.Ascii

/-!
# JSON strings

Strings between double quotes, by RFC 8259 to the letter: no control
character stands for itself, and an escape of half a surrogate pair alone is
refused.  `Json.writeText` escapes as little as possible.
-/

namespace SessionGateway.Json

/-! ## Reading -/

/-- The number that four hexadecimal digits name. -/
def unit? (a b c d : Char) : Option Nat := do
  some (((← Text.hexValue? a) * 16 + (← Text.hexValue? b)) * 256 +
    ((← Text.hexValue? c) * 16 + (← Text.hexValue? d)))

/-- The first half of a surrogate pair. -/
def isLeading (unit : Nat) : Bool :=
  0xD800 ≤ unit && unit < 0xDC00

/-- The second half of a surrogate pair. -/
def isTrailing (unit : Nat) : Bool :=
  0xDC00 ≤ unit && unit < 0xE000

/-- The character of a surrogate pair. -/
def pairCharacter (leading trailing : Nat) : Char :=
  Char.ofNat (0x10000 + (leading - 0xD800) * 1024 + (trailing - 0xDC00))

/-- The character behind a backslash, for the escapes of one character. -/
def escaped? : Char → Option Char
  | '"' => some '"'
  | '\\' => some '\\'
  | '/' => some '/'
  | 'b' => some '\x08'
  | 'f' => some '\x0c'
  | 'n' => some '\n'
  | 'r' => some '\r'
  | 't' => some '\t'
  | _ => none

/-- Puts a character in front of a string that was read. -/
def prepend (character : Char) : Option (List Char × List Char) → Option (List Char × List Char) :=
  Option.map fun (text, rest) => (character :: text, rest)

/-- Reads a string up to its closing quote; the opening one is already read. -/
def readText : List Char → Option (List Char × List Char)
  | [] => none
  | '"' :: rest => some ([], rest)
  | '\\' :: 'u' :: a :: b :: c :: d :: rest =>
      match unit? a b c d with
      | none => none
      | some unit =>
          if isLeading unit then
            match rest with
            | '\\' :: 'u' :: e :: f :: g :: h :: rest =>
                match unit? e f g h with
                | none => none
                | some second =>
                    if isTrailing second then
                      prepend (pairCharacter unit second) (readText rest)
                    else
                      none
            | _ => none
          else if isTrailing unit then
            none
          else
            prepend (Char.ofNat unit) (readText rest)
  | '\\' :: character :: rest =>
      match escaped? character with
      | none => none
      | some plain => prepend plain (readText rest)
  | character :: rest =>
      if character.toNat < 0x20 ∨ character = '\\' then
        none
      else
        prepend character (readText rest)

theorem prepend_length {character : Char} {read : Option (List Char × List Char)} {bound : Nat}
    (shorter : ∀ {inner}, read = some inner → inner.2.length < bound)
    {result : List Char × List Char} (prepended : prepend character read = some result) :
    result.2.length < bound := by
  obtain ⟨⟨text, rest⟩, found, rfl⟩ := Option.map_eq_some_iff.1 prepended
  exact @shorter (text, rest) found

theorem readText_length {text : List Char} {result : List Char × List Char}
    (read : readText text = some result) : result.2.length < text.length := by
  fun_induction readText text generalizing result with
  | case1 | case3 | case4 | case6 | case7 | case8 | case10 | case12 => cases read
  | case2 =>
      cases read
      simp
  | case5 | case9 | case11 | case13 =>
      rename_i hypothesis
      have shorter := prepend_length hypothesis read
      simp only [List.length_cons]
      omega

/-! ## Writing -/

/-- A character as it stands in a string. -/
def writeCharacter (character : Char) : List Char :=
  match character with
  | '"' => ['\\', '"']
  | '\\' => ['\\', '\\']
  | '\x08' => ['\\', 'b']
  | '\x0c' => ['\\', 'f']
  | '\n' => ['\\', 'n']
  | '\r' => ['\\', 'r']
  | '\t' => ['\\', 't']
  | _ =>
      if character.toNat < 0x20 then
        ['\\', 'u'] ++ Text.hexDigits 4 character.toNat
      else
        [character]

/-- A string between its quotes. -/
def writeText (text : List Char) : List Char :=
  '"' :: text.flatMap writeCharacter ++ ['"']

end SessionGateway.Json
