import SessionGateway.Domain.Composition.Table
import SessionGateway.Text.CodeSet

/-!
# Composition

A letter with marks can be written in several ways.  The composed form is the
one with as few characters as possible: all characters are taken apart, the
marks behind each letter are put in order of their combining class, and what
can be composed is composed again.
-/

namespace SessionGateway.Domain

/-! ## Tables -/

/-- A character and the two that it is composed of. -/
structure Composite where
  whole : Char
  first : Char
  second : Char
  deriving DecidableEq, Repr

/-- Reads an entry of the table. -/
def Composite.ofWord? (word : String) : Option Composite :=
  match (word.splitOn "=").flatMap (·.splitOn ".") with
  | [whole, first, second] => do
      pure
        { whole := .ofNat (← Text.numeral? 16 whole.toList)
          first := .ofNat (← Text.numeral? 16 first.toList)
          second := .ofNat (← Text.numeral? 16 second.toList) }
  | _ => none

/-- The composites of the table. -/
def composites : List Composite :=
  compositionEntries.flatMap fun line => (line.splitOn " ").filterMap Composite.ofWord?

/-- The marks by combining class. -/
def combiningClasses : List (Nat × Text.CodeSet) :=
  combiningRanges.map fun (number, lines) => (number, .ofLines lines)

/-- The combining class of a character. -/
def combiningClass (character : Char) : Nat :=
  if character.toNat < 0x300 then
    0
  else
    ((combiningClasses.find? fun (_, set) => set.contains character).map Prod.fst).getD 0

/-- The combining class of the signs that silence the vowel of a letter. -/
def viramaClass : Nat := 9

/-! ## Hangul syllables -/

/-- The first syllable; syllables go by initial, vowel and final, 21 vowels and 28 finals. -/
def firstSyllable : Nat := 0xAC00

/-- The code point in front of the first final; a syllable without final counts as one. -/
def firstFinal : Nat := 0x11A7

/-- Takes a syllable apart: the final if it has one, else the vowel. -/
def decomposeSyllable? (character : Char) : Option (Char × Char) :=
  let code := character.toNat
  if firstSyllable ≤ code ∧ code ≤ 0xD7A3 then
    let place := code - firstSyllable
    if place % 28 = 0 then
      some (.ofNat (0x1100 + place / 588), .ofNat (0x1161 + place / 28 % 21))
    else
      some (.ofNat (code - place % 28), .ofNat (firstFinal + place % 28))
  else
    none

/-- Composes an initial and a vowel, or a syllable and a final. -/
def composeSyllable? (first second : Char) : Option Char :=
  let start := first.toNat
  let tail := second.toNat
  if 0x1100 ≤ start ∧ start ≤ 0x1112 ∧ 0x1161 ≤ tail ∧ tail ≤ 0x1175 then
    some (.ofNat (firstSyllable + ((start - 0x1100) * 21 + (tail - 0x1161)) * 28))
  else if firstSyllable ≤ start ∧ start ≤ 0xD7A3 ∧ (start - firstSyllable) % 28 = 0 ∧
      firstFinal < tail ∧ tail ≤ 0x11C2 then
    some (.ofNat (start + (tail - firstFinal)))
  else
    none

/-! ## The composed form -/

/-- The two characters that a character is composed of. -/
def decomposeOnce? (character : Char) : Option (Char × Char) :=
  (decomposeSyllable? character).or <|
    (composites.find? (·.whole == character)).map fun found => (found.first, found.second)

/-- The character that is composed of two others. -/
def composeOnce? (first second : Char) : Option Char :=
  (composeSyllable? first second).or <|
    (composites.find? fun pair => pair.first == first && pair.second == second).map (·.whole)

/-- Takes a character apart, at most `depth` times; no character needs more than four. -/
def decompose (depth : Nat) (character : Char) : List Char :=
  match depth, decomposeOnce? character with
  | depth + 1, some (first, second) => decompose depth first ++ decompose depth second
  | _, _ => [character]

/-- Puts a mark in its place behind a letter; the last character comes first. -/
def insertMark (character : Char) : List Char → List Char
  | [] => [character]
  | last :: rest =>
      let number := combiningClass character
      if number ≠ 0 ∧ number < combiningClass last then
        last :: insertMark character rest
      else
        character :: last :: rest

/-- Puts the marks behind each letter in order; marks of one class keep their order. -/
def order (text : List Char) : List Char :=
  (text.foldl (fun ordered character => insertMark character ordered) []).reverse

/--
Composes a letter with what follows.  The marks that could not be composed
with it stand behind it; a character is blocked by one of its own class or a
higher one, and by any mark if it is a letter.
-/
def composeLetter (letter : Char) (marks : List Char) : List Char → List Char
  | [] => letter :: marks
  | character :: rest =>
      let number := combiningClass character
      let isBlocked : Bool := match marks.getLast? with
        | some mark => number ≤ combiningClass mark
        | none => false
      match if isBlocked then none else composeOnce? letter character with
      | some whole => composeLetter whole marks rest
      | none =>
          if number = 0 then
            letter :: marks ++ composeLetter character [] rest
          else
            composeLetter letter (marks ++ [character]) rest

/-- Composes an ordered text; marks in front of the first letter stay as they are. -/
def composeOrdered : List Char → List Char
  | [] => []
  | character :: rest =>
      if combiningClass character = 0 then
        composeLetter character [] rest
      else
        character :: composeOrdered rest

/-- The composed form of a text. -/
def compose (text : List Char) : List Char :=
  composeOrdered (order (text.flatMap (decompose 4)))

end SessionGateway.Domain
