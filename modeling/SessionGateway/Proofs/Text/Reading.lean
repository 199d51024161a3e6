import Mathlib.Data.List.TakeDrop
import SessionGateway.Text.Ascii

/-!
# Pieces and numerals

Facts that every reader of a longer text rests on.  A piece is split off
exactly where the first character that does not belong to it stands, or behind
the last separator.  A text of digits is read as the number it stands for,
however many zeros it starts with; a text that a letter starts is no decimal
numeral.
-/

namespace SessionGateway.Text

/-! ## Pieces -/

theorem span_append
    {belongs : Char → Bool} {piece rest : List Char}
    (inside : ∀ character ∈ piece, belongs character = true)
    (boundary : ∀ character ∈ rest.head?, belongs character = false) :
    (piece ++ rest).span belongs = (piece, rest) := by
  have stops : rest.takeWhile belongs = [] ∧ rest.dropWhile belongs = rest := by
    cases rest with
    | nil => exact ⟨rfl, rfl⟩
    | cons first others =>
        have foreign : belongs first = false := boundary first rfl
        simp [foreign]
  rw [List.span_eq_takeWhile_dropWhile, List.takeWhile_append_of_pos inside,
    List.dropWhile_append_of_pos inside, stops.1, stops.2, List.append_nil]

theorem span_whole
    {belongs : Char → Bool} {text : List Char}
    (inside : ∀ character ∈ text, belongs character = true) :
    text.span belongs = (text, []) := by
  have split : (text ++ []).span belongs = (text, []) := span_append inside (by simp)
  rwa [List.append_nil] at split

theorem dropWhile_of_kept
    {dropped : Char → Bool} {text : List Char}
    (kept : ∀ character ∈ text, dropped character = false) :
    text.dropWhile dropped = text := by
  cases text with
  | nil => rfl
  | cons first rest =>
      rw [List.dropWhile_cons_of_neg]
      simp [kept first List.mem_cons_self]

theorem stripped_of_kept
    {dropped : Char → Bool} {text : List Char}
    (kept : ∀ character ∈ text, dropped character = false) :
    ((text.dropWhile dropped).reverse.dropWhile dropped).reverse = text := by
  have keptBackwards : ∀ character ∈ text.reverse, dropped character = false := by
    intro character member
    exact kept character (List.mem_reverse.mp member)
  rw [dropWhile_of_kept kept, dropWhile_of_kept keptBackwards, List.reverse_reverse]

/-- A text taken apart behind its last separator; without one, all of it is the piece. -/
structure LastCut (separator : Char) (text before piece : List Char) : Prop where
  whole : text = before ++ piece
  ends : ∀ character ∈ before.getLast?, character = separator
  foreign : separator ∉ piece

theorem exists_lastCut (separator : Char) (text : List Char) :
    ∃ before piece, LastCut separator text before piece := by
  by_cases member : separator ∈ text.reverse
  · obtain ⟨behind, before, split, foreign⟩ := List.eq_append_cons_of_mem member
    refine ⟨before.reverse ++ [separator], behind.reverse, ?_, ?_, ?_⟩
    · rw [← List.reverse_reverse text, split]
      simp
    · simp
    · simpa using foreign
  · exact ⟨[], text, rfl, by simp, by simpa using member⟩

namespace LastCut

variable
  {separator : Char}
  {text before piece : List Char}

theorem getLast?_splitOn (cut : LastCut separator text before piece) :
    (text.splitOn separator).getLast? = some piece := by
  obtain ⟨rfl, ends, foreign⟩ := cut
  have alone : piece.splitOn separator = [piece] := List.splitOn_eq_singleton foreign
  rcases List.eq_nil_or_concat before with rfl | ⟨front, last, rfl⟩
  · rw [List.nil_append, alone]
    rfl
  · obtain rfl : last = separator := ends last (by simp)
    rw [List.concat_eq_append, List.append_assoc, List.singleton_append,
      List.splitOn_append_cons_self, alone, List.getLast?_concat]

/-- Nothing in front of a separator moves the place of the cut. -/
theorem behind (cut : LastCut separator text before piece) (front : List Char) :
    LastCut separator (front ++ separator :: text) (front ++ separator :: before) piece where
  whole := by simp [cut.whole]
  ends := by
    intro character last
    rw [List.getLast?_append, List.getLast?_cons, Option.some_or, Option.mem_some] at last
    rw [← last]
    cases behind : before.getLast? with
    | none => rfl
    | some character => exact cut.ends character behind
  foreign := cut.foreign

end LastCut

theorem mem_intercalate
    {separator character : Char} {pieces : List (List Char)}
    (member : character ∈ [separator].intercalate pieces) :
    character = separator ∨ ∃ piece ∈ pieces, character ∈ piece := by
  induction pieces with
  | nil => cases member
  | cons first rest induction =>
      cases rest with
      | nil =>
          rw [List.intercalate_singleton] at member
          exact Or.inr ⟨first, List.mem_cons_self, member⟩
      | cons second rest =>
          rw [List.intercalate_cons_cons, List.append_assoc, List.mem_append] at member
          rcases member with front | back
          · exact Or.inr ⟨first, List.mem_cons_self, front⟩
          · rcases List.mem_cons.mp back with between | later
            · exact Or.inl between
            · rcases induction later with between | ⟨piece, pieceMember, inner⟩
              · exact Or.inl between
              · exact Or.inr ⟨piece, List.mem_cons_of_mem first pieceMember, inner⟩

/-! ## Letters and digits -/

theorem isUpper_or_isLower {character : Char} (letter : character.isAlpha = true) :
    character.isUpper = true ∨ character.isLower = true :=
  Bool.or_eq_true_iff.mp letter

theorem toNat_of_isUpper {character : Char} (upper : character.isUpper = true) :
    65 ≤ character.toNat ∧ character.toNat ≤ 90 := by
  obtain ⟨low, high⟩ := of_decide_eq_true upper
  exact ⟨UInt32.le_iff_toNat_le.mp low, UInt32.le_iff_toNat_le.mp high⟩

theorem toNat_of_isLower {character : Char} (lower : character.isLower = true) :
    97 ≤ character.toNat ∧ character.toNat ≤ 122 := by
  obtain ⟨low, high⟩ := Bool.and_eq_true_iff.mp lower
  exact
    ⟨UInt32.le_iff_toNat_le.mp (of_decide_eq_true low),
      UInt32.le_iff_toNat_le.mp (of_decide_eq_true high)⟩

theorem toNat_of_isDigit {character : Char} (digit : character.isDigit = true) :
    48 ≤ character.toNat ∧ character.toNat ≤ 57 := by
  obtain ⟨low, high⟩ := Bool.and_eq_true_iff.mp digit
  exact
    ⟨UInt32.le_iff_toNat_le.mp (of_decide_eq_true low),
      UInt32.le_iff_toNat_le.mp (of_decide_eq_true high)⟩

/-! ## Numerals -/

theorem hexValue?_of_isDigit
    {character : Char} (digit : character.isDigit = true) :
    hexValue? character = some (character.toNat - 48) ∧ character.toNat - 48 < 10 := by
  simp only [Char.isDigit, Bool.and_eq_true, decide_eq_true_eq] at digit
  have high : character.toNat ≤ 57 := UInt32.le_iff_toNat_le.mp digit.2
  constructor
  · exact if_pos digit
  · omega

theorem hexValue?_of_isAlpha
    {character : Char} (letter : character.isAlpha = true) :
    ∀ value ∈ hexValue? character, 10 ≤ value := by
  have above : 65 ≤ character.toNat := by
    rcases isUpper_or_isLower letter with upper | lower
    · exact (toNat_of_isUpper upper).1
    · exact Nat.le_trans (by decide) (toNat_of_isLower lower).1
  intro value read
  rw [hexValue?, Option.mem_def] at read
  split at read
  · rename_i digit
    have high : character.toNat ≤ 57 := UInt32.le_iff_toNat_le.mp digit.2
    omega
  · split at read
    · rename_i lower
      have low : 97 ≤ character.toNat := UInt32.le_iff_toNat_le.mp lower.1
      cases read
      omega
    · split at read
      · cases read
        omega
      · cases read

/-- The value of a numeral with one more digit behind it. -/
def withDigit? (value? : Option Nat) (character : Char) : Option Nat := do
  let value ← value?
  let digit ← hexValue? character
  if digit < 10 then some (value * 10 + digit) else none

theorem decimal?_eq_foldl
    {digits : List Char} (nonempty : digits ≠ []) :
    decimal? digits = digits.foldl withDigit? (some 0) := by
  rw [decimal?, numeral?, if_neg (by simpa using nonempty)]
  rfl

theorem foldl_withDigit?
    {digits : List Char} (digit : ∀ character ∈ digits, character.isDigit = true) (start : Nat) :
    digits.foldl withDigit? (some start) = some (Nat.ofDigitChars 10 digits start) := by
  induction digits generalizing start with
  | nil => rfl
  | cons first rest induction =>
      obtain ⟨value, small⟩ := hexValue?_of_isDigit (digit first List.mem_cons_self)
      have next :
          withDigit? (some start) first = some (10 * start + (first.toNat - '0'.toNat)) := by
        rw [Nat.mul_comm]
        simp [withDigit?, value, small]
      rw [List.foldl_cons, next, Nat.ofDigitChars_cons]
      apply induction
      intro character member
      exact digit character (List.mem_cons_of_mem first member)

theorem foldl_withDigit?_none (characters : List Char) :
    characters.foldl withDigit? none = none := by
  induction characters with
  | nil => rfl
  | cons first rest induction => exact induction

theorem decimal?_of_isDigit
    {digits : List Char} (nonempty : digits ≠ [])
    (digit : ∀ character ∈ digits, character.isDigit = true) :
    decimal? digits = some (Nat.ofDigitChars 10 digits 0) := by
  rw [decimal?_eq_foldl nonempty]
  exact foldl_withDigit? digit 0

theorem decimal?_of_isAlpha
    {first : Char} (letter : first.isAlpha = true) (rest : List Char) :
    decimal? (first :: rest) = none := by
  have fails : withDigit? (some 0) first = none := by
    cases read : hexValue? first with
    | none => simp [withDigit?, read]
    | some value =>
        have large : ¬value < 10 := Nat.not_lt.mpr (hexValue?_of_isAlpha letter value read)
        simp [withDigit?, read, large]
  rw [decimal?_eq_foldl (List.cons_ne_nil first rest), List.foldl_cons, fails]
  exact foldl_withDigit?_none rest

end SessionGateway.Text
