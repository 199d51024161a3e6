import Mathlib.Data.List.TakeWhile
import SessionGateway.Json.TextList
import SessionGateway.Proofs.Json.Text

/-!
# The grammar of JSON lists of strings

`TextList` and `TextValue` are the texts that are, blanks apart, a list of
strings and a single string.  `whole_readTextList_iff` and
`whole_readTextValue_iff` say that the readers accept exactly these, with what
they stand for.  As a reader has one answer, a text has at most one reading;
and no text is both a list and a string.
-/

namespace SessionGateway.Json

/-! ## The grammar -/

/-- A run of blanks; there may be none. -/
def Blank (text : List Char) : Prop :=
  ∀ character ∈ text, isBlank character = true

/-- One string or more, separated by commas, with blanks around each of them. -/
inductive Members : List Char → List (List Char) → Prop where
  | last {left spelled right text : List Char}
      (blankLeft : Blank left)
      (literal : Literal spelled text)
      (blankRight : Blank right) :
      Members (left ++ (spelled ++ right)) [text]
  | more {left spelled right text rest : List Char} {texts : List (List Char)}
      (blankLeft : Blank left)
      (literal : Literal spelled text)
      (blankRight : Blank right)
      (members : Members rest texts) :
      Members (left ++ (spelled ++ (right ++ ',' :: rest))) (text :: texts)

/-- What may stand between the brackets of a list. -/
inductive Bracketed : List Char → List (List Char) → Prop where
  | empty {inner : List Char} (blank : Blank inner) : Bracketed inner []
  | members {inner : List Char} {texts : List (List Char)} (members : Members inner texts) :
      Bracketed inner texts

/-- A list of strings, with blanks around it. -/
inductive TextList : List Char → List (List Char) → Prop where
  | list {left inner right : List Char} {texts : List (List Char)}
      (blankLeft : Blank left)
      (bracketed : Bracketed inner texts)
      (blankRight : Blank right) :
      TextList (left ++ '[' :: (inner ++ ']' :: right)) texts

/-- A string, with blanks around it. -/
inductive TextValue : List Char → List Char → Prop where
  | value {left spelled right text : List Char}
      (blankLeft : Blank left)
      (literal : Literal spelled text)
      (blankRight : Blank right) :
      TextValue (left ++ (spelled ++ right)) text

variable
    {left right inner rest input spelled text : List Char}
    {texts : List (List Char)}
    {character : Char}

/-! ## Blanks -/

theorem blank_nil : Blank [] := by
  intro character member
  cases member

theorem Blank.of_append (blank : Blank (left ++ right)) : Blank right := by
  intro character member
  exact blank character (List.mem_append_right left member)

theorem skipBlanks_append (blank : Blank left) (rest : List Char) :
    skipBlanks (left ++ rest) = skipBlanks rest :=
  List.dropWhile_append_of_pos blank

theorem skipBlanks_cons (solid : isBlank character = false) (rest : List Char) :
    skipBlanks (character :: rest) = character :: rest :=
  List.dropWhile_cons_of_neg (Bool.eq_false_iff.mp solid)

theorem skipBlanks_solid (blank : Blank left) (solid : isBlank character = false)
    (rest : List Char) :
    skipBlanks (left ++ character :: rest) = character :: rest := by
  rw [skipBlanks_append blank, skipBlanks_cons solid]

theorem exists_blank (text : List Char) : ∃ left, Blank left ∧ text = left ++ skipBlanks text := by
  refine ⟨text.takeWhile isBlank, ?_, List.takeWhile_append_dropWhile.symm⟩
  intro character member
  exact List.mem_takeWhile_imp member

theorem isEmpty_skipBlanks_iff : (skipBlanks text).isEmpty = true ↔ Blank text := by
  rw [List.isEmpty_iff, skipBlanks, List.dropWhile_eq_nil_iff]
  rfl

/-- What a reader answers is accepted if nothing but blanks is left. -/
theorem whole_eq_some_iff {α : Type} {read : Option (α × List Char)} {value : α} :
    whole read = some value ↔ ∃ rest, read = some (value, rest) ∧ Blank rest := by
  cases read with
  | none => simp [whole]
  | some result =>
      obtain ⟨found, rest⟩ := result
      simp only [whole, Option.some.injEq, Prod.mk.injEq, ← isEmpty_skipBlanks_iff]
      constructor
      · intro accepted
        split at accepted
        · next blank =>
            cases accepted
            exact ⟨rest, ⟨rfl, rfl⟩, blank⟩
        · cases accepted
      · rintro ⟨right, ⟨rfl, rfl⟩, blank⟩
        rw [if_pos blank]

/-! ## Single strings -/

theorem readText_of_literal (literal : Literal spelled text) (rest : List Char) :
    ∃ body, spelled ++ rest = '"' :: body ∧ readText body = some (text, rest) := by
  cases literal with
  | @quoted content _ inside =>
      refine ⟨content ++ '"' :: rest, by simp, ?_⟩
      exact readText_eq_some_iff.mpr ⟨content, inside, rfl⟩

theorem literal_of_readText {body : List Char} (read : readText body = some (text, rest)) :
    ∃ spelled, Literal spelled text ∧ '"' :: body = spelled ++ rest := by
  obtain ⟨content, inside, rfl⟩ := readText_eq_some_iff.mp read
  exact ⟨_, .quoted inside, by simp⟩

theorem readTextValue_of_literal
    (blank : Blank left) (literal : Literal spelled text) (rest : List Char) :
    readTextValue (left ++ (spelled ++ rest)) = some (text, rest) := by
  obtain ⟨body, quoted, read⟩ := readText_of_literal literal rest
  rw [readTextValue, quoted, skipBlanks_solid blank rfl]
  exact read

theorem literal_of_readTextValue (read : readTextValue input = some (text, rest)) :
    ∃ left spelled, Blank left ∧ Literal spelled text ∧ input = left ++ (spelled ++ rest) := by
  obtain ⟨left, blank, split⟩ := exists_blank input
  unfold readTextValue at read
  split at read
  · next body found =>
      obtain ⟨spelled, literal, quoted⟩ := literal_of_readText read
      rw [found, quoted] at split
      exact ⟨left, spelled, blank, literal, split⟩
  · cases read

theorem whole_readTextValue_iff :
    whole (readTextValue input) = some text ↔ TextValue input text := by
  rw [whole_eq_some_iff]
  constructor
  · rintro ⟨right, read, blankRight⟩
    obtain ⟨left, spelled, blankLeft, literal, rfl⟩ := literal_of_readTextValue read
    exact .value blankLeft literal blankRight
  · intro value
    cases value with
    | @value left spelled right _ blankLeft literal blankRight =>
        exact ⟨right, readTextValue_of_literal blankLeft literal right, blankRight⟩

/-! ## Lists -/

/-- One turn of the reader of members, without the bounds that make it end. -/
theorem readMembers_eq (input : List Char) :
    readMembers input =
      match skipBlanks input with
      | '"' :: rest =>
          match readText rest with
          | none => none
          | some (member, behind) =>
              match skipBlanks behind with
              | ',' :: more =>
                  (readMembers more).map fun (members, remaining) =>
                    (member :: members, remaining)
              | ']' :: more => some ([member], more)
              | _ => none
      | _ => none := by
  rw [readMembers]
  split
  · next body found =>
      simp only [found]
      split
      · next read => simp only [read]
      · next member behind read =>
          simp only [read]
          split
          · next more next => simp only [next]
          · next more next => simp only [next]
          · next noComma noBracket =>
              split
              · next more next => exact absurd next (noComma more)
              · next more next => exact absurd next (noBracket more)
              · rfl
  · next noQuote =>
      split
      · next body found => exact absurd found (noQuote body)
      · rfl

theorem readMembers_more
    (blankLeft : Blank left) (literal : Literal spelled text) (blankRight : Blank right)
    (rest : List Char) :
    readMembers (left ++ (spelled ++ (right ++ ',' :: rest))) =
      (readMembers rest).map fun (members, remaining) => (text :: members, remaining) := by
  obtain ⟨body, quoted, read⟩ := readText_of_literal literal (right ++ ',' :: rest)
  rw [readMembers_eq, quoted, skipBlanks_solid blankLeft rfl]
  simp only [read]
  rw [skipBlanks_solid blankRight rfl]
  rfl

theorem readMembers_last
    (blankLeft : Blank left) (literal : Literal spelled text) (blankRight : Blank right)
    (rest : List Char) :
    readMembers (left ++ (spelled ++ (right ++ ']' :: rest))) = some ([text], rest) := by
  obtain ⟨body, quoted, read⟩ := readText_of_literal literal (right ++ ']' :: rest)
  rw [readMembers_eq, quoted, skipBlanks_solid blankLeft rfl]
  simp only [read]
  rw [skipBlanks_solid blankRight rfl]
  rfl

theorem readMembers_of_members (members : Members inner texts) (rest : List Char) :
    readMembers (inner ++ ']' :: rest) = some (texts, rest) := by
  induction members with
  | last blankLeft literal blankRight =>
      simpa using readMembers_last blankLeft literal blankRight rest
  | more blankLeft literal blankRight members induction =>
      have turn := readMembers_more blankLeft literal blankRight
      simp only [List.append_assoc, List.cons_append]
      rw [turn, induction]
      rfl

theorem members_of_readMembers (read : readMembers input = some (texts, rest)) :
    ∃ inner, Members inner texts ∧ input = inner ++ ']' :: rest := by
  fun_induction readMembers input generalizing texts with
  | case1 | case4 | case5 => cases read
  | case2 input body found member behind readBody more next induction =>
      obtain ⟨⟨members, remaining⟩, readMore, same⟩ := Option.map_eq_some_iff.mp read
      cases same
      obtain ⟨inner, inside, rfl⟩ := induction readMore
      obtain ⟨left, blankLeft, split⟩ := exists_blank input
      obtain ⟨right, blankRight, splitBehind⟩ := exists_blank behind
      obtain ⟨spelled, literal, quoted⟩ := literal_of_readText readBody
      refine ⟨_, .more blankLeft literal blankRight inside, ?_⟩
      rw [split, found, quoted, splitBehind, next]
      simp
  | case3 input body found member behind readBody more next =>
      cases read
      obtain ⟨left, blankLeft, split⟩ := exists_blank input
      obtain ⟨right, blankRight, splitBehind⟩ := exists_blank behind
      obtain ⟨spelled, literal, quoted⟩ := literal_of_readText readBody
      refine ⟨_, .last blankLeft literal blankRight, ?_⟩
      rw [split, found, quoted, splitBehind, next]
      simp

theorem Members.skipBlanks_eq (members : Members inner texts) (rest : List Char) :
    ∃ body, skipBlanks (inner ++ rest) = '"' :: body := by
  cases members with
  | last blankLeft literal =>
      obtain ⟨body, quoted, -⟩ := readText_of_literal literal (_ ++ rest)
      refine ⟨body, ?_⟩
      rw [List.append_assoc, List.append_assoc, quoted, skipBlanks_solid blankLeft rfl]
  | more blankLeft literal =>
      obtain ⟨body, quoted, -⟩ := readText_of_literal literal ((_ ++ ',' :: _) ++ rest)
      refine ⟨body, ?_⟩
      rw [List.append_assoc, List.append_assoc, quoted, skipBlanks_solid blankLeft rfl]

theorem readTextList_eq (blank : Blank left) (rest : List Char) :
    readTextList (left ++ '[' :: rest) =
      match skipBlanks rest with
      | ']' :: more => some ([], more)
      | _ => readMembers rest := by
  rw [readTextList, skipBlanks_solid blank rfl]
  rfl

theorem readTextList_of_bracketed
    (blank : Blank left) (bracketed : Bracketed inner texts) (rest : List Char) :
    readTextList (left ++ '[' :: (inner ++ ']' :: rest)) = some (texts, rest) := by
  rw [readTextList_eq blank]
  cases bracketed with
  | empty blankInner =>
      rw [skipBlanks_solid blankInner rfl]
      rfl
  | members members =>
      obtain ⟨body, found⟩ := members.skipBlanks_eq (']' :: rest)
      rw [found]
      exact readMembers_of_members members rest

theorem bracketed_of_readTextList (read : readTextList input = some (texts, rest)) :
    ∃ left inner, Blank left ∧ Bracketed inner texts ∧
      input = left ++ '[' :: (inner ++ ']' :: rest) := by
  obtain ⟨left, blank, split⟩ := exists_blank input
  unfold readTextList at read
  split at read
  · next body found =>
      rw [found] at split
      split at read
      · next more closed =>
          cases read
          obtain ⟨inner, blankInner, splitBody⟩ := exists_blank body
          rw [closed] at splitBody
          exact ⟨left, inner, blank, .empty blankInner, splitBody ▸ split⟩
      · obtain ⟨inner, members, rfl⟩ := members_of_readMembers read
        exact ⟨left, inner, blank, .members members, split⟩
  · cases read

theorem whole_readTextList_iff :
    whole (readTextList input) = some texts ↔ TextList input texts := by
  rw [whole_eq_some_iff]
  constructor
  · rintro ⟨right, read, blankRight⟩
    obtain ⟨left, inner, blankLeft, bracketed, rfl⟩ := bracketed_of_readTextList read
    exact .list blankLeft bracketed blankRight
  · intro list
    cases list with
    | @list left inner right _ blankLeft bracketed blankRight =>
        exact ⟨right, readTextList_of_bracketed blankLeft bracketed right, blankRight⟩

/-! ## A list or a string -/

theorem TextList.skipBlanks_eq (list : TextList input texts) :
    ∃ body, skipBlanks input = '[' :: body := by
  obtain ⟨blankLeft, -, -⟩ := list
  exact ⟨_, skipBlanks_solid blankLeft rfl _⟩

theorem TextValue.skipBlanks_eq (value : TextValue input text) :
    ∃ body, skipBlanks input = '"' :: body := by
  obtain ⟨blankLeft, ⟨content⟩, -⟩ := value
  exact ⟨_, skipBlanks_solid blankLeft rfl _⟩

/-- A text is not both a list and a string. -/
theorem TextList.not_textValue (list : TextList input texts) : ¬TextValue input text := by
  intro value
  obtain ⟨body, bracket⟩ := list.skipBlanks_eq
  obtain ⟨other, quote⟩ := value.skipBlanks_eq
  rw [bracket] at quote
  cases quote

/-! ## A longer text -/

theorem readTextValue_of_readTextList {result : List (List Char) × List Char}
    (read : readTextList input = some result) : readTextValue input = none := by
  unfold readTextList at read
  split at read
  · next body found =>
      rw [readTextValue, found]
      rfl
  · cases read

/-- A list is read off the front of a longer text. -/
theorem TextList.read_append (list : TextList input texts) (rest : List Char) :
    ∃ right, readTextList (input ++ rest) = some (texts, right ++ rest) := by
  cases list with
  | @list left inner right _ blankLeft bracketed blankRight =>
      refine ⟨right, ?_⟩
      simpa using readTextList_of_bracketed blankLeft bracketed (right ++ rest)

/-- A string is read off the front of a longer text. -/
theorem TextValue.read_append (value : TextValue input text) (rest : List Char) :
    ∃ right, readTextValue (input ++ rest) = some (text, right ++ rest) := by
  cases value with
  | @value left spelled right _ blankLeft literal blankRight =>
      refine ⟨right, ?_⟩
      simpa using readTextValue_of_literal blankLeft literal (right ++ rest)

/-! ## The writer -/

theorem members_intercalate (text : List Char) (texts : List (List Char)) :
    Members ([','].intercalate ((text :: texts).map writeText)) (text :: texts) := by
  induction texts generalizing text with
  | nil => simpa using Members.last blank_nil (literal_writeText text) blank_nil
  | cons next rest induction =>
      have more := Members.more blank_nil (literal_writeText text) blank_nil (induction next)
      simpa [List.intercalate_cons_cons] using more

/-- What the writer writes is a list of the same strings. -/
theorem textList_writeTextList (texts : List (List Char)) :
    TextList (writeTextList texts) texts := by
  have bracketed : Bracketed ([','].intercalate (texts.map writeText)) texts := by
    cases texts with
    | nil => exact .empty blank_nil
    | cons text rest => exact .members (members_intercalate text rest)
  simpa [writeTextList] using TextList.list blank_nil bracketed blank_nil

theorem printable_intercalate (text : List Char) (texts : List (List Char)) :
    Printable ([','].intercalate ((text :: texts).map writeText)) := by
  induction texts generalizing text with
  | nil => simpa using (literal_writeText text).printable
  | cons next rest induction =>
      have more : Printable (',' :: [','].intercalate ((next :: rest).map writeText)) :=
        .cons (by decide) (induction next)
      simpa [List.intercalate_cons_cons] using (literal_writeText text).printable.append more

/-- The writer writes no control characters; those of the strings are escaped. -/
theorem printable_writeTextList (texts : List (List Char)) :
    Printable (writeTextList texts) := by
  have inside : Printable ([','].intercalate (texts.map writeText)) := by
    cases texts with
    | nil => exact nofun
    | cons text rest => exact printable_intercalate text rest
  exact .cons (by decide) (inside.append (.cons (by decide) nofun))

end SessionGateway.Json
