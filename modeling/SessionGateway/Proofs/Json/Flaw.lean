import SessionGateway.Proofs.Json.TextList

/-!
# Flaws of a text

`Flawed` lists the ways in which a text fails to be a list of strings or a
string: it is another kind of value, a list has a member of another kind or a
comma too many, a string cannot go on, something follows, or the end is missing.

`Flawed.not_readable` says that each of them leaves a text without a reading.
-/

namespace SessionGateway.Json

/-- A list of strings or a string, with blanks around it. -/
inductive Readable (input : List Char) : Prop where
  | list {texts : List (List Char)} (list : TextList input texts)
  | value {text : List Char} (value : TextValue input text)

/-- The front of a list, up to a place where a string may follow. -/
inductive Front : List Char → Prop where
  | first {left : List Char} (blank : Blank left) : Front (left ++ ['['])
  | next {before left spelled right text : List Char}
      (front : Front before)
      (blankLeft : Blank left)
      (literal : Literal spelled text)
      (blankRight : Blank right) :
      Front (before ++ (left ++ (spelled ++ (right ++ [',']))))

/-- The front of a text, up to the opening quote of a string. -/
inductive Opened : List Char → Prop where
  | value {left : List Char} (blank : Blank left) : Opened left
  | member {before left : List Char} (front : Front before) (blank : Blank left) :
      Opened (before ++ left)

/-- Ways for a text to be neither a list of strings nor a string. -/
inductive Flawed : List Char → Prop where
  | otherValue {left rest : List Char} {character : Char}
      (blank : Blank left)
      (solid : isBlank character = false)
      (notBracket : character ≠ '[')
      (notQuote : character ≠ '"') :
      Flawed (left ++ character :: rest)
  | otherMember {before left rest : List Char} {character : Char}
      (front : Front before)
      (blank : Blank left)
      (solid : isBlank character = false)
      (notBracket : character ≠ ']')
      (notQuote : character ≠ '"') :
      Flawed (before ++ (left ++ character :: rest))
  | trailingComma {before left spelled right inner rest text : List Char}
      (front : Front before)
      (blankLeft : Blank left)
      (literal : Literal spelled text)
      (blankRight : Blank right)
      (blank : Blank inner) :
      Flawed (before ++ (left ++ (spelled ++ (right ++ ',' :: (inner ++ ']' :: rest)))))
  | brokenString {before spelled rest text : List Char}
      (opened : Opened before)
      (content : Content spelled text)
      (breaks : Breaks rest) :
      Flawed (before ++ '"' :: (spelled ++ rest))
  | trailingText {input rest : List Char} {character : Char}
      (readable : Readable input)
      (solid : isBlank character = false) :
      Flawed (input ++ character :: rest)
  | truncated {input rest : List Char} {character : Char}
      (readable : Readable (input ++ character :: rest))
      (solid : isBlank character = false) :
      Flawed input

variable
    {before input left rest spelled text : List Char}
    {character : Char}

/-! ## The start of a text -/

/-- The first character of a list or of a string tells which of them it is. -/
theorem Readable.skipBlanks_eq (readable : Readable input) :
    ∃ body, skipBlanks input = '[' :: body ∨ skipBlanks input = '"' :: body := by
  cases readable with
  | list list =>
      obtain ⟨body, bracket⟩ := list.skipBlanks_eq
      exact ⟨body, Or.inl bracket⟩
  | value value =>
      obtain ⟨body, quote⟩ := value.skipBlanks_eq
      exact ⟨body, Or.inr quote⟩

theorem Front.skipBlanks_eq (front : Front before) (rest : List Char) :
    ∃ body, skipBlanks (before ++ rest) = '[' :: body := by
  induction front generalizing rest with
  | first blank =>
      refine ⟨rest, ?_⟩
      rw [List.append_assoc, List.singleton_append, skipBlanks_solid blank rfl]
  | next _ _ _ _ induction =>
      rw [List.append_assoc]
      exact induction _

/-- Behind the front of a list, only a list can be read. -/
theorem Front.not_readable
    (front : Front before) (unread : readTextList (before ++ rest) = none) :
    ¬Readable (before ++ rest) := by
  intro readable
  cases readable with
  | list list =>
      obtain ⟨behind, read, -⟩ := whole_eq_some_iff.mp (whole_readTextList_iff.mpr list)
      rw [unread] at read
      cases read
  | value value =>
      obtain ⟨body, bracket⟩ := front.skipBlanks_eq rest
      obtain ⟨other, quote⟩ := value.skipBlanks_eq
      rw [bracket] at quote
      cases quote

/-! ## Members that cannot be read -/

/-- A list breaks at a member that cannot be read, however many were read before it. -/
theorem Front.readTextList_eq_none
    (front : Front before)
    (unread : readMembers rest = none)
    (unclosed : ∀ more, skipBlanks rest ≠ ']' :: more) :
    readTextList (before ++ rest) = none := by
  induction front generalizing rest with
  | first blank =>
      rw [List.append_assoc, List.singleton_append, readTextList_eq blank]
      split
      · next more closed => exact absurd closed (unclosed more)
      · exact unread
  | next front blankLeft literal blankRight induction =>
      simp only [List.append_assoc, List.singleton_append]
      apply induction
      · rw [readMembers_more blankLeft literal blankRight, unread]
        rfl
      · intro more closed
        obtain ⟨body, quoted, -⟩ := readText_of_literal literal (_ ++ ',' :: rest)
        rw [quoted, skipBlanks_solid blankLeft rfl] at closed
        cases closed

theorem readMembers_eq_none (notQuote : ∀ body, skipBlanks rest ≠ '"' :: body) :
    readMembers rest = none := by
  rw [readMembers_eq]
  split
  · next body found => exact absurd found (notQuote body)
  · rfl

theorem readMembers_of_unread (blank : Blank left) (unread : readText rest = none) :
    readMembers (left ++ '"' :: rest) = none := by
  rw [readMembers_eq, skipBlanks_solid blank rfl]
  simp only [unread]

theorem readTextValue_of_unread (blank : Blank left) (unread : readText rest = none) :
    readTextValue (left ++ '"' :: rest) = none := by
  rw [readTextValue, skipBlanks_solid blank rfl]
  exact unread

/-! ## Flaws -/

theorem not_readable_otherMember
    (front : Front before) (blank : Blank left) (solid : isBlank character = false)
    (notBracket : character ≠ ']') (notQuote : character ≠ '"') (rest : List Char) :
    ¬Readable (before ++ (left ++ character :: rest)) := by
  apply front.not_readable
  apply front.readTextList_eq_none
  · apply readMembers_eq_none
    intro body quote
    rw [skipBlanks_solid blank solid] at quote
    exact notQuote (List.cons.inj quote).1
  · intro more bracket
    rw [skipBlanks_solid blank solid] at bracket
    exact notBracket (List.cons.inj bracket).1

theorem not_readable_trailingComma
    {right inner : List Char}
    (front : Front before) (blankLeft : Blank left) (literal : Literal spelled text)
    (blankRight : Blank right) (blank : Blank inner) (rest : List Char) :
    ¬Readable (before ++ (left ++ (spelled ++ (right ++ ',' :: (inner ++ ']' :: rest))))) := by
  apply front.not_readable
  apply front.readTextList_eq_none
  · have none : readMembers (inner ++ ']' :: rest) = none := by
      apply readMembers_eq_none
      intro body quote
      rw [skipBlanks_solid blank rfl] at quote
      cases quote
    rw [readMembers_more blankLeft literal blankRight, none]
    rfl
  · intro more bracket
    obtain ⟨body, quoted, -⟩ :=
      readText_of_literal literal (right ++ ',' :: (inner ++ ']' :: rest))
    rw [quoted, skipBlanks_solid blankLeft rfl] at bracket
    cases bracket

theorem not_readable_brokenString
    (opened : Opened before) (content : Content spelled text) (breaks : Breaks rest) :
    ¬Readable (before ++ '"' :: (spelled ++ rest)) := by
  have unread : readText (spelled ++ rest) = none := by
    rw [readText_of_content content, readText_of_breaks breaks]
    rfl
  cases opened with
  | value blank =>
      intro readable
      cases readable with
      | list list =>
          obtain ⟨body, bracket⟩ := list.skipBlanks_eq
          rw [skipBlanks_solid blank rfl] at bracket
          cases bracket
      | value value =>
          obtain ⟨behind, read, -⟩ := whole_eq_some_iff.mp (whole_readTextValue_iff.mpr value)
          rw [readTextValue_of_unread blank unread] at read
          cases read
  | member front blank =>
      rw [List.append_assoc]
      apply front.not_readable
      apply front.readTextList_eq_none (readMembers_of_unread blank unread)
      intro more bracket
      rw [skipBlanks_solid blank rfl] at bracket
      cases bracket

/-- Nothing but blanks may follow a list or a string. -/
theorem Readable.blank_of_append (readable : Readable input) (longer : Readable (input ++ rest)) :
    Blank rest := by
  cases readable with
  | list list =>
      obtain ⟨right, read⟩ := list.read_append rest
      cases longer with
      | list longer =>
          obtain ⟨behind, readLonger, blank⟩ :=
            whole_eq_some_iff.mp (whole_readTextList_iff.mpr longer)
          rw [read] at readLonger
          cases readLonger
          exact blank.of_append
      | value longer =>
          obtain ⟨behind, readLonger, -⟩ :=
            whole_eq_some_iff.mp (whole_readTextValue_iff.mpr longer)
          rw [readTextValue_of_readTextList read] at readLonger
          cases readLonger
  | value value =>
      obtain ⟨right, read⟩ := value.read_append rest
      cases longer with
      | list longer =>
          obtain ⟨behind, readLonger, -⟩ :=
            whole_eq_some_iff.mp (whole_readTextList_iff.mpr longer)
          rw [readTextValue_of_readTextList readLonger] at read
          cases read
      | value longer =>
          obtain ⟨behind, readLonger, blank⟩ :=
            whole_eq_some_iff.mp (whole_readTextValue_iff.mpr longer)
          rw [read] at readLonger
          cases readLonger
          exact blank.of_append

theorem not_readable_trailingText
    (readable : Readable input) (solid : isBlank character = false) (rest : List Char) :
    ¬Readable (input ++ character :: rest) := by
  intro longer
  have blank := readable.blank_of_append longer character List.mem_cons_self
  rw [solid] at blank
  cases blank

theorem Flawed.not_readable (flawed : Flawed input) : ¬Readable input := by
  cases flawed with
  | otherValue blank solid notBracket notQuote =>
      intro readable
      obtain ⟨body, found⟩ := readable.skipBlanks_eq
      rw [skipBlanks_solid blank solid] at found
      rcases found with bracket | quote
      · exact notBracket (List.cons.inj bracket).1
      · exact notQuote (List.cons.inj quote).1
  | otherMember front blank solid notBracket notQuote =>
      exact not_readable_otherMember front blank solid notBracket notQuote _
  | trailingComma front blankLeft literal blankRight blank =>
      exact not_readable_trailingComma front blankLeft literal blankRight blank _
  | brokenString opened content breaks => exact not_readable_brokenString opened content breaks
  | trailingText readable solid => exact not_readable_trailingText readable solid _
  | truncated longer solid =>
      exact fun readable => not_readable_trailingText readable solid _ longer

end SessionGateway.Json
