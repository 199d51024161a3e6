import Mathlib.Data.List.DropRight
import SessionGateway.Text.White

/-!
# Trimming

What `Text.trim` does to a text, in terms of `Text.Trimmed`: a text that white
space neither starts nor ends.  Trimming answers such a text, and takes any
blank padding off one.  A trimmed text is blank only if it is empty.
-/

namespace SessionGateway.Text

/-- White space neither starts nor ends the text. -/
structure Trimmed (text : List Char) : Prop where
  head : ∀ character ∈ text.head?, isWhite character = false
  last : ∀ character ∈ text.getLast?, isWhite character = false

theorem isBlank_iff {text : List Char} :
    isBlank text = true ↔ ∀ character ∈ text, isWhite character = true := by
  simp [isBlank]

theorem trimStart_padded
    {left : List Char} (blank : isBlank left = true) (text : List Char) :
    trimStart (left ++ text) = trimStart text :=
  List.dropWhile_append_of_pos (isBlank_iff.mp blank)

theorem trimStart_of_head
    {text : List Char}
    (head : ∀ character ∈ text.head?, isWhite character = false) :
    trimStart text = text := by
  cases text with
  | nil => rfl
  | cons first rest =>
      have notWhite : isWhite first = false := head first (by simp)
      exact List.dropWhile_cons_of_neg (by simp [notWhite])

theorem trimStart_head (text : List Char) :
    ∀ character ∈ (trimStart text).head?, isWhite character = false := by
  intro character member
  have notWhite := List.head?_dropWhile_not isWhite text
  rw [Option.mem_def] at member
  rw [trimStart] at member
  rw [member] at notWhite
  simpa using notWhite

/-- Trimming the end is trimming the start of the reversed text. -/
theorem trimEnd_eq (text : List Char) :
    trimEnd text = (trimStart text.reverse).reverse :=
  rfl

theorem trimEnd_padded
    {right : List Char} (blank : isBlank right = true) (text : List Char) :
    trimEnd (text ++ right) = trimEnd text := by
  have reversed : isBlank right.reverse = true := by
    rw [isBlank_iff] at blank ⊢
    intro character member
    exact blank character (List.mem_reverse.mp member)
  rw [trimEnd_eq, List.reverse_append, trimStart_padded reversed, ← trimEnd_eq]

theorem trimEnd_of_last
    {text : List Char}
    (last : ∀ character ∈ text.getLast?, isWhite character = false) :
    trimEnd text = text := by
  have head : ∀ character ∈ text.reverse.head?, isWhite character = false := by
    rw [List.head?_reverse]
    exact last
  rw [trimEnd_eq, trimStart_of_head head, List.reverse_reverse]

theorem trimEnd_last (text : List Char) :
    ∀ character ∈ (trimEnd text).getLast?, isWhite character = false := by
  rw [trimEnd_eq, List.getLast?_reverse]
  exact trimStart_head text.reverse

/-- Trimming takes blank padding off a text that has no white space at its ends. -/
theorem Trimmed.trim_padded
    {middle left right : List Char}
    (trimmed : Trimmed middle)
    (blankLeft : isBlank left = true)
    (blankRight : isBlank right = true) :
    trim (left ++ middle ++ right) = middle := by
  have whole : trimEnd middle = middle := trimEnd_of_last trimmed.last
  by_cases empty : middle = []
  · subst empty
    have blank : isBlank (left ++ right) = true := by
      rw [isBlank, List.all_append, Bool.and_eq_true]
      exact ⟨blankLeft, blankRight⟩
    have nothing : trimStart (left ++ right) = [] := by
      simpa [trimStart] using trimStart_padded blank []
    rw [List.append_nil, trim, nothing]
    rfl
  · have head : ∀ character ∈ (middle ++ right).head?, isWhite character = false := by
      rw [List.head?_append_of_ne_nil _ empty]
      exact trimmed.head
    rw [trim, List.append_assoc, trimStart_padded blankLeft, trimStart_of_head head,
      trimEnd_padded blankRight, whole]

theorem trimmed_trim (text : List Char) : Trimmed (trim text) := by
  constructor
  · intro character member
    -- What is left of the end of a text is an initial piece of it, so its head is that of the text.
    have initial : trim text <+: trimStart text := List.rdropWhile_prefix isWhite _
    rcases eq : trim text with _ | ⟨first, rest⟩
    · simp [eq] at member
    · rw [eq] at initial member
      obtain ⟨others, whole⟩ := initial
      apply trimStart_head text
      rw [← whole]
      exact member
  · exact trimEnd_last (trimStart text)

theorem trim_eq_nil_of_isBlank {text : List Char} (blank : isBlank text = true) :
    trim text = [] := by
  have nothing : Trimmed [] := ⟨by simp, by simp⟩
  have empty : isBlank [] = true := rfl
  simpa using nothing.trim_padded blank empty

/-- What trimming takes off is blank padding. -/
theorem exists_padding (text : List Char) :
    ∃ left right, isBlank left = true ∧ isBlank right = true ∧
      text = left ++ trim text ++ right := by
  have blank (piece : List Char) : isBlank (piece.takeWhile isWhite) = true :=
    isBlank_iff.mpr fun _ member => List.mem_takeWhile_imp member
  have start (piece : List Char) : piece = piece.takeWhile isWhite ++ trimStart piece :=
    List.takeWhile_append_dropWhile.symm
  refine ⟨text.takeWhile isWhite, ((trimStart text).reverse.takeWhile isWhite).reverse,
    blank text, ?_, ?_⟩
  · rw [isBlank, List.all_reverse]
    exact blank (trimStart text).reverse
  · -- The end of a text is the start of the reversed one.
    have last := congrArg List.reverse (start (trimStart text).reverse)
    rw [List.reverse_reverse, List.reverse_append, ← trimEnd_eq] at last
    rw [List.append_assoc, trim, ← last]
    exact start text

theorem isBlank_of_trim {text : List Char} (empty : trim text = []) : isBlank text = true := by
  obtain ⟨left, right, blankLeft, blankRight, split⟩ := exists_padding text
  rw [split, empty, List.append_nil, isBlank, List.all_append, Bool.and_eq_true]
  exact ⟨blankLeft, blankRight⟩

theorem Trimmed.isBlank_eq_false
    {text : List Char} (trimmed : Trimmed text) (nonempty : text ≠ []) :
    isBlank text = false := by
  cases text with
  | nil => exact absurd rfl nonempty
  | cons first rest =>
      have notWhite : isWhite first = false := trimmed.head first (by simp)
      simp [isBlank, notWhite]

end SessionGateway.Text
