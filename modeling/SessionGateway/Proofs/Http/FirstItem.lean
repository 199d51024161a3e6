import SessionGateway.Cache
import SessionGateway.Proofs.Text.White

/-!
# The first item of a list

A header value may be a list with commas between its items, blank padding
around them, and blank items that do not count.  `FirstItem` says what the first
item of a list is without cutting the list into pieces, and
`firstItem?_eq_some_iff` that cutting, trimming and searching finds it.
-/

namespace SessionGateway.Cache

/-! ## Items -/

/-- A text that can be an item: there is something of it, and it is not cut or trimmed. -/
structure IsItem (item : List Char) : Prop where
  solid : item ≠ []
  trimmed : Text.Trimmed item
  commaFree : ',' ∉ item

/-- The item that comes first in a list. -/
inductive FirstItem (item : List Char) : List Char → Prop where
  | only {left right : List Char}
      (blankLeft : Text.isBlank left = true) (blankRight : Text.isBlank right = true) :
      FirstItem item (left ++ item ++ right)
  | followed {left right rest : List Char}
      (blankLeft : Text.isBlank left = true) (blankRight : Text.isBlank right = true) :
      FirstItem item (left ++ item ++ right ++ ',' :: rest)
  | later {left rest : List Char}
      (blank : Text.isBlank left = true) (first : FirstItem item rest) :
      FirstItem item (left ++ ',' :: rest)

/-- The first of the trimmed pieces of a list that is not empty. -/
def firstItem? (text : List Char) : Option (List Char) :=
  ((text.splitOn ',').map Text.trim).find? fun item => !item.isEmpty

variable {item left right rest text : List Char}

/-- A list of one item, without padding. -/
theorem FirstItem.alone (item : List Char) : FirstItem item item := by
  have unpadded : Text.isBlank [] = true := rfl
  have only : FirstItem item ([] ++ item ++ []) := .only unpadded unpadded
  rwa [List.nil_append, List.append_nil] at only

theorem comma_not_mem_of_isBlank (blank : Text.isBlank text = true) : ',' ∉ text := by
  intro member
  exact absurd (Text.isBlank_iff.mp blank ',' member) (by decide)

theorem IsItem.padded_commaFree (isItem : IsItem item)
    (blankLeft : Text.isBlank left = true) (blankRight : Text.isBlank right = true) :
    ',' ∉ left ++ item ++ right := by
  intro member
  rcases List.mem_append.mp member with front | back
  · rcases List.mem_append.mp front with padding | inside
    · exact comma_not_mem_of_isBlank blankLeft padding
    · exact isItem.commaFree inside
  · exact comma_not_mem_of_isBlank blankRight back

/-- A piece without commas is blank, or an item with padding. -/
theorem blank_or_padded {piece : List Char} (commaFree : ',' ∉ piece) :
    Text.isBlank piece = true ∨
      ∃ left item right, Text.isBlank left = true ∧ Text.isBlank right = true ∧
        IsItem item ∧ piece = left ++ item ++ right := by
  obtain ⟨left, right, blankLeft, blankRight, split⟩ := Text.exists_padding piece
  by_cases empty : Text.trim piece = []
  · exact Or.inl (Text.isBlank_of_trim empty)
  · right
    refine ⟨left, Text.trim piece, right, blankLeft, blankRight, ?_, split⟩
    refine ⟨empty, Text.trimmed_trim piece, ?_⟩
    intro member
    apply commaFree
    rw [split]
    exact List.mem_append_left right (List.mem_append_right left member)

/-! ## Cutting at the first comma -/

theorem exists_cut (text : List Char) :
    ',' ∉ text ∨ ∃ piece rest, ',' ∉ piece ∧ text = piece ++ ',' :: rest := by
  by_cases member : ',' ∈ text
  · obtain ⟨piece, rest, split, commaFree⟩ := List.eq_append_cons_of_mem member
    exact Or.inr ⟨piece, rest, commaFree, split⟩
  · exact Or.inl member

theorem firstItem?_of_commaFree (commaFree : ',' ∉ text) :
    firstItem? text = if Text.trim text = [] then none else some (Text.trim text) := by
  rw [firstItem?, List.splitOn_eq_singleton commaFree]
  by_cases empty : Text.trim text = [] <;> simp [empty]

theorem firstItem?_of_cut {piece : List Char} (commaFree : ',' ∉ piece) (rest : List Char) :
    firstItem? (piece ++ ',' :: rest) =
      if Text.trim piece = [] then firstItem? rest else some (Text.trim piece) := by
  rw [firstItem?, List.splitOn_append_cons_self_of_not_mem commaFree]
  by_cases empty : Text.trim piece = [] <;> simp [empty, firstItem?]

/-! ## The first item is found -/

theorem firstItem?_of_firstItem (isItem : IsItem item) (first : FirstItem item text) :
    firstItem? text = some item := by
  induction first with
  | only blankLeft blankRight =>
      rw [firstItem?_of_commaFree (isItem.padded_commaFree blankLeft blankRight),
        isItem.trimmed.trim_padded blankLeft blankRight, if_neg isItem.solid]
  | followed blankLeft blankRight =>
      rw [firstItem?_of_cut (isItem.padded_commaFree blankLeft blankRight),
        isItem.trimmed.trim_padded blankLeft blankRight, if_neg isItem.solid]
  | later blank _ induction =>
      rw [firstItem?_of_cut (comma_not_mem_of_isBlank blank),
        Text.trim_eq_nil_of_isBlank blank, if_pos rfl]
      exact induction

/-- What is searched for is found, or there is nothing but blanks and commas. -/
theorem firstItem_or_blank (text : List Char) :
    (∃ item, firstItem? text = some item ∧ IsItem item ∧ FirstItem item text) ∨
      (firstItem? text = none ∧
        ∀ character ∈ text, Text.isWhite character = true ∨ character = ',') := by
  -- The induction is on the length: what is behind the first comma is shorter.
  induction length : text.length using Nat.strong_induction_on generalizing text with
  | _ number induction =>
    have found {item list : List Char} (isItem : IsItem item) (first : FirstItem item list) :
        ∃ item, firstItem? list = some item ∧ IsItem item ∧ FirstItem item list :=
      ⟨item, firstItem?_of_firstItem isItem first, isItem, first⟩
    rcases exists_cut text with commaFree | ⟨piece, rest, commaFree, rfl⟩
    · rcases blank_or_padded commaFree with
        blank | ⟨left, item, right, blankLeft, blankRight, isItem, rfl⟩
      · right
        constructor
        · rw [firstItem?_of_commaFree commaFree, if_pos (Text.trim_eq_nil_of_isBlank blank)]
        · intro character member
          exact Or.inl (Text.isBlank_iff.mp blank character member)
      · exact Or.inl (found isItem (.only blankLeft blankRight))
    · rcases blank_or_padded commaFree with
        blank | ⟨left, item, right, blankLeft, blankRight, isItem, rfl⟩
      · have shorter : rest.length < number := by
          rw [← length, List.length_append, List.length_cons]
          omega
        rcases induction rest.length shorter rest rfl with
          ⟨item, -, isItem, first⟩ | ⟨none, blanks⟩
        · exact Or.inl (found isItem (.later blank first))
        · right
          constructor
          · rw [firstItem?_of_cut commaFree, if_pos (Text.trim_eq_nil_of_isBlank blank)]
            exact none
          · intro character member
            rcases List.mem_append.mp member with front | back
            · exact Or.inl (Text.isBlank_iff.mp blank character front)
            · rcases List.mem_cons.mp back with comma | behind
              · exact Or.inr comma
              · exact blanks character behind
      · exact Or.inl (found isItem (.followed blankLeft blankRight))

theorem firstItem?_eq_some_iff :
    firstItem? text = some item ↔ IsItem item ∧ FirstItem item text := by
  constructor
  · intro found
    rcases firstItem_or_blank text with ⟨other, foundOther, isItem, first⟩ | ⟨none, -⟩
    · rw [found] at foundOther
      cases foundOther
      exact ⟨isItem, first⟩
    · rw [found] at none
      cases none
  · rintro ⟨isItem, first⟩
    exact firstItem?_of_firstItem isItem first

/-- A list of nothing but blanks and commas has no items. -/
theorem FirstItem.not_blank (isItem : IsItem item) (first : FirstItem item text) :
    ¬∀ character ∈ text, Text.isWhite character = true ∨ character = ',' := by
  obtain ⟨character, others, rfl⟩ := List.exists_cons_of_ne_nil isItem.solid
  have solid : Text.isWhite character = false := isItem.trimmed.head character rfl
  intro blanks
  have inside : character ∈ text := by
    induction first with
    | only => simp
    | followed => simp
    | later _ _ induction =>
        apply List.mem_append_right
        apply List.mem_cons_of_mem
        apply induction
        intro other member
        exact blanks other (List.mem_append_right _ (List.mem_cons_of_mem _ member))
  rcases blanks character inside with white | comma
  · rw [solid] at white
    cases white
  · apply isItem.commaFree
    rw [comma]
    exact List.mem_cons_self

end SessionGateway.Cache
