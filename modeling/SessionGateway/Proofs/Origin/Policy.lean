import Mathlib.Algebra.Order.BigOperators.Group.List
import Mathlib.Algebra.Order.Group.Nat
import SessionGateway.Origin
import SessionGateway.Proofs.Text.Reading

/-!
# The origin policy over all origins

What an allow-list says about origins in general.  A `*` accepts all of them
(`isAllowed_of_named`), an entry accepts itself, and the own origin counts only
for the empty list, so that a request need not be asked for it otherwise
(`isRequestAllowed_of_text?`).  A list without a `*` leaves an origin out,
because there are more texts than entries (`exists_refused`).
-/

namespace SessionGateway.Origin

open Http

variable
  {allowed : List String}
  {request : Request}

/-! ## What a list accepts -/

theorem isAllowed_of_named (named : "*" ∈ allowed) (origin : String)
    (own? : Option ServerOrigin) :
    isAllowed (some origin) allowed own? = true := by
  simp [isAllowed, named]

theorem isAllowed_of_listed {origin : String} (listed : origin ∈ allowed)
    (own? : Option ServerOrigin) :
    isAllowed (some origin) allowed own? = true := by
  have entries : allowed ≠ [] := List.ne_nil_of_mem listed
  simp [isAllowed, listed, entries]

/-- An allow-list with entries does not ask for the own origin. -/
theorem isAllowed_of_ne_nil (entries : allowed ≠ []) (origin? : Option String)
    (own? other? : Option ServerOrigin) :
    isAllowed origin? allowed own? = isAllowed origin? allowed other? := by
  cases origin? <;> simp [isAllowed, entries]

theorem isRequestAllowed_of_absent (absent : request.headers.first? .origin = none) :
    isRequestAllowed request allowed = true := by
  rw [isRequestAllowed, absent]

theorem isRequestAllowed_of_unreadable
    {value : HeaderValue} (present : request.headers.first? .origin = some value)
    (unreadable : value.text? = none) :
    isRequestAllowed request allowed = false := by
  simp only [isRequestAllowed, present, unreadable]

/-- The own origin may be worked out for every request; it is left out where it does not count. -/
theorem isRequestAllowed_of_text?
    {value : HeaderValue} {text : String}
    (present : request.headers.first? .origin = some value) (read : value.text? = some text) :
    isRequestAllowed request allowed =
      isAllowed (some text) allowed (ServerOrigin.ofRequest? request) := by
  simp only [isRequestAllowed, present, read]
  by_cases empty : allowed = []
  · rw [if_pos (List.isEmpty_iff.mpr empty)]
  · exact isAllowed_of_ne_nil empty _ _ _

/-! ## What a list leaves out -/

/-- A word of one letter that is repeated. -/
def longWord (length : Nat) : String :=
  String.ofList (List.replicate length 'a')

theorem exists_unlisted (allowed : List String) :
    ∃ length, 0 < length ∧ longWord length ∉ allowed := by
  refine ⟨(allowed.map String.length).sum + 1, Nat.succ_pos _, ?_⟩
  intro member
  have bound : (longWord ((allowed.map String.length).sum + 1)).length ≤
      (allowed.map String.length).sum :=
    List.le_sum_of_mem (List.mem_map_of_mem member)
  rw [longWord, String.length_ofList, List.length_replicate] at bound
  exact Nat.not_succ_le_self _ bound

/-- A word without a colon is not a URL, so it is nobody's origin. -/
theorem parse?_longWord (length : Nat) : Url.parse? (longWord length).toList = none := by
  have letter (holds : Char → Bool) (yes : holds 'a' = true) :
      ∀ character ∈ List.replicate length 'a', holds character = true := by
    intro character member
    rw [List.eq_of_mem_replicate member]
    exact yes
  have cleaned : Url.clean (List.replicate length 'a') = List.replicate length 'a' := by
    rw [Url.clean, Text.stripped_of_kept, List.filter_eq_self]
    · exact letter _ (by decide)
    · intro character member
      rw [List.eq_of_mem_replicate member]
      decide
  have whole : (List.replicate length 'a').span Url.isSchemeCharacter =
      (List.replicate length 'a', []) :=
    Text.span_whole (letter _ (by decide))
  have unnamed : Url.scheme? (List.replicate length 'a') = none := by
    rw [Url.scheme?, whole]
    cases length <;> rfl
  rw [longWord, String.toList_ofList, Url.parse?, cleaned, unnamed]
  rfl

/-- A list without a `*` leaves an origin out, whatever the own one is. -/
theorem exists_refused (unnamed : "*" ∉ allowed) :
    ∃ origin, ∀ own?, isAllowed (some origin) allowed own? = false := by
  obtain ⟨length, positive, unlisted⟩ := exists_unlisted allowed
  refine ⟨longWord length, ?_⟩
  intro own?
  have notEmpty : (longWord length).isEmpty = false := by
    rw [Bool.eq_false_iff]
    intro empty
    have nothing := congrArg String.length (String.isEmpty_iff.mp empty)
    rw [longWord, String.length_ofList, List.length_replicate] at nothing
    exact absurd nothing (Nat.ne_of_gt positive)
  have foreign (own : ServerOrigin) : own.accepts (longWord length) = false := by
    rw [ServerOrigin.accepts, parse?_longWord]
  cases own? <;> simp [isAllowed, notEmpty, unnamed, unlisted, foreign]

theorem forall_isAllowed_iff :
    (∀ origin own?, isAllowed (some origin) allowed own? = true) ↔ "*" ∈ allowed := by
  constructor
  · intro every
    by_contra unnamed
    obtain ⟨origin, refused⟩ := exists_refused unnamed
    have contrary := every origin none
    rw [refused none] at contrary
    cases contrary
  · exact isAllowed_of_named

theorem exists_isAllowed_eq_false_iff :
    (∃ origin own?, isAllowed (some origin) allowed own? = false) ↔ "*" ∉ allowed := by
  constructor
  · rintro ⟨origin, own?, refused⟩ named
    rw [isAllowed_of_named named] at refused
    cases refused
  · intro unnamed
    obtain ⟨origin, refused⟩ := exists_refused unnamed
    exact ⟨origin, none, refused none⟩

end SessionGateway.Origin
