import Mathlib.Data.List.Basic
import SessionGateway.Mount
import SessionGateway.Settings.Validation

/-!
# Registration of a mount point

Which prefixes have a router.

A mount point is registered with three patterns, and a router looks for signs
that patterns do not have any more, segment by segment, and for braces that do
not belong to a parameter.  A prefix without braces stands for itself, so the
second check has nothing to find in it.  What is left is a property of the text
of the prefix: `exists_router_iff` says that a router takes it unless a colon or
an asterisk stands right behind a slash.

Validation asks for the slash in front, but not for what is behind a slash.
-/

namespace SessionGateway.Mount

/-! ## Prefixes without parameters -/

/-- A prefix without braces stands for itself. -/
def IsLiteral (mount : String) : Prop :=
  ∀ character ∈ mount.toList, character ≠ '\x7b' ∧ character ≠ '\x7d'

theorem pieces_of_literal
    {text : List Char}
    (literal : ∀ character ∈ text, character ≠ '\x7b' ∧ character ≠ '\x7d') :
    pieces text = text.map Piece.character := by
  induction text with
  | nil => rfl
  | cons first rest induction =>
      obtain ⟨notOpening, notClosing⟩ := literal first List.mem_cons_self
      have others :
          ∀ character ∈ rest, character ≠ '\x7b' ∧ character ≠ '\x7d' :=
        fun character member => literal character (List.mem_cons_of_mem first member)
      rw [List.map_cons, ← induction others]
      -- None of the three patterns with a brace applies.
      simp [pieces, notOpening, notClosing]

theorem remainder?_map_character_iff {expected path rest : List Char} :
    remainder? (expected.map Piece.character) path = some rest ↔
      path = expected ++ rest := by
  induction expected generalizing path with
  | nil => simp [remainder?]
  | cons first others induction =>
      cases path with
      | nil => simp [remainder?]
      | cons character path =>
          by_cases same : character = first
          · simp [remainder?, same, induction]
          · simp [remainder?, same]

/-- What is left behind a prefix that stands for itself. -/
theorem remainder?_pieces_iff
    {mount : String} (literal : IsLiteral mount) {path rest : List Char} :
    remainder? (pieces mount.toList) path = some rest ↔
      path = mount.toList ++ rest := by
  rw [pieces_of_literal literal, remainder?_map_character_iff]

theorem IsLiteral.slash {mount : String} (literal : IsLiteral mount) :
    IsLiteral (mount ++ "/") := by
  intro character member
  rw [String.toList_append, List.mem_append] at member
  rcases member with inside | last
  · exact literal character inside
  · have slash : character = '/' := by simpa using last
    rw [slash]
    decide

/-! ## Registration -/

/--
A slash has a colon or an asterisk behind it.  Patterns used to name their
parameters like that.
-/
def HasFormerSign (mount : String) : Prop :=
  ['/', ':'] <:+: mount.toList ∨ ['/', '*'] <:+: mount.toList

theorem splitOn_slash (text : List Char) :
    ∃ first others, text.splitOn '/' = first :: others ∧
      ∀ sign, sign ≠ '/' → (first.head? = some sign ↔ text.head? = some sign) := by
  cases text with
  | nil => exact ⟨[], [], rfl, fun _ _ => Iff.rfl⟩
  | cons character text =>
      rw [List.splitOn_cons_eq_if_modifyHead]
      by_cases slash : character = '/'
      · refine ⟨[], text.splitOn '/', if_pos (by simpa using slash), fun sign other => ?_⟩
        simp [slash, other.symm]
      · obtain ⟨first, others, pieces⟩ :=
          List.exists_cons_of_ne_nil (List.splitOn_ne_nil '/' text)
        refine ⟨character :: first, others, ?_, fun sign _ => Iff.rfl⟩
        rw [if_neg (by simpa using slash), pieces, List.modifyHead_cons]

/-- A sign that begins a piece stands behind a slash; only the first piece may be without one. -/
theorem exists_mem_tail_splitOn_iff {sign : Char} (other : sign ≠ '/') (text : List Char) :
    (∃ segment ∈ (text.splitOn '/').tail, segment.head? = some sign) ↔
      ['/', sign] <:+: text := by
  induction text with
  | nil => simp
  | cons character text induction =>
      obtain ⟨first, others, pieces, beginning⟩ := splitOn_slash text
      rw [pieces, List.tail_cons] at induction
      rw [List.splitOn_cons_eq_if_modifyHead, List.infix_cons_iff, List.cons_prefix_cons,
        ← induction]
      by_cases slash : character = '/'
      · have leading : [sign] <+: text ↔ text.head? = some sign := by
          cases text <;> simp [eq_comm]
        rw [if_pos (by simpa using slash), List.tail_cons, pieces, leading]
        simp [slash, beginning sign other]
      · rw [if_neg (by simpa using slash), pieces, List.modifyHead_cons, List.tail_cons]
        simp [Ne.symm slash]

theorem segmentRefusal?_eq_none_iff {segment : List Char} :
    segmentRefusal? segment = none ↔
      segment.head? ≠ some ':' ∧ segment.head? ≠ some '*' := by
  rw [segmentRefusal?]
  split <;> simp_all

theorem findSome?_splitOn_iff {text : List Char} (rooted : text.head? = some '/') :
    (text.splitOn '/').findSome? segmentRefusal? = none ↔
      ¬(['/', ':'] <:+: text ∨ ['/', '*'] <:+: text) := by
  obtain ⟨first, others, pieces, beginning⟩ := splitOn_slash text
  have colon := exists_mem_tail_splitOn_iff (show ':' ≠ '/' by decide) text
  have asterisk := exists_mem_tail_splitOn_iff (show '*' ≠ '/' by decide) text
  -- What stands in front of the first slash is nothing, so the other segments decide.
  have free : segmentRefusal? first = none := by
    rw [segmentRefusal?_eq_none_iff, ne_eq, ne_eq, beginning ':' (by decide),
      beginning '*' (by decide), rooted]
    decide
  rw [pieces, List.tail_cons] at colon asterisk
  rw [pieces, List.findSome?_cons_of_isNone (by simp [free]), List.findSome?_eq_none_iff,
    ← colon, ← asterisk]
  simp only [segmentRefusal?_eq_none_iff]
  constructor
  · rintro plain (⟨segment, member, begins⟩ | ⟨segment, member, begins⟩)
    · exact (plain segment member).1 begins
    · exact (plain segment member).2 begins
  · intro plain segment member
    exact
      ⟨fun begins => plain (Or.inl ⟨segment, member, begins⟩),
        fun begins => plain (Or.inr ⟨segment, member, begins⟩)⟩

/-- Segments behind a slash that are taken change nothing about those in front of it. -/
theorem findSome?_splitOn_append {text behind : List Char}
    (taken : (behind.splitOn '/').findSome? segmentRefusal? = none) :
    ((text ++ '/' :: behind).splitOn '/').findSome? segmentRefusal? =
      (text.splitOn '/').findSome? segmentRefusal? := by
  rw [List.splitOn_append_cons_self, List.findSome?_append, taken, Option.or_none]

/-- Whether the braces of a pattern are in order does not depend on text without any. -/
theorem isReadable_append
    {text : List Char}
    (literal : ∀ character ∈ text, character ≠ '\x7b' ∧ character ≠ '\x7d')
    (behind : List Char) : isReadable (text ++ behind) = isReadable behind := by
  induction text with
  | nil => rfl
  | cons first rest induction =>
      obtain ⟨notOpening, notClosing⟩ := literal first List.mem_cons_self
      rw [← induction fun character member => literal character (List.mem_cons_of_mem first member)]
      simp [isReadable, notOpening, notClosing]

theorem patternRefusal?_eq_none_iff {pattern : List Char} :
    patternRefusal? pattern = none ↔
      pattern.head? = some '/' ∧ (pattern.splitOn '/').findSome? segmentRefusal? = none ∧
        isReadable pattern = true := by
  rw [patternRefusal?]
  by_cases rooted : pattern.head? = some '/'
  · rw [if_pos rooted, Option.or_eq_none_iff]
    simp [rooted]
  · rw [if_neg rooted]
    simp [rooted]

/-- All three patterns of a prefix without parameters are taken, or none of them. -/
theorem patternRefusal?_pattern_iff
    {mount : String} (literal : IsLiteral mount) (rooted : mount.toList.head? = some '/')
    (route : Route) :
    patternRefusal? (route.pattern mount).toList = none ↔ ¬HasFormerSign mount := by
  have begins (behind : List Char) : (mount.toList ++ behind).head? = some '/' := by
    rw [List.head?_append, rooted, Option.some_or]
  have segments := findSome?_splitOn_iff rooted
  rw [patternRefusal?_eq_none_iff, HasFormerSign, ← segments]
  cases route with
  | itself =>
      have readable : isReadable mount.toList = true := by
        simpa [isReadable] using isReadable_append literal []
      simp [Route.pattern, rooted, readable]
  | slashed =>
      have spelled : (Route.slashed.pattern mount).toList = mount.toList ++ ['/'] :=
        String.toList_append
      rw [spelled, isReadable_append literal, findSome?_splitOn_append rfl]
      simp [begins, isReadable]
  | beneath =>
      have spelled :
          (Route.beneath.pattern mount).toList = mount.toList ++ '/' :: "\x7b*path\x7d".toList := by
        rw [Route.pattern, String.toList_append, String.toList_append, List.append_assoc]
        rfl
      have readable : isReadable ('/' :: "\x7b*path\x7d".toList) = true := by decide
      rw [spelled, isReadable_append literal, findSome?_splitOn_append (by decide), readable]
      simp [begins]

variable {mount : String}

theorem router_eq_ok_iff {router : Router} :
    Mount.router mount = .ok router ↔ router.mount = mount := by
  constructor
  · intro registered
    rw [Mount.router] at registered
    split at registered
    · cases registered
      rfl
    · cases registered
  · rintro rfl
    rw [Mount.router]
    split
    · rfl
    · next refusal refused =>
        rw [router.isTaken] at refused
        cases refused

theorem router_eq_error_iff {refusal : Refusal} :
    Mount.router mount = .error refusal ↔ refusal? mount = some refusal := by
  rw [Mount.router]
  split
  · next taken => simp [taken]
  · next found refused => simp [refused]

theorem exists_router_iff_refusal? :
    (∃ router, Mount.router mount = .ok router) ↔ refusal? mount = none := by
  constructor
  · rintro ⟨router, registered⟩
    rw [router_eq_ok_iff] at registered
    rw [← registered]
    exact router.isTaken
  · intro taken
    exact ⟨⟨mount, taken⟩, router_eq_ok_iff.mpr rfl⟩

theorem head?_of_isMountPrefix (valid : Settings.isMountPrefix mount = true) :
    mount.toList.head? = some '/' := by
  simp only [Settings.isMountPrefix, Bool.and_eq_true, beq_iff_eq] at valid
  exact valid.1.1

/--
There is a router for a prefix without parameters if and only if it begins with
a slash and has no former sign behind any.
-/
theorem exists_router_iff (literal : IsLiteral mount) :
    (∃ router, Mount.router mount = .ok router) ↔
      mount.toList.head? = some '/' ∧ ¬HasFormerSign mount := by
  rw [exists_router_iff_refusal?, refusal?, List.findSome?_eq_none_iff]
  constructor
  · intro taken
    have rooted : mount.toList.head? = some '/' :=
      (patternRefusal?_eq_none_iff.mp (taken .itself List.mem_cons_self)).1
    exact
      ⟨rooted,
        (patternRefusal?_pattern_iff literal rooted .itself).mp (taken .itself List.mem_cons_self)⟩
  · rintro ⟨rooted, plain⟩ route -
    exact (patternRefusal?_pattern_iff literal rooted route).mpr plain

-- Within a segment a colon is a character like any other.
example : refusal? "/a:b" = none ∧ refusal? "/a/:b" = some .colon := by decide +kernel

end SessionGateway.Mount
