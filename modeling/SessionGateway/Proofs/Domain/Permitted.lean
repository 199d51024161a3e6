import SessionGateway.Domain
import SessionGateway.Proofs.Text.Reading

/-!
# Characters of a domain

Whatever name is read, its ASCII form holds no forbidden character: no blank, no
control, and none of the marks that divide a URL.  A plain name is checked as a
whole; of any other one the labels are checked, and the encoded labels consist
of characters of the label, hyphens and digits (`Punycode.permitted_encode`).
-/

namespace SessionGateway.Domain

/-- A text without forbidden characters. -/
def IsPermitted (text : List Char) : Prop :=
  ∀ character ∈ text, isForbidden character = false

theorem IsPermitted.append
    {front back : List Char} (permittedFront : IsPermitted front)
    (permittedBack : IsPermitted back) :
    IsPermitted (front ++ back) :=
  List.forall_mem_append.mpr ⟨permittedFront, permittedBack⟩

theorem isPermitted_of_any {text : List Char} (permitted : text.any isForbidden = false) :
    IsPermitted text := by
  intro character member
  exact Bool.eq_false_iff.mpr (List.any_eq_false.mp permitted character member)

/-! ## Encoded labels -/

namespace Punycode

theorem permitted_digit {value : Nat} (small : value < 36) :
    isForbidden (digit value) = false := by
  have all : ∀ number ∈ List.range 36, isForbidden (digit number) = false := by decide
  exact all value (List.mem_range.mpr small)

theorem permitted_writeNumber (bias weight number : Nat) :
    IsPermitted (writeNumber bias weight number) := by
  induction weight, number using writeNumber.induct bias with
  | case1 weight number least below =>
      have small : number < 36 :=
        Nat.lt_of_lt_of_le below (Nat.le_trans (threshold_le weight bias) (by decide))
      rw [writeNumber, if_pos below]
      simpa [IsPermitted] using permitted_digit small
  | case2 weight number least above induction =>
      have limit : least ≤ 26 := threshold_le weight bias
      have small : least + (number - least) % (36 - least) < 36 := by
        have rest : (number - least) % (36 - least) < 36 - least := Nat.mod_lt _ (by omega)
        omega
      rw [writeNumber, if_neg above]
      exact List.forall_mem_cons.mpr ⟨permitted_digit small, induction⟩

namespace Writing

variable
  {writing : Writing}

theorem permitted_pass (permitted : IsPermitted writing.output) (code : Nat) (character : Char) :
    IsPermitted (writing.pass code character).output := by
  unfold pass
  split
  · exact permitted
  · split
    · exact permitted.append (permitted_writeNumber _ _ _)
    · exact permitted

theorem permitted_foldl (permitted : IsPermitted writing.output) (code : Nat)
    (text : List Char) :
    IsPermitted (text.foldl (pass code) writing).output := by
  induction text generalizing writing with
  | nil => exact permitted
  | cons first rest induction => exact induction (permitted_pass permitted code first)

end Writing

theorem permitted_writeAll
    (text : List Char) (next : Nat) (codes : List Nat) {writing : Writing}
    (permitted : IsPermitted writing.output) :
    IsPermitted (writeAll text next codes writing) := by
  induction codes generalizing next writing with
  | nil => exact permitted
  | cons code codes induction =>
      rw [writeAll]
      apply induction
      apply Writing.permitted_foldl
      exact permitted

theorem permitted_encode {text : List Char} (permitted : IsPermitted text) :
    IsPermitted (encode text) := by
  have basic : IsPermitted (text.filter (·.toNat < 128)) := by
    intro character member
    exact permitted character ((List.mem_filter.mp member).1)
  have separator : IsPermitted
      (if (text.filter (·.toNat < 128)).isEmpty then [] else ['-']) := by
    split
    · exact List.forall_mem_nil _
    · exact List.forall_mem_singleton.mpr rfl
  exact (basic.append separator).append (permitted_writeAll text 128 _ (List.forall_mem_nil _))

end Punycode

/-! ## Names -/

/-- A letter in lower case is permitted, and all else stays as it is. -/
theorem permitted_toLower {character : Char} (permitted : isForbidden character = false) :
    isForbidden character.toLower = false := by
  cases upper : character.isUpper with
  | true =>
      have all : ∀ code < 128,
          (Char.ofNat code).isUpper = true → isForbidden (Char.ofNat code).toLower = false := by
        decide
      have ascii : character.toNat < 128 :=
        Nat.lt_of_le_of_lt (Text.toNat_of_isUpper upper).2 (by decide)
      have holds := all character.toNat ascii
      rw [Char.ofNat_toNat] at holds
      exact holds upper
  | false =>
      have same : character.toLower = character := dif_neg (of_decide_eq_false upper)
      rwa [same]

theorem permitted_encodeLabel?
    {label encoded : List Char} (permitted : IsPermitted label)
    (known : encodeLabel? label = some encoded) :
    IsPermitted encoded := by
  rw [encodeLabel?] at known
  split at known
  · cases known
    exact permitted
  · split at known
    · cases known
    · cases known
      have announced : IsPermitted "xn--".toList := isPermitted_of_any rfl
      exact announced.append (Punycode.permitted_encode permitted)

theorem mem_of_mapM
    {labels encoded : List (List Char)} (known : labels.mapM encodeLabel? = some encoded) :
    ∀ text ∈ encoded, ∃ label ∈ labels, encodeLabel? label = some text := by
  induction labels generalizing encoded with
  | nil =>
      rw [List.mapM_nil] at known
      cases known
      exact List.forall_mem_nil _
  | cons label labels induction =>
      rw [List.mapM_cons] at known
      obtain ⟨text, first, known⟩ := Option.bind_eq_some_iff.mp known
      obtain ⟨rest, others, known⟩ := Option.bind_eq_some_iff.mp known
      cases known
      intro other member
      rcases List.mem_cons.mp member with rfl | later
      · exact ⟨label, List.mem_cons_self, first⟩
      · obtain ⟨source, sourceMember, same⟩ := induction others other later
        exact ⟨source, List.mem_cons_of_mem label sourceMember, same⟩

theorem permitted_intercalate
    {labels : List (List Char)} (permitted : ∀ label ∈ labels, IsPermitted label) :
    IsPermitted (['.'].intercalate labels) := by
  intro character member
  rcases Text.mem_intercalate member with rfl | ⟨label, labelMember, inner⟩
  · rfl
  · exact permitted label labelMember character inner

theorem permitted_toAscii?
    {name domain : List Char} (known : toAscii? name = some domain) :
    IsPermitted domain := by
  rw [toAscii?] at known
  split at known
  · split at known
    · cases known
    · rename_i permitted
      cases known
      intro character member
      obtain ⟨former, inner, rfl⟩ := List.mem_map.mp member
      exact permitted_toLower (isPermitted_of_any (Bool.eq_false_iff.mpr permitted) former inner)
  · obtain ⟨mapped, -, known⟩ := Option.bind_eq_some_iff.mp known
    obtain ⟨labels, -, known⟩ := Option.bind_eq_some_iff.mp known
    split at known
    · rename_i valid
      obtain ⟨encoded, writings, known⟩ := Option.bind_eq_some_iff.mp known
      cases known
      apply permitted_intercalate
      intro text member
      obtain ⟨label, labelMember, encodes⟩ := mem_of_mapM writings text member
      rw [Bool.and_eq_true] at valid
      have validLabel : isValidLabel label = true :=
        List.all_eq_true.mp valid.1 label labelMember
      rw [isValidLabel, Bool.and_eq_true, Bool.and_eq_true, Bool.not_eq_true'] at validLabel
      exact permitted_encodeLabel? (isPermitted_of_any validLabel.1.1) encodes
    · cases known

end SessionGateway.Domain
