import SessionGateway.Proofs.Http.PlainValue
import SessionGateway.Proofs.Origin.Policy

/-!
# Origins that can be read

The policy is asked about the text of an `Origin` header.  A header value that is
UTF-8 has a text, but the service reads visible ASCII only, so a text with any
other character counts as no text (`HeaderValue.text?_of_not_isAscii`).  Up to that,
the policy for a request is the policy for the text of its origin
(`Origin.isRequestAllowed_iff_ascii`); a listed origin with such a character is
refused all the same (`Origin.refuses_listed_text`).
-/

namespace SessionGateway

open Http

/-- All characters of a text are in the ASCII range. -/
def Text.IsAscii (text : String) : Prop :=
  ∀ character ∈ text.toList, character.toNat < 128

namespace Http.HeaderValue

variable
  {value : HeaderValue}
  {text : String}

/-- An octet of a header value is visible unless it belongs to a character outside ASCII. -/
theorem isVisibleOctet_of_lt {byte : UInt8} (legal : isValueOctet byte = true)
    (low : byte.toNat < 128) :
    isVisibleOctet byte = true := by
  simp only [isValueOctet, Bool.or_eq_true, Bool.and_eq_true, decide_eq_true_eq, bne_iff_ne,
    beq_iff_eq] at legal
  rcases legal with ⟨above, notDelete⟩ | rfl
  · have below : byte < 0x7F := by
      have different : byte.toNat ≠ 127 := fun same => notDelete (UInt8.toNat_inj.mp same)
      rw [UInt8.lt_iff_toNat_lt]
      exact Nat.lt_of_le_of_ne (Nat.le_of_lt_succ low) different
    simp [isVisibleOctet, above, below]
  · rfl

theorem octets_of_isAscii (ascii : Text.IsAscii text) :
    Text.octets text = text.toList.map fun character => UInt8.ofNat character.toNat := by
  have spelled := Text.octets_ofList text.toList
  rw [String.ofList_toList] at spelled
  rw [spelled, List.map_eq_flatMap]
  apply List.flatMap_congr
  intro character member
  exact utf8EncodeChar_of_ascii (Nat.le_of_lt_succ (ascii character member))

theorem text?_of_isAscii (spelled : value.octets = Text.octets text)
    (ascii : Text.IsAscii text) :
    value.text? = some text := by
  have visible : value.octets.all isVisibleOctet = true := by
    rw [List.all_eq_true]
    intro byte member
    apply isVisibleOctet_of_lt (List.all_eq_true.mp value.legal byte member)
    rw [spelled, octets_of_isAscii ascii] at member
    obtain ⟨character, inside, rfl⟩ := List.mem_map.mp member
    have low := ascii character inside
    have small : character.toNat < UInt8.size := Nat.lt_trans low (by decide)
    rwa [UInt8.toNat_ofNat_of_lt' small]
  rw [text?, if_pos visible, Text.ofOctets?_eq_some_iff, spelled]

/-- What is read is ASCII, and it is the text. -/
theorem isAscii_of_text? (read : value.text? = some text) : Text.IsAscii text := by
  rw [text?] at read
  split at read
  · rename_i visible
    have spelled := octets_of_visible visible
    rw [← Text.ofOctets?_eq_some_iff, read] at spelled
    cases spelled
    intro character member
    rw [String.toList_ofList] at member
    obtain ⟨byte, inside, rfl⟩ := List.mem_map.mp member
    have low := toNat_le_of_isVisibleOctet (List.all_eq_true.mp visible byte inside)
    rw [Char.ofNat, dif_pos (Or.inl (by omega))]
    exact Nat.lt_succ_of_le low
  · cases read

theorem octets_of_text? (read : value.text? = some text) : value.octets = Text.octets text := by
  rw [text?] at read
  split at read
  · exact (Text.ofOctets?_eq_some_iff.mp read).symm
  · cases read

/-- Of the values that have a text, only those of ASCII can be read. -/
theorem text?_of_not_isAscii (spelled : value.octets = Text.octets text)
    (foreign : ¬Text.IsAscii text) :
    value.text? = none := by
  rw [Option.eq_none_iff_forall_ne_some]
  intro other read
  have same : some other = some text := by
    rw [← Text.ofOctets?_octets other, ← octets_of_text? read, spelled, Text.ofOctets?_octets]
  cases same
  exact foreign (isAscii_of_text? read)

end Http.HeaderValue

namespace Origin

/--
The policy for a request is the policy for the text of its origin, if that is
ASCII, and refusal otherwise.

A request without an origin is allowed.  For a first `Origin` value with a text,
the request is allowed if and only if all characters of the text are ASCII and
the policy accepts the text, with the own origin worked out for every request.
So the two differ only for a text with another character that the policy
accepts; being listed, or a `*` in the list, helps an ASCII text alone.  A value
that is no UTF-8 is refused by every list.
-/
theorem isRequestAllowed_iff_ascii (request : Request) (allowed : List String) :
    (request.headers.first? .origin = none → isRequestAllowed request allowed = true) ∧
      ∀ value, request.headers.first? .origin = some value →
        (∀ text, value.octets = Text.octets text →
          let policy := isAllowed (some text) allowed (ServerOrigin.ofRequest? request)
          (isRequestAllowed request allowed = true ↔ Text.IsAscii text ∧ policy = true) ∧
            (isRequestAllowed request allowed = policy ↔
              (policy = true → Text.IsAscii text)) ∧
            (text ∈ allowed ∨ "*" ∈ allowed →
              (isRequestAllowed request allowed = true ↔ Text.IsAscii text))) ∧
        ((∀ text, value.octets ≠ Text.octets text) →
          isRequestAllowed request allowed = false) := by
  refine ⟨isRequestAllowed_of_absent, ?_⟩
  intro value present
  constructor
  · intro text spelled policy
    have decided :
        isRequestAllowed request allowed = true ↔ Text.IsAscii text ∧ policy = true := by
      by_cases ascii : Text.IsAscii text
      · have read := HeaderValue.text?_of_isAscii spelled ascii
        rw [isRequestAllowed_of_text? present read]
        exact (and_iff_right ascii).symm
      · have unreadable := HeaderValue.text?_of_not_isAscii spelled ascii
        rw [isRequestAllowed_of_unreadable present unreadable]
        simp [ascii]
    refine ⟨decided, ?_, ?_⟩
    · rw [Bool.eq_iff_iff, decided]
      tauto
    · intro accepted
      have accepts : policy = true := by
        rcases accepted with listed | named
        · exact isAllowed_of_listed listed _
        · exact isAllowed_of_named named text _
      rw [decided, and_iff_left accepts]
  · intro foreign
    apply isRequestAllowed_of_unreadable present
    rw [Option.eq_none_iff_forall_ne_some]
    intro text read
    exact foreign text (HeaderValue.octets_of_text? read)

/-- A page with an origin in ASCII. -/
def plainPage : Request where
  headers := { fields := [(.origin, .literal "https://a.example")] }

theorem isRequestAllowed_iff_ascii_listed :
    let text := "https://a.example"
    (∃ value, plainPage.headers.first? .origin = some value ∧
        value.octets = Text.octets text) ∧
      Text.IsAscii text ∧ isRequestAllowed plainPage [text] = true := by
  intro text
  have present : plainPage.headers.first? .origin = some (.literal text) := rfl
  have ascii : Text.IsAscii text := by
    have checked : text.toList.all (·.toNat < 128) = true := by decide +kernel
    exact fun character member => of_decide_eq_true (List.all_eq_true.mp checked character member)
  obtain ⟨read, -⟩ := (isRequestAllowed_iff_ascii plainPage [text]).2 _ present
  obtain ⟨-, -, listed⟩ := read text rfl
  exact ⟨⟨_, present, rfl⟩, ascii, (listed (Or.inl List.mem_cons_self)).mpr ascii⟩

/-- A page with an origin in other letters. -/
def foreignPage : Request where
  headers := { fields := [(.origin, .literal "https://bücher.example")] }

/-- The origin of a page has a text; it is listed, and so is a `*`, but it is not allowed. -/
theorem refuses_listed_text :
    let text := "https://bücher.example"
    (∃ value, foreignPage.headers.first? .origin = some value ∧
        value.octets = Text.octets text) ∧
      ∀ allowed ∈ [[text], ["*"]],
        isAllowed (some text) allowed (ServerOrigin.ofRequest? foreignPage) = true ∧
          isRequestAllowed foreignPage allowed = false := by
  intro text
  refine ⟨⟨_, rfl, rfl⟩, ?_⟩
  decide +kernel

end Origin

end SessionGateway
