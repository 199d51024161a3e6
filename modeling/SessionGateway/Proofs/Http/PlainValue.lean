import Mathlib.Logic.Basic
import SessionGateway.Iframe

/-!
# Header values of plain text

Printable ASCII is its own encoding, so a text of it always is a header value.
The entity tag of the bootstrap page is such a text: writing it to a response
cannot fail.
-/

namespace SessionGateway

theorem Text.octets_ofList (text : List Char) :
    octets (String.ofList text) = text.flatMap String.utf8EncodeChar := by
  rw [octets, String.toByteArray_ofList]
  exact List.toList_data_toByteArray

namespace Http.HeaderValue

theorem utf8EncodeChar_of_ascii {character : Char} (ascii : character.toNat ≤ 0x7F) :
    String.utf8EncodeChar character = [UInt8.ofNat character.toNat] := by
  have small : character.val.toNat ≤ 0x7f := ascii
  rw [String.utf8EncodeChar, if_pos small]
  rfl

theorem utf8EncodeChar_of_isPlainCharacter
    {character : Char} (plain : isPlainCharacter character = true) :
    String.utf8EncodeChar character = [UInt8.ofNat character.toNat] := by
  simp only [isPlainCharacter, Bool.and_eq_true, decide_eq_true_eq] at plain
  exact utf8EncodeChar_of_ascii (Nat.le_of_lt plain.2)

theorem octets_ofList_of_plain
    {text : List Char} (plain : text.all isPlainCharacter = true) :
    Text.octets (String.ofList text) =
      text.map fun character => UInt8.ofNat character.toNat := by
  rw [Text.octets_ofList]
  induction text with
  | nil => rfl
  | cons first rest induction =>
      rw [List.all_cons, Bool.and_eq_true] at plain
      rw [List.flatMap_cons, utf8EncodeChar_of_isPlainCharacter plain.1,
        induction plain.2]
      rfl

/-- A text of printable ASCII is a header value. -/
theorem ofString?_of_plain
    {text : List Char} (plain : text.all isPlainCharacter = true) :
    ofString? (String.ofList text) = some (ofPlain text plain) := by
  have same := octets_ofList_of_plain plain
  have legal : (Text.octets (String.ofList text)).all isValueOctet = true := by
    rw [same]
    exact (ofPlain text plain).legal
  rw [ofString?, ofOctets?, dif_pos legal]
  simp only [ofPlain, same]

theorem toNat_le_of_isVisibleOctet {byte : UInt8} (visible : isVisibleOctet byte = true) :
    byte.toNat ≤ 0x7F := by
  simp only [isVisibleOctet, Bool.or_eq_true, Bool.and_eq_true, decide_eq_true_eq,
    beq_iff_eq] at visible
  rcases visible with ⟨-, below⟩ | rfl
  · exact Nat.le_of_lt (UInt8.lt_iff_toNat_lt.mp below)
  · decide

/-- Visible ASCII is its own encoding. -/
theorem octets_of_visible {octets : List UInt8} (visible : octets.all isVisibleOctet = true) :
    Text.octets (String.ofList (octets.map fun byte => Char.ofNat byte.toNat)) = octets := by
  rw [Text.octets_ofList]
  induction octets with
  | nil => rfl
  | cons first rest induction =>
      rw [List.all_cons, Bool.and_eq_true] at visible
      have low : first.toNat ≤ 0x7F := toNat_le_of_isVisibleOctet visible.1
      have number : (Char.ofNat first.toNat).toNat = first.toNat := by
        rw [Char.ofNat, dif_pos (Or.inl (by omega))]
        rfl
      have encoded : String.utf8EncodeChar (Char.ofNat first.toNat) = [first] := by
        rw [utf8EncodeChar_of_ascii (number.symm ▸ low), number, UInt8.ofNat_toNat]
      rw [List.map_cons, List.flatMap_cons, encoded, induction visible.2]
      rfl

/-- A value is unreadable only because of an octet that is not visible ASCII. -/
theorem text?_eq_none_iff {value : HeaderValue} :
    value.text? = none ↔ ∃ byte ∈ value.octets, isVisibleOctet byte = false := by
  rw [text?]
  cases visible : value.octets.all isVisibleOctet with
  | true =>
      rw [if_pos rfl, Text.ofOctets?_eq_some_iff.mpr (octets_of_visible visible)]
      simpa using List.all_eq_true.mp visible
  | false => simpa using visible

/-- A text of printable ASCII is read back from its value. -/
theorem text?_ofPlain {text : List Char} (plain : text.all isPlainCharacter = true) :
    (ofPlain text plain).text? = some (String.ofList text) := by
  have visible : (ofPlain text plain).octets.all isVisibleOctet = true := by
    simp only [ofPlain, List.all_map, List.all_eq_true] at plain ⊢
    intro character member
    have inside := plain character member
    simp only [isPlainCharacter, Bool.and_eq_true, decide_eq_true_eq] at inside
    have below : character.toNat < 256 := by omega
    have number : (UInt8.ofNat character.toNat).toNat = character.toNat :=
      UInt8.toNat_ofNat_of_lt' below
    simp [isVisibleOctet, UInt8.le_iff_toNat_le, UInt8.lt_iff_toNat_lt, number, inside]
  rw [text?, if_pos visible, Text.ofOctets?_eq_some_iff]
  exact octets_ofList_of_plain plain

end Http.HeaderValue

theorem Iframe.ofString?_etag (content : List UInt8) :
    Http.HeaderValue.ofString? (String.ofList (etag content)) =
      some (etagValue content) :=
  Http.HeaderValue.ofString?_of_plain (etag_plain content)

end SessionGateway
