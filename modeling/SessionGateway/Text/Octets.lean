/-!
# Octets of a text

A text and its UTF-8 octets.  `ofOctets?` reads exactly what `octets` writes,
so a byte sequence has at most one reading.
-/

namespace SessionGateway.Text

/-- The UTF-8 octets of a text. -/
def octets (text : String) : List UInt8 :=
  text.toByteArray.data.toList

/-- The text with the given UTF-8 octets, if they are well formed. -/
def ofOctets? (bytes : List UInt8) : Option String :=
  String.fromUTF8? ⟨bytes.toArray⟩

theorem ofOctets?_eq_some_iff {bytes : List UInt8} {text : String} :
    ofOctets? bytes = some text ↔ octets text = bytes := by
  unfold ofOctets? octets String.fromUTF8?
  constructor
  · intro read
    split at read
    · cases read
      simp [String.fromUTF8]
    · cases read
  · rintro rfl
    have same : ByteArray.mk text.toByteArray.data.toList.toArray = text.toByteArray := by
      simp
    simp [same, text.isValidUTF8, String.fromUTF8]

@[simp]
theorem ofOctets?_octets (text : String) : ofOctets? (octets text) = some text :=
  ofOctets?_eq_some_iff.2 rfl

/-- The lower-case hexadecimal writing of octets. -/
def hexOfOctets (bytes : List UInt8) : String :=
  String.ofList (bytes.flatMap fun byte =>
    [Nat.digitChar (byte.toNat / 16), Nat.digitChar (byte.toNat % 16)])

end SessionGateway.Text
