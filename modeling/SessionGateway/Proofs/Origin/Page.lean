import SessionGateway.Proofs.Http.PlainValue
import SessionGateway.Proofs.Text.Percent
import SessionGateway.Proofs.Url.Reading

/-!
# The origin of a page

Reading the spelling of a web origin as a URL.  The host comes out in lower
case, unchanged otherwise: nothing in it is decoded, none of its labels is
encoded, and it is never taken for an address, because a letter starts its
last label.  The port comes out unless it is the default one of the scheme.
-/

namespace SessionGateway.Url

/-! ## Hosts -/

theorem number?_of_isAlpha
    {first : Char} (letter : first.isAlpha = true) (rest : List Char) :
    Ipv4.number? (first :: rest) = none := by
  have notZero : first ≠ '0' := by
    rintro rfl
    cases letter
  -- Octal and hexadecimal numbers start with a zero, so only a decimal one is left.
  simp [Ipv4.number?, notZero, Text.decimal?_of_isAlpha letter]

theorem labels_text (name : HostName) : Ipv4.labels name.text = name.labels := by
  have full : name.labels.getLast? ≠ some [] := by
    intro last
    obtain ⟨first, rest, cons, -⟩ := (name.valid [] (List.mem_of_getLast? last)).eq_cons
    cases cons
  rw [Ipv4.labels, name.splitOn_text]
  exact if_neg fun stopped => full stopped.2

theorem endsInNumber_text (name : HostName) : Ipv4.endsInNumber name.text = false := by
  have last := List.getLast?_eq_some_getLast name.nonempty
  obtain ⟨first, rest, cons, letter⟩ := (name.valid _ (List.getLast_mem name.nonempty)).eq_cons
  have notDigit : first.isDigit = false :=
    forall_isHostCharacter
      (fun character => character.isAlpha = true → character.isDigit = false)
      (by decide) (isHostCharacter_of_isAlpha letter) letter
  rw [Ipv4.endsInNumber, labels_text, last, cons]
  simp [notDigit, number?_of_isAlpha letter]

theorem percentDecode_of_unescaped
    {bytes : List UInt8} (unescaped : ∀ byte ∈ bytes, byte ≠ 0x25) :
    Text.percentDecode bytes = bytes := by
  rw [Text.percentDecode_eq_iff]
  induction bytes with
  | nil => exact .nil
  | cons byte rest induction =>
      apply Text.Decodes.literal
      · exact Text.not_startsEscape_of_ne (unescaped byte List.mem_cons_self) rest
      · exact induction fun other member => unescaped other (List.mem_cons_of_mem byte member)

theorem percentDecode_text (name : HostName) :
    Text.percentDecode (Text.octets (String.ofList name.text)) =
      Text.octets (String.ofList name.text) := by
  have plain : name.text.all Http.HeaderValue.isPlainCharacter = true := by
    rw [List.all_eq_true]
    intro character member
    exact forall_isHostCharacter
      (fun character => Http.HeaderValue.isPlainCharacter character = true)
      (by decide) (HostName.isHostCharacter_of_mem member)
  rw [Http.HeaderValue.octets_ofList_of_plain plain]
  apply percentDecode_of_unescaped
  intro byte member
  obtain ⟨character, inner, rfl⟩ := List.mem_map.mp member
  exact forall_isHostCharacter (fun character => UInt8.ofNat character.toNat ≠ 0x25)
    (by decide) (HostName.isHostCharacter_of_mem inner)

theorem toAscii?_text (name : HostName) :
    Domain.toAscii? name.text = some (Text.lower name.text) := by
  have ascii : Domain.isAscii name.text = true := by
    rw [Domain.isAscii, List.all_eq_true]
    intro character member
    exact decide_eq_true (toNat_lt_of_isHostCharacter (HostName.isHostCharacter_of_mem member))
  have literal : name.labels.any Domain.isEncoded = false := by
    rw [List.any_eq_false]
    intro label member encoded
    exact (name.valid label member).literal (List.isPrefixOf_iff_prefix.mp encoded)
  have permitted : name.text.any Domain.isForbidden = false := by
    rw [List.any_eq_false]
    intro character member
    exact Bool.eq_false_iff.mp (permitted_text name character member)
  have plain : Domain.isPlain name.text = true := by
    rw [Domain.isPlain, name.splitOn_text, ascii, literal]
    rfl
  rw [Domain.toAscii?, if_pos plain, permitted]
  rfl

theorem lower_text_ne_nil (name : HostName) : Text.lower name.text ≠ [] := by
  rw [← name.text_lowered]
  exact name.lowered.text_ne_nil

theorem parseHost?_text (name : HostName) :
    Host.parse? name.text = some (.domain (Text.lower name.text)) := by
  obtain ⟨first, rest, cons, letter⟩ := name.text_eq_cons
  have notOpening : first ≠ '[' :=
    ne_of_isHostCharacter (isHostCharacter_of_isAlpha letter) (by decide)
  have notEmpty : Text.lower name.text ≠ [] := lower_text_ne_nil name
  have notNumber : Ipv4.endsInNumber (Text.lower name.text) = false := by
    rw [← name.text_lowered]
    exact endsInNumber_text name.lowered
  rw [Host.parse?.eq_def]
  split
  · rename_i opened
    rw [cons] at opened
    exact absurd (List.cons.inj opened).1 notOpening
  · rw [percentDecode_text, Text.ofOctets?_octets]
    simp [toAscii?_text, notEmpty, notNumber]

/-! ## Origins -/

section Origins

variable
  {origin : WebOrigin}
  {text : List Char}

/-- The URL of an origin; it has no port if that is the default one of the scheme. -/
def ofOrigin (origin : WebOrigin) : Url where
  scheme := origin.scheme.text
  host := some (.domain (Text.lower origin.host.text))
  port :=
    (origin.port?.map Fin.val).filter fun number =>
      some number ≠ defaultPort? origin.scheme.text

theorem effectivePort?_ofOrigin (origin : WebOrigin) :
    (ofOrigin origin).effectivePort? = some origin.port := by
  rw [effectivePort?, ofOrigin, defaultPort?_text, WebOrigin.port]
  cases origin.port? with
  | none => rfl
  | some port =>
      by_cases standard : port.val = origin.scheme.defaultPort
      · simp [Option.filter, standard]
      · simp [Option.filter, standard]

theorem parse?_of_writes
    (written : origin.Writes text) :
    parse? text = some (ofOrigin origin) := by
  obtain ⟨word, authority, rfl, named, port, rfl, portWritten⟩ := written
  rw [parse?_of_written named (isHostText_text origin.host) portWritten, parseHost?_text]
  rfl

end Origins

end SessionGateway.Url
