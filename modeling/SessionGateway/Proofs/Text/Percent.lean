import Mathlib.Logic.Basic
import SessionGateway.Text.Percent

/-!
# Percent-encoded spellings

`Text.Decodes` states one pass of percent-decoding by its rules, without the
function that computes it; `Text.Spells` relates a text to every way of
percent-encoding it, with any octets escaped and digits of either case.

The main statements say that the rules determine the decoded octets, that
`percentDecode` computes them, and that every spelling of a text decodes to
that text.  A text may hold `%` itself: its spellings escape it, and one pass
of decoding brings it back without decoding what follows it.
-/

namespace SessionGateway.Text

/-! ## Decoding by rules -/

/-- Two hexadecimal digits name an octet. -/
def NamesOctet (high low byte : UInt8) : Prop :=
  ∃ upper under : Nat,
    hexOctet? high = some upper ∧
      hexOctet? low = some under ∧
        byte = UInt8.ofNat (16 * upper + under)

/-- The octets start with `%` and two hexadecimal digits. -/
def StartsEscape (bytes : List UInt8) : Prop :=
  ∃ high low byte rest,
    bytes = 0x25 :: high :: low :: rest ∧ NamesOctet high low byte

/--
One pass of percent-decoding.  An escape is replaced by the octet it names;
any other octet, a `%` in front of anything else included, stands for itself.
-/
inductive Decodes : List UInt8 → List UInt8 → Prop where
  | nil : Decodes [] []
  | escape {high low byte : UInt8} {rest decoded : List UInt8}
      (named : NamesOctet high low byte)
      (tail : Decodes rest decoded) :
      Decodes (0x25 :: high :: low :: rest) (byte :: decoded)
  | literal {byte : UInt8} {rest decoded : List UInt8}
      (plain : ¬StartsEscape (byte :: rest))
      (tail : Decodes rest decoded) :
      Decodes (byte :: rest) (byte :: decoded)

theorem NamesOctet.unique
    {high low left right : UInt8}
    (namesLeft : NamesOctet high low left)
    (namesRight : NamesOctet high low right) :
    left = right := by
  obtain ⟨upper, under, highValue, lowValue, rfl⟩ := namesLeft
  obtain ⟨upper', under', highValue', lowValue', rfl⟩ := namesRight
  rw [highValue] at highValue'
  rw [lowValue] at lowValue'
  cases highValue'
  cases lowValue'
  rfl

theorem NamesOctet.startsEscape
    {high low byte : UInt8}
    (named : NamesOctet high low byte) (rest : List UInt8) :
    StartsEscape (0x25 :: high :: low :: rest) :=
  ⟨high, low, byte, rest, rfl, named⟩

/-- The rules leave no choice: octets decode in one way only. -/
theorem Decodes.unique
    {bytes left right : List UInt8}
    (decodesLeft : Decodes bytes left)
    (decodesRight : Decodes bytes right) :
    left = right := by
  induction decodesLeft generalizing right with
  | nil =>
      cases decodesRight
      rfl
  | escape named tail induction =>
      cases decodesRight with
      | escape namedRight tailRight =>
          rw [named.unique namedRight, induction tailRight]
      | literal plain tailRight =>
          exact absurd (named.startsEscape _) plain
  | literal plain tail induction =>
      cases decodesRight with
      | escape namedRight tailRight =>
          exact absurd (namedRight.startsEscape _) plain
      | literal plainRight tailRight =>
          rw [induction tailRight]

/-! ## The decoder follows the rules -/

theorem not_startsEscape_of_ne
    {byte : UInt8} (different : byte ≠ 0x25) (rest : List UInt8) :
    ¬StartsEscape (byte :: rest) := by
  rintro ⟨high, low, named, others, equal, -⟩
  exact different (List.cons.inj equal).1

theorem not_startsEscape_of_length
    {bytes : List UInt8} (short : bytes.length < 3) :
    ¬StartsEscape bytes := by
  rintro ⟨high, low, byte, rest, rfl, -⟩
  simp only [List.length_cons] at short
  omega

theorem decodes_percentDecode (bytes : List UInt8) :
    Decodes bytes (percentDecode bytes) := by
  fun_induction percentDecode bytes with
  | case1 =>
      exact .nil
  | case2 high low rest upper under lowValue highValue induction =>
      exact .escape ⟨upper, under, highValue, lowValue, rfl⟩ induction
  | case3 high low rest notDigits induction =>
      refine .literal ?_ induction
      rintro ⟨high', low', byte, rest', equal, upper, under, highValue, lowValue, -⟩
      simp only [List.cons.injEq, true_and] at equal
      obtain ⟨rfl, rfl, -⟩ := equal
      exact notDigits upper under highValue lowValue
  | case4 byte high low rest different induction =>
      exact .literal (not_startsEscape_of_ne different _) induction
  | case5 byte rest short induction =>
      refine .literal (not_startsEscape_of_length ?_) induction
      match rest, short with
      | [], _ => simp
      | [_], _ => simp
      | high :: low :: others, short => exact absurd rfl (short high low others)

/-- `percentDecode` computes what the rules of decoding determine. -/
theorem percentDecode_eq_iff {bytes decoded : List UInt8} :
    percentDecode bytes = decoded ↔ Decodes bytes decoded := by
  constructor
  · rintro rfl
    exact decodes_percentDecode bytes
  · intro decodes
    exact (decodes_percentDecode bytes).unique decodes

/-! ## Spellings -/

/--
The octets of a text with any of them escaped, in digits of either case.  A
`%` of the text is always escaped.
-/
inductive Spells : List UInt8 → List UInt8 → Prop where
  | nil : Spells [] []
  | plain {byte : UInt8} {spelled text : List UInt8}
      (notPercent : byte ≠ 0x25)
      (tail : Spells spelled text) :
      Spells (byte :: spelled) (byte :: text)
  | escaped {high low byte : UInt8} {spelled text : List UInt8}
      (named : NamesOctet high low byte)
      (tail : Spells spelled text) :
      Spells (0x25 :: high :: low :: spelled) (byte :: text)

/-- Every spelling of a text decodes to the text. -/
theorem Spells.decodes
    {spelled text : List UInt8} (spells : Spells spelled text) :
    Decodes spelled text := by
  induction spells with
  | nil => exact .nil
  | plain notPercent tail induction =>
      exact .literal (not_startsEscape_of_ne notPercent _) induction
  | escaped named tail induction =>
      exact .escape named induction

end SessionGateway.Text
