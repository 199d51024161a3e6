import SessionGateway.Text.Ascii

/-!
# Percent-decoding

One pass of percent-decoding over octets.  A `%` that two hexadecimal digits
do not follow stands for itself, so decoding never fails.
-/

namespace SessionGateway.Text

/-- The value of an octet that is a hexadecimal digit. -/
def hexOctet? (byte : UInt8) : Option Nat :=
  hexValue? (Char.ofNat byte.toNat)

/-- Replaces each `%` and its two hexadecimal digits by the octet they name. -/
def percentDecode : List UInt8 → List UInt8
  | [] => []
  | byte :: high :: low :: rest =>
      if byte = 0x25 then
        match hexOctet? high, hexOctet? low with
        | some upper, some under => UInt8.ofNat (16 * upper + under) :: percentDecode rest
        | _, _ => byte :: percentDecode (high :: low :: rest)
      else
        byte :: percentDecode (high :: low :: rest)
  | byte :: rest => byte :: percentDecode rest

end SessionGateway.Text
