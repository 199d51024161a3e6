/-!
# Base64

The writing of octets in the alphabet of RFC 4648, with padding.
-/

namespace SessionGateway.Text

/-- The sixty-four digits. -/
def base64Alphabet : String :=
  "ABCDEFGHIJKLMNOPQRSTUVWXYZabcdefghijklmnopqrstuvwxyz0123456789+/"

/-- The digit of a value below sixty-four. -/
def base64Digit (value : Nat) : Char :=
  base64Alphabet.toList.getD value '='

/-- The digits of octets, in groups of four. -/
def base64 : List UInt8 → List Char
  | [] => []
  | [first] =>
      let value := first.toNat * 16
      [base64Digit (value / 64), base64Digit (value % 64), '=', '=']
  | [first, second] =>
      let value := (first.toNat * 256 + second.toNat) * 4
      [base64Digit (value / 4096), base64Digit (value / 64 % 64), base64Digit (value % 64), '=']
  | first :: second :: third :: rest =>
      let value := (first.toNat * 256 + second.toNat) * 256 + third.toNat
      base64Digit (value / 262144) :: base64Digit (value / 4096 % 64) ::
        base64Digit (value / 64 % 64) :: base64Digit (value % 64) :: base64 rest

end SessionGateway.Text
