import SessionGateway.Domain
import SessionGateway.Text.Octets
import SessionGateway.Text.Percent
import SessionGateway.Url.Ipv4
import SessionGateway.Url.Ipv6

/-!
# Hosts of a URL

The host of a URL is a domain in ASCII form or an address.  Schemes with a
known default port have domains, which are percent-decoded and put into lower
case; other schemes have opaque hosts, which are kept as written.
-/

namespace SessionGateway.Url

/-- The host of a URL. -/
inductive Host where
  | domain (name : List Char)
  | ipv4 (address : Nat)
  | ipv6 (pieces : List Nat)
  deriving DecidableEq, Repr

namespace Host

/-- The writing of a host; an IPv6 address is put in square brackets. -/
def text : Host → List Char
  | domain name => name
  | ipv4 address => Ipv4.text address
  | ipv6 pieces => '[' :: Ipv6.text pieces ++ [']']

/-- A character that an opaque host may not hold. -/
def isForbiddenOpaque (character : Char) : Bool :=
  "\x00\t\n\r #/:<>?@[\\]^|".toList.contains character

/-- Reads a bracketed address; the opening bracket is already read. -/
def bracketed? (rest : List Char) : Option Host :=
  if rest.getLast? = some ']' then (Ipv6.parse? rest.dropLast).map ipv6 else none

/-- Reads the host of a scheme with a known default port. -/
def parse? (text : List Char) : Option Host :=
  match text with
  | '[' :: rest => bracketed? rest
  | _ => do
      let decoded ← Text.ofOctets? (Text.percentDecode (Text.octets (String.ofList text)))
      let domain ← Domain.toAscii? decoded.toList
      if domain.isEmpty then
        none
      else if Ipv4.endsInNumber domain then
        (Ipv4.parse? domain).map ipv4
      else
        some (Host.domain domain)

/-- A character of an opaque host; control and non-ASCII characters are percent-encoded. -/
def encodeOpaque (character : Char) : List Char :=
  if 0x20 ≤ character.toNat ∧ character.toNat < 0x7F then
    [character]
  else
    (Text.octets (String.singleton character)).flatMap fun byte =>
      '%' :: (Text.hexDigits 2 byte.toNat).map Char.toUpper

/-- Reads the host of any other scheme. -/
def parseOpaque? (text : List Char) : Option Host :=
  match text with
  | '[' :: rest => bracketed? rest
  | _ =>
      if text.any isForbiddenOpaque then
        none
      else
        some (Host.domain (text.flatMap encodeOpaque))

end Host

end SessionGateway.Url
