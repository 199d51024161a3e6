import SessionGateway.Text.Ascii

/-!
# IPv4 hosts of a URL

A host whose last label is a number is an IPv4 address or no host at all.
Numbers may be decimal, octal with a leading `0`, or hexadecimal with a
leading `0x`, and a short address puts its last number into all the octets
that are left.
-/

namespace SessionGateway.Url.Ipv4

/-- Reads one number of an address; a bare `0x` is zero. -/
def number? (text : List Char) : Option Nat :=
  let read (base : Nat) (digits : List Char) : Option Nat :=
    if digits.isEmpty then some 0 else Text.numeral? base (Text.lower digits)
  match text with
  | [] => none
  | '0' :: 'x' :: digits => read 16 digits
  | '0' :: 'X' :: digits => read 16 digits
  | '0' :: digits => read 8 digits
  | digits => Text.decimal? digits

/-- The labels of a host, without the empty one behind a final dot. -/
def labels (host : List Char) : List (List Char) :=
  let parts := host.splitOn '.'
  if parts.length > 1 ∧ parts.getLast? = some [] then parts.dropLast else parts

/-- Whether the last label of a host is a number. -/
def endsInNumber (host : List Char) : Bool :=
  match (labels host).getLast? with
  | none => false
  | some label => (!label.isEmpty && label.all Char.isDigit) || (number? label).isSome

/-- Reads an address as a number below `2 ^ 32`. -/
def parse? (host : List Char) : Option Nat := do
  let numbers ← (labels host).mapM number?
  let last ← numbers.getLast?
  let leading := numbers.dropLast
  if 3 < leading.length ∨ leading.any (255 < ·) ∨ Nat.pow 256 (4 - leading.length) ≤ last then
    none
  else
    some ((leading ++ List.replicate (4 - leading.length) 0).foldl (fun value octet =>
      value * 256 + octet) 0 + last)

/-- The dotted writing of an address. -/
def text (address : Nat) : List Char :=
  let octet (place : Nat) : List Char := Nat.toDigits 10 (address / Nat.pow 256 place % 256)
  octet 3 ++ '.' :: octet 2 ++ '.' :: octet 1 ++ '.' :: octet 0

end SessionGateway.Url.Ipv4
