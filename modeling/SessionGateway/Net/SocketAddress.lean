import SessionGateway.Text.Ascii

/-!
# Socket addresses

The strict writing of a socket address: a dotted IPv4 address or a bracketed
IPv6 address, and a port.  Names are no addresses.
-/

namespace SessionGateway.Net

/-- One octet of a dotted address: at most three digits, without leading zeros. -/
def octet? (text : List Char) : Option Nat :=
  if text.all Char.isDigit && text.length ≤ 3 && !(1 < text.length && text.head? == some '0') then
    (Text.decimal? text).filter (· < 256)
  else
    none

/-- A dotted IPv4 address. -/
def isIpv4 (text : List Char) : Bool :=
  let octets := text.splitOn '.'
  octets.length == 4 && octets.all fun octet => (octet? octet).isSome

/-- One piece of an IPv6 address: one to four hexadecimal digits. -/
def isPiece (text : List Char) : Bool :=
  1 ≤ text.length && text.length ≤ 4 && text.all fun digit => (Text.hexValue? digit).isSome

/--
The number of pieces that a colon-separated run has; a dotted address at its
end counts as two.  The empty run has none.
-/
def pieceCount? (text : List Char) : Option Nat :=
  if text.isEmpty then
    some 0
  else
    let parts := text.splitOn ':'
    let leading := parts.dropLast
    let final := parts.getLast?.getD []
    if leading.all isPiece then
      if isPiece final then
        some (leading.length + 1)
      else if isIpv4 final then
        some (leading.length + 2)
      else
        none
    else
      none

/-- Splits a text at its first `::`. -/
def splitAtGap : List Char → Option (List Char × List Char)
  | ':' :: ':' :: rest => some ([], rest)
  | character :: rest =>
      (splitAtGap rest).map fun (front, back) => (character :: front, back)
  | [] => none

/-- An IPv6 address; `::` stands for at least one piece of zeros. -/
def isIpv6 (text : List Char) : Bool :=
  match splitAtGap text with
  | none => pieceCount? text == some 8
  | some (front, back) =>
      !front.contains '.' &&
        match pieceCount? front, pieceCount? back with
        | some ahead, some behind => ahead + behind ≤ 7
        | _, _ => false

/-- A decimal number below a limit, with any number of leading zeros. -/
def isNumberBelow (limit : Nat) (text : List Char) : Bool :=
  text.all Char.isDigit && ((Text.decimal? text).any (· < limit))

/-- Splits a text at its last colon. -/
def splitAtLastColon (text : List Char) : Option (List Char × List Char) :=
  if text.contains ':' then
    let port := (text.reverse.takeWhile (· ≠ ':')).reverse
    some (text.take (text.length - port.length - 1), port)
  else
    none

namespace SocketAddress

/-- A bracketed IPv6 address with an optional numeric scope; the bracket is already read. -/
def isBracketed (host : List Char) : Bool :=
  host.getLast? == some ']' &&
    let inner := host.dropLast
    let (address, scope) := inner.span (· ≠ '%')
    isIpv6 address &&
      match scope with
      | [] => true
      | _ :: number => isNumberBelow 4294967296 number

/-- Whether a text is a socket address. -/
def isLegal (text : List Char) : Bool :=
  match splitAtLastColon text with
  | none => false
  | some (host, port) =>
      isNumberBelow 65536 port &&
        match host with
        | '[' :: rest => isBracketed rest
        | _ => isIpv4 host

end SocketAddress

end SessionGateway.Net
