import Subscriber.Address.Ipv6
import Subscriber.Text.Lossy

/-! Hosts of addresses. Under most schemes a host is opaque: it is kept as written, and only
characters that could not stand in an address are escaped. Under the web's own schemes a host is a
domain or an IPv4 address; of these it matters only whether they are well formed. -/

namespace Subscriber.Address

/-- The characters that no host may contain. -/
def isForbidden (c : Char) : Bool :=
  "\x00\t\n\r #/:<>?@[\\]^|".toList.contains c

/-- Control characters and everything beyond ASCII. -/
def isEscaped (byte : UInt8) : Bool := byte < 0x20 || 0x7F ≤ byte

def upperHex (n : Nat) : Char := Char.ofNat (if n < 10 then 48 + n else 55 + n)

def percentEncode (text : List Char) : List Char :=
  (text.flatMap String.utf8EncodeChar).flatMap fun byte =>
    if isEscaped byte then ['%', upperHex (byte.toNat / 16), upperHex (byte.toNat % 16)]
    else [Char.ofNat byte.toNat]

/-- The inside of a pair of brackets, if the text starts with one. A bracket that is not closed by
the last character leaves nothing that could be an address. -/
def bracketed? (text : List Char) : Option (List Char) :=
  match text with
  | '[' :: inside => if inside.getLast? = some ']' then some inside.dropLast else some []
  | _ => none

/-- The canonical text of an opaque host, or nothing if it is malformed. -/
def opaqueHost? (text : List Char) : Option (List Char) :=
  match bracketed? text with
  | some inside => (Ipv6.parse? inside).map fun groups => '[' :: Ipv6.render groups ++ [']']
  | none => if text.any isForbidden then none else some (percentEncode text)

def percentDecode : Bytes → Bytes
  | 37 :: high :: low :: rest =>
    match hexValue? (Char.ofNat high.toNat), hexValue? (Char.ofNat low.toNat) with
    | some h, some l => UInt8.ofNat (h * 16 + l) :: percentDecode rest
    | _, _ => 37 :: percentDecode (high :: low :: rest)
  | byte :: rest => byte :: percentDecode rest
  | [] => []

/-- A number of an IPv4 address may be decimal, octal (after 0) or hexadecimal (after 0x). -/
def ipv4Number? (text : List Char) : Option Nat :=
  let inBase (base : Nat) (digits : List Char) : Option Nat :=
    if digits.all fun c => (hexValue? c).any (· < base) then some (baseValue base digits) else none
  match text with
  | [] => none
  | '0' :: 'x' :: digits => inBase 16 digits
  | '0' :: 'X' :: digits => inBase 16 digits
  | '0' :: digit :: digits => inBase 8 (digit :: digits)
  | digits => inBase 10 digits

/-- The parts of a domain, without the empty part behind a final dot. -/
def domainParts (domain : List Char) : List (List Char) :=
  let parts := domain.splitOn '.'
  if 1 < parts.length && parts.getLast? == some [] then parts.dropLast else parts

/-- A domain whose last part is a number has to be an IPv4 address. -/
def endsInNumber (domain : List Char) : Bool :=
  match (domainParts domain).getLast? with
  | some last => (!last.isEmpty && last.all Char.isDigit) || (ipv4Number? last).isSome
  | none => false

/-- At most four numbers. All but the last are bytes; the last fills what is left of 32 bits. -/
def isIpv4 (domain : List Char) : Bool :=
  match (domainParts domain).mapM ipv4Number? with
  | some numbers =>
    numbers.length ≤ 4 && numbers.dropLast.all (· ≤ 255) &&
      numbers.getLast?.getD 0 < Nat.pow 256 (5 - numbers.length)
  | none => false

/-- Whether a host of one of the web's schemes is well formed. Letters beyond ASCII are taken to be
letters that a domain may have. -/
def isWebHost (text : List Char) : Bool :=
  match bracketed? text with
  | some inside => (Ipv6.parse? inside).isSome
  | none =>
    let domain := (Text.lossy (percentDecode (text.flatMap String.utf8EncodeChar))).toList
    let refused (c : Char) := isForbidden c || c.toNat < 0x20 || c == '%' || c.toNat == 0x7F ||
      c == Text.replacement
    !domain.isEmpty && !domain.any refused && (!endsInNumber domain || isIpv4 domain)

end Subscriber.Address
