import FilterSync.Text.Utf8
import FilterSync.Url.Domain
import FilterSync.Url.Fault
import FilterSync.Url.Ipv4
import FilterSync.Url.Ipv6

/-!
# Hosts

A host in brackets is an IPv6 address. Any other host of a special scheme is a domain name
or an IPv4 address, written with escaped bytes where one likes. A host of another scheme is
kept as it is written.
-/

namespace FilterSync.Url

/-- The bytes of a text in which a percent sign with two hexadecimal digits is a byte. -/
def unescape : List Char → List UInt8
  | [] => []
  | '%' :: a :: b :: s =>
    match Text.numeral? 16 [a, b] with
    | some n => UInt8.ofNat n :: unescape s
    | none => 0x25 :: unescape (a :: b :: s)
  | c :: s => Text.encodeChar c ++ unescape s

/-- What is wrong with a host that is a domain name or an IPv4 address. -/
def domainFault? (s : List Char) : Option Fault :=
  match (Text.decode? (unescape s)).bind Domain.parse? with
  | none => some .badDomain
  | some [] => some .emptyHost
  | some name =>
    if Ipv4.endsInNumber name && (Ipv4.parse? name).isNone then some .badIpv4 else none

/-- Whether a character may not stand in a host that is kept as it is written. -/
def isRefusedVerbatim (c : Char) : Bool :=
  c = '\x00' || c = '\t' || c = '\n' || c = '\r' || " #/:<>?@[\\]^|".toList.contains c

/-- What is wrong with a host. -/
def hostFault? (isSpecial : Bool) (s : List Char) : Option Fault :=
  match s with
  | '[' :: s =>
    if s.getLast? = some ']' && (Ipv6.parse? s.dropLast).isSome then none else some .badIpv6
  | s =>
    if isSpecial then domainFault? s
    else if s.any isRefusedVerbatim then some .badHostChar
    else none

end FilterSync.Url
