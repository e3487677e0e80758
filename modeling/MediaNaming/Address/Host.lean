import MediaNaming.Address.DomainName
import MediaNaming.Address.Numeric

/-
Hosts, and what can be wrong with them. A host in brackets is a numeric one. The host of a
scheme that knows domains is a name or a number, and that of any other scheme is free text.
-/
namespace MediaNaming

inductive AddressFault where
  | noScheme
  | emptyHost
  | badName
  | badCharacter
  | badIpv4
  | badIpv6
  | badSocket
deriving DecidableEq, Repr

def AddressFault.message : AddressFault → Text
  | noScheme => "relative URL without a base".toList
  | emptyHost => "empty host".toList
  | badName => "invalid international domain name".toList
  | badCharacter => "invalid domain character".toList
  | badIpv4 => "invalid IPv4 address".toList
  | badIpv6 => "invalid IPv6 address".toList
  | badSocket => "invalid port number".toList

/-- The bytes of a text, where a percent sign and two digits stand for one byte. -/
def percentDecoded : Text → List UInt8
  | '%' :: high :: low :: rest =>
    match digitValue? 16 high, digitValue? 16 low with
    | some h, some l => UInt8.ofNat (16 * h + l) :: percentDecoded rest
    | _, _ => String.utf8EncodeChar '%' ++ percentDecoded (high :: low :: rest)
  | c :: rest => String.utf8EncodeChar c ++ percentDecoded rest
  | [] => []

def utf8Text? (bytes : List UInt8) : Option Text :=
  (String.fromUTF8? ⟨bytes.toArray⟩).map String.toList

def bracketFault? (host : Text) : Option AddressFault :=
  let inner := (host.drop 1).dropLast
  if 1 < host.length ∧ host.endsWith ']' ∧ (Ipv6.ofText? inner).isSome then none else some .badIpv6

def domainFault? (host : Text) : Option AddressFault :=
  match (utf8Text? (percentDecoded host)).bind DomainName.ofText? with
  | none => some .badName
  | some [] => some .emptyHost
  | some name => if Ipv4.endsInNumber name ∧ Ipv4.ofText? name = none then some .badIpv4 else none

def barsFreeHost (c : Char) : Bool :=
  c == '\x00' || c == '\t' || c == '\n' || c == '\r' || c == ' ' || "#/:<>?@[\\]^|".toList.contains c

def hostFault? (knowsDomains : Bool) (host : Text) : Option AddressFault :=
  if host.head? = some '[' then bracketFault? host
  else if knowsDomains then domainFault? host
  else if host.any barsFreeHost then some .badCharacter
  else none

end MediaNaming
