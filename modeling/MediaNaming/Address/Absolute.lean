import MediaNaming.Address.Host

/-
Addresses that stand on their own: a scheme, and for most schemes an authority of credentials,
host and socket. Only these parts can make an address unusable.
-/
namespace MediaNaming

inductive SchemeKind where
  | web
  /-- A host may follow two slashes, and no socket. -/
  | file
  /-- A free host may follow two slashes. -/
  | free
deriving DecidableEq, Repr

def SchemeKind.ofName (name : Text) : SchemeKind :=
  let low := name.map Char.toLower
  if low = "file".toList then file
  else if ["http".toList, "https".toList, "ws".toList, "wss".toList, "ftp".toList].contains low
  then web
  else free

def isSchemeChar (c : Char) : Bool := c.isAlphanum || c == '+' || c == '-' || c == '.'

def splitScheme? (address : Text) : Option (Text × Text) :=
  match address.head?.any Char.isAlpha, address.dropWhile isSchemeChar with
  | true, ':' :: rest => some (address.takeWhile isSchemeChar, rest)
  | _, _ => none

def isSlash (c : Char) : Bool := c == '/' || c == '\\'

def endsAuthority (web : Bool) (c : Char) : Bool :=
  c == '/' || c == '?' || c == '#' || (web && c == '\\')

/-- The host and what follows it. A colon within brackets belongs to the host. -/
def splitHost (bracketed : Bool) : Text → Text × Text
  | [] => ([], [])
  | c :: rest =>
    if c = ':' ∧ ¬bracketed then ([], c :: rest)
    else
      let (host, socket) := splitHost (c == '[' || (bracketed && c != ']')) rest
      (c :: host, socket)

/-- The number of a socket, after its colon; a backslash ends it. -/
def socketFault? (socket : Text) : Option AddressFault :=
  let digits : Text := socket.takeWhile Char.isDigit
  let rest := socket.dropWhile Char.isDigit
  if (rest = [] ∨ rest.head? = some '\\') ∧ digits.decimalValue ≤ 65535 then none
  else some .badSocket

def authorityFault? (web : Bool) (authority : Text) : Option AddressFault :=
  let (credentials, place) := (authority.splitLast? '@').getD ([], authority)
  let (host, socket) := splitHost false place
  let named := credentials ≠ [] ∧ credentials ≠ [':']
  if host = [] ∧ (web ∨ socket ≠ [] ∨ named ∨ authority = ['@']) then some .emptyHost
  else
    match hostFault? web host with
    | some fault => some fault
    | none => socketFault? (socket.drop 1)

def isDrive : Text → Bool
  | [c, mark] => c.isAlpha && (mark == ':' || mark == '|')
  | _ => false

def addressFault? (address : Text) : Option AddressFault :=
  let written := (address.dropWhile (· ≤ ' ')).filter fun c => c != '\t' && c != '\n' && c != '\r'
  match splitScheme? written with
  | none => some .noScheme
  | some (scheme, rest) =>
    match SchemeKind.ofName scheme, rest with
    | .web, rest =>
      authorityFault? true ((rest.dropWhile isSlash).takeWhile fun c => !endsAuthority true c)
    | .file, a :: b :: rest =>
      let host := rest.takeWhile fun c => !endsAuthority true c
      if isSlash a ∧ isSlash b ∧ host ≠ [] ∧ ¬isDrive host then hostFault? true host else none
    | .free, '/' :: '/' :: rest =>
      authorityFault? false (rest.takeWhile fun c => !endsAuthority false c)
    | _, _ => none

end MediaNaming
