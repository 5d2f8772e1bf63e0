import NestedQuery.Address.Ipv6

/-!
# Listening

The outcome of listening on a host and a port, for a process without privileges
on a machine without a name server.  A host is an address in any of its forms,
or `localhost`.  A process may listen on the addresses of its machine, but not
on the ports below 1024; port zero asks for any free port.
-/

namespace NestedQuery.Http

inductive ListenError
  | denied
  | notLocal
  /-- The host holds a character that ends texts of the system. -/
  | nulInHost
  /-- The host cannot be the name of a machine. -/
  | unknownHost
  /-- The host could be a name, but there is no one to ask. -/
  | unansweredHost
  deriving DecidableEq

def ListenError.message : ListenError → String
  | .denied => "Permission denied (os error 13)"
  | .notLocal => "Cannot assign requested address (os error 99)"
  | .nulInHost => "file name contained an unexpected NUL byte"
  | .unknownHost =>
      "failed to lookup address information: Name or service not known"
  | .unansweredHost =>
      "failed to lookup address information: Temporary failure in name resolution"

namespace Listening

inductive Address
  | v4 (address : Ipv4)
  | v6 (address : Ipv6)
  deriving DecidableEq

/-- The address of four octets that one of eight groups stands for. -/
def mapped? (address : Ipv6) : Option Ipv4 :=
  match address.groups with
  | [0, 0, 0, 0, 0, 0xFFFF, high, low] =>
      some ⟨high.toUInt32 * 65536 + low.toUInt32⟩
  | _ => none

def Address.text : Address → String
  | .v4 address => address.text
  | .v6 address =>
      match mapped? address with
      | some mapped => "[::ffff:" ++ mapped.text ++ "]"
      | none => "[" ++ address.text ++ "]"

def loopback : Ipv4 := ⟨0x7F000001⟩

def isLabel (label : List Char) : Bool :=
  !label.isEmpty && label.length ≤ 63 &&
    label.all fun char => char.isAlphanum || char = '-' || char = '_'

/-- Whether a host can be the name of a machine; a dot may end it. -/
def isName (host : List Char) : Bool :=
  let labels := host.splitOn '.'
  let labels := if labels.getLast? = some [] then labels.dropLast else labels
  !labels.isEmpty && labels.all isLabel && !labels.head?.any (·.head? = some '-') &&
    (['.'].intercalate labels).length ≤ 253

/-- The address of a host. -/
def resolve (host : String) : Except ListenError Address :=
  let text := host.toList
  let inBrackets :=
    match text with
    | '[' :: rest => if rest.getLast? = some ']' then Ipv6.parse? rest.dropLast else none
    | text => Ipv6.parse? text
  if text.contains '\x00' then .error .nulInHost
  else if host.toLower = "localhost" then .ok (.v4 loopback)
  else
    match Ipv4.parse? text, inBrackets with
    | some address, _ => .ok (.v4 address)
    | none, some address => .ok (.v6 address)
    | none, none => .error (if isName text then .unansweredHost else .unknownHost)

/-- Whether an address of eight groups belongs to every machine. -/
def isEverywhere (address : Ipv6) : Bool :=
  address.groups.dropLast.all (· = 0) && address.groups.getLast?.any (· ≤ 1)

/-- Whether a port is kept for processes with privileges. -/
def isReserved (port : UInt16) : Bool := 0 < port && port < 1024

/-- Whether an address may be listened on, on a machine with some addresses of
four octets; those of eight groups have their port looked at first. -/
def check (isOwn : Ipv4 → Bool) (port : UInt16) : Address → Except ListenError Unit
  | .v4 address =>
      if !isOwn address then .error .notLocal
      else if isReserved port then .error .denied
      else .ok ()
  | .v6 address =>
      if isReserved port then .error .denied
      else if isEverywhere address || (mapped? address).any isOwn then .ok ()
      else .error .notLocal

/-- The address in use after listening on a host and a port; `free` is the port
chosen where any will do. -/
def listen (isOwn : Ipv4 → Bool) (host : String) (port : UInt16) (free : String) :
    Except ListenError String := do
  let address ← resolve host
  check isOwn port address
  return address.text ++ ":" ++ if port = 0 then free else toString port.toNat

end Listening

end NestedQuery.Http
