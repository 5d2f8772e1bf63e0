import NestedQuery.Text.Characters

/-!
# Addresses of four octets

An address is written as up to four numbers between dots, each decimal, octal
behind a zero or hexadecimal behind `0x`.  Every number but the last is one
octet, and the last takes all octets that are left: `127.1` is `127.0.0.1`.  The
dotted form of four plain octets is the one that is printed.
-/

namespace NestedQuery

structure Ipv4 where
  word : UInt32
  deriving DecidableEq

namespace Ipv4

/-- The octets, the first one first. -/
def octets (address : Ipv4) : List Nat :=
  let word := address.word.toNat
  [word / 16777216, word / 65536 % 256, word / 256 % 256, word % 256]

def text (address : Ipv4) : String :=
  ".".intercalate (address.octets.map toString)

/-- A number in the radix its beginning tells. -/
def number? : List Char → Option Nat
  | '0' :: 'x' :: digits | '0' :: 'X' :: digits => Text.natural? 16 digits
  | '0' :: digit :: digits => Text.natural? 8 (digit :: digits)
  | digits => Text.natural? 10 digits

/-- Joins numbers into one below a limit, all but the last of them octets. -/
def joined? : Nat → List Nat → Option Nat
  | _, [] => none
  | limit, [last] => if last < limit then some last else none
  | limit, octet :: rest =>
      if octet < 256 ∧ 256 < limit then
        (joined? (limit / 256) rest).map fun low => octet * (limit / 256) + low
      else none

def ofNumbers? (numbers : List Nat) : Option Ipv4 :=
  (joined? UInt32.size numbers).map fun word => ⟨word.toUInt32⟩

/-- Reads an address in any of its forms. -/
def parse? (text : List Char) : Option Ipv4 := do
  ofNumbers? (← (text.splitOn '.').mapM number?)

/-- A decimal octet without a leading zero. -/
def octet? (text : List Char) : Option Nat :=
  match text with
  | '0' :: _ :: _ => none
  | digits => (Text.natural? 10 digits).filter fun value => value < 256

/-- Reads an address in dotted form. -/
def ofDotted? (text : List Char) : Option Ipv4 := do
  let octets ← (text.splitOn '.').mapM octet?
  if octets.length = 4 then ofNumbers? octets else none

/-- The numbers of a host, a dot allowed at the end. -/
def hostNumbers (host : List Char) : List (List Char) :=
  let numbers := host.splitOn '.'
  if numbers.getLast? = some [] then numbers.dropLast else numbers

/-- A number of a host, where the hexadecimal sign alone stands for zero. -/
def hostNumber? (text : List Char) : Option Nat :=
  if text = ['0', 'x'] ∨ text = ['0', 'X'] then some 0 else number? text

/-- Whether a host has to be an address: its last part is a number, or would be
one but for its digits. -/
def isMeant (host : List Char) : Bool :=
  match (hostNumbers host).getLast? with
  | none => false
  | some last =>
      (!last.isEmpty && last.all Char.isDigit) || (hostNumber? last).isSome

/-- Reads the address a host stands for. -/
def ofHost? (host : List Char) : Option Ipv4 := do
  ofNumbers? (← (hostNumbers host).mapM hostNumber?)

end Ipv4

end NestedQuery
