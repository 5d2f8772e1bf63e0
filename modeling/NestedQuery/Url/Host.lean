import NestedQuery.Address.Ipv6
import NestedQuery.DomainName.Ascii
import NestedQuery.Text.Bytes

/-!
# Hosts

A host is an address or a name.  Where the scheme looks names up, escapes in a
host are taken for what they stand for, the host is a domain name in its ASCII
form, and one that ends in a number has to be an address.  Other schemes keep a
host as it is, with its unprintable characters escaped.
-/

namespace NestedQuery

inductive Host
  | name (text : String)
  | v4 (address : Ipv4)
  /-- Such an address stands in brackets. -/
  | v6 (address : Ipv6)
  deriving DecidableEq

namespace Host

def text : Host → String
  | .name text => text
  | .v4 address => address.text
  | .v6 address => "[" ++ address.text ++ "]"

/-- The characters that no host may have. -/
def isForbidden (char : Char) : Bool :=
  ['\x00', '\t', '\n', '\r', ' ', '#', '/', ':', '<', '>', '?', '@', '[', '\\', ']',
    '^', '|'].contains char

/-- The characters that no domain may have. -/
def isForbiddenInDomain (char : Char) : Bool :=
  isForbidden char || char = '%' || Text.isUnprintable char

def ofBrackets? (text : List Char) : Option Host :=
  if text.getLast? = some ']' then
    (Ipv6.parse? text.dropLast).map .v6
  else none

/-- The host a domain name stands for. -/
def ofDomain? (domain : List Char) : Option Host :=
  if domain.isEmpty ∨ domain.any isForbiddenInDomain then none
  else if Ipv4.isMeant domain then (Ipv4.ofHost? domain).map .v4
  else some (.name (String.ofList domain))

/-- Reads the host of a scheme that looks names up. -/
def ofLookup? (text : List Char) : Option Host :=
  match text with
  | '[' :: rest => ofBrackets? rest
  | _ => do
      let decoded ← String.fromUTF8? ⟨(Text.percentDecoded text).toArray⟩
      ofDomain? (← DomainName.toAscii? decoded.toList)

/-- Reads the host of any other scheme. -/
def ofText? (text : List Char) : Option Host :=
  match text with
  | '[' :: rest => ofBrackets? rest
  | _ =>
      if text.any isForbidden then none
      else some (.name (String.ofList (Text.percentEncoded [] text)))

end Host

end NestedQuery
