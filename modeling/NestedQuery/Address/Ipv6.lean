import NestedQuery.Address.Ipv4

/-!
# Addresses of eight groups

An address is written as eight groups of up to four hexadecimal digits between
colons.  Once, two colons may stand for one zero group or more, and the last two
groups may be written as a dotted address.  It is printed with the first of its
longest runs of zero groups, if that has two groups or more, written as two
colons.
-/

namespace NestedQuery

structure Ipv6 where
  groups : List UInt16
  length_groups : groups.length = 8
  deriving DecidableEq

namespace Ipv6

def ofGroups? (groups : List UInt16) : Option Ipv6 :=
  if h : groups.length = 8 then some ⟨groups, h⟩ else none

def group? (text : List Char) : Option UInt16 :=
  if 4 < text.length then none else (Text.natural? 16 text).map Nat.toUInt16

/-- The two groups of a dotted address. -/
def ofIpv4 (address : Ipv4) : List UInt16 :=
  [(address.word >>> 16).toUInt16, address.word.toUInt16]

/-- The groups between colons; the last may be a dotted address. -/
def groups? : List (List Char) → Option (List UInt16)
  | [] => some []
  | [last] =>
      if last.contains '.' then (Ipv4.ofDotted? last).map ofIpv4
      else (group? last).map ([·])
  | text :: rest => do return (← group? text) :: (← groups? rest)

/-- Splits a text at the first pair of colons. -/
def splitAtGap : List Char → List Char × Option (List Char)
  | ':' :: ':' :: rest => ([], some rest)
  | char :: rest =>
      let (before, after) := splitAtGap rest
      (char :: before, after)
  | [] => ([], none)

/-- The parts between colons; an empty text has none. -/
def parts (text : List Char) : List (List Char) :=
  if text.isEmpty then [] else text.splitOn ':'

/-- Reads an address. -/
def parse? (text : List Char) : Option Ipv6 := do
  match splitAtGap text with
  | (whole, none) => ofGroups? (← groups? (parts whole))
  | (before, some after) =>
      let before ← (parts before).mapM group?
      let after ← groups? (parts after)
      let present := before.length + after.length
      if present < 8 then
        ofGroups? (before ++ List.replicate (8 - present) 0 ++ after)
      else none

/-- The number of zero groups at the beginning. -/
def leadingZeros (groups : List UInt16) : Nat := (groups.takeWhile (· = 0)).length

/-- The start and the length of the longest run of zero groups, the first of
equal ones. -/
def longestRun : Nat → List UInt16 → Nat × Nat
  | _, [] => (0, 0)
  | position, group :: groups =>
      let here := leadingZeros (group :: groups)
      let later := longestRun (position + 1) groups
      if later.2 ≤ here then (position, here) else later

def groupText (group : UInt16) : String :=
  String.ofList (Nat.toDigits 16 group.toNat)

def groupsText (groups : List UInt16) : String :=
  ":".intercalate (groups.map groupText)

def text (address : Ipv6) : String :=
  let (start, length) := longestRun 0 address.groups
  if length < 2 then groupsText address.groups
  else
    groupsText (address.groups.take start) ++ "::" ++
      groupsText (address.groups.drop (start + length))

end Ipv6

end NestedQuery
