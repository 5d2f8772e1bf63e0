import NestedQuery.DomainName.MappingTable
import NestedQuery.Text.Characters
import NestedQuery.Text.Composition

/-!
# Mapping of domain names

Two names are one if their mapped forms agree.  Capital letters are mapped to
small ones, variants of a character to the character itself, and some characters
to nothing; the composed form of the result is the mapped form.
-/

namespace NestedQuery.DomainName

open Text (CodeRange)

/-- A range and the first character of the range its characters map to. -/
def readShift (entry : List Char) : CodeRange × Nat :=
  let (range, target) := Text.CodeTable.halves '>' entry
  (Text.CodeTable.range range, Text.CodeTable.code target)

def shifts : List (CodeRange × Nat) :=
  (Text.CodeTable.entries shiftTable).map readShift

def alternations : List CodeRange := Text.CodeTable.ranges alternatingTable

/-- The characters of a replacement. -/
def readReplacement (entry : List Char) : List Char :=
  if entry = ['-'] then []
  else (entry.splitOn '+').map fun digits => Char.ofNat (Text.CodeTable.code digits)

/-- The replacements with the codes they belong to; `next` is the code of an
entry that does not name one. -/
def readReplacements : Nat → List (List Char) → List (Nat × List Char)
  | _, [] => []
  | next, entry :: entries =>
      match Text.CodeTable.halves ':' entry with
      | (text, []) => (next, readReplacement text) :: readReplacements (next + 1) entries
      | (digits, text) =>
          let code := Text.CodeTable.code digits
          (code, readReplacement text) :: readReplacements (code + 1) entries

def replacements : List (Nat × List Char) :=
  readReplacements 0 (Text.CodeTable.entries replacementTable)

def repertoire : List CodeRange := Text.CodeTable.ranges repertoireTable

/-- What a character is mapped to, if not to itself. -/
def replacement? (char : Char) : Option (List Char) :=
  let code := char.toNat
  match shifts.find? (·.1.contains code) with
  | some (range, target) => some [Char.ofNat (target + (code - range.first))]
  | none =>
      match alternations.find? (·.contains code) with
      | some range =>
          if (code - range.first) % 2 = 0 then some [Char.ofNat (code + 1)] else none
      | none => replacements.lookup code

/-- Whether a mapped name may have a character. -/
def isAdmitted (char : Char) : Bool :=
  Text.inRanges repertoire char && (replacement? char).isNone

/-- The mapped form of a text. -/
def mapped (text : List Char) : List Char :=
  Text.composed (text.flatMap fun char => (replacement? char).getD [char])

end NestedQuery.DomainName
