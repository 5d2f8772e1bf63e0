import NestedQuery.DomainName.Mapping
import NestedQuery.DomainName.ScriptTable

/-!
# Labels

A label is a part of a domain name between dots.  It starts with no mark, has
admitted characters alone, and has an invisible joiner only where that changes
how the letters beside it are written.
-/

namespace NestedQuery.DomainName

def nonspacing : List Text.CodeRange := Text.CodeTable.ranges nonspacingTable
def spacingMarks : List Text.CodeRange := Text.CodeTable.ranges spacingMarkTable
def directedTransparent : List Text.CodeRange :=
  Text.CodeTable.ranges directedTransparentTable
def dualJoining : List Text.CodeRange := Text.CodeTable.ranges dualJoiningTable
def leftJoining : List Text.CodeRange := Text.CodeTable.ranges leftJoiningTable
def rightJoining : List Text.CodeRange := Text.CodeTable.ranges rightJoiningTable

def isNonspacing (char : Char) : Bool := Text.inRanges nonspacing char

def isMark (char : Char) : Bool := isNonspacing char || Text.inRanges spacingMarks char

/-- The sign that takes the vowel from a letter has a class of its own. -/
def isVowelKiller (char : Char) : Bool := Text.combiningClass char = 9

def nonJoiner : Char := '\u200c'

def joiner : Char := '\u200d'

/-- Whether letters join over a mark as if it were not there. -/
def isTransparent (char : Char) : Bool :=
  isNonspacing char || Text.inRanges directedTransparent char

/-- Whether a letter joins the one after it. -/
def joinsNext (char : Char) : Bool :=
  Text.inRanges dualJoining char || Text.inRanges leftJoining char

/-- Whether a letter joins the one before it. -/
def joinsPrevious (char : Char) : Bool :=
  Text.inRanges dualJoining char || Text.inRanges rightJoining char

/-- Whether a joiner has a place between what comes before it, the nearest
character first, and what comes after it. -/
def hasPlace (before : List Char) (char : Char) (after : List Char) : Bool :=
  before.head?.any isVowelKiller ||
    (char = nonJoiner &&
      (before.dropWhile isTransparent).head?.any joinsNext &&
      (after.dropWhile isTransparent).head?.any joinsPrevious)

/-- Whether every joiner of a label has a place; `before` holds what has been
passed, the nearest character first. -/
def joinersHavePlace : List Char → List Char → Bool
  | _, [] => true
  | before, char :: after =>
      (if char = joiner ∨ char = nonJoiner then hasPlace before char after else true) &&
        joinersHavePlace (char :: before) after

def isWellFormed (label : List Char) : Bool :=
  !label.head?.any isMark && label.all isAdmitted && joinersHavePlace [] label

end NestedQuery.DomainName
