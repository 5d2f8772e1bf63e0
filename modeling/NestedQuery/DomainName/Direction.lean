import NestedQuery.DomainName.Label

/-!
# Labels of either direction

Once a domain name has a character that is written from right to left, each of
its labels has to be of one direction: it starts with a letter of that direction,
has none of the other, and ends with a letter or a digit, marks aside.
-/

namespace NestedQuery.DomainName

inductive Direction
  | leftToRight
  | rightToLeft
  | arabicDigit
  | europeanDigit
  | neutral
  | mark
  deriving DecidableEq

def rightToLeftLetters : List Text.CodeRange :=
  Text.CodeTable.ranges rightToLeftTable ++ Text.CodeTable.ranges arabicLetterTable
def arabicDigits : List Text.CodeRange := Text.CodeTable.ranges arabicDigitTable
def europeanDigits : List Text.CodeRange := Text.CodeTable.ranges europeanDigitTable
def neutrals : List Text.CodeRange := Text.CodeTable.ranges neutralTable

def directionOf (char : Char) : Direction :=
  if isNonspacing char then .mark
  else if Text.inRanges europeanDigits char then .europeanDigit
  else if Text.inRanges arabicDigits char then .arabicDigit
  else if Text.inRanges rightToLeftLetters char then .rightToLeft
  else if Text.inRanges neutrals char then .neutral
  else .leftToRight

/-- Whether a name with the character has labels of either direction. -/
def Direction.isFromRight (direction : Direction) : Bool :=
  direction = .rightToLeft || direction = .arabicDigit

/-- The direction of the last character that is no mark. -/
def lastDirection? (directions : List Direction) : Option Direction :=
  (directions.reverse.dropWhile (· = .mark)).head?

/-- Whether the characters of a label agree on a direction. -/
def isOneDirection (label : List Char) : Bool :=
  let directions := label.map directionOf
  match directions.head? with
  | none => true
  | some .leftToRight =>
      !directions.any Direction.isFromRight &&
        (lastDirection? directions).any fun last =>
          last = .leftToRight || last = .europeanDigit
  | some .rightToLeft =>
      !directions.contains .leftToRight &&
        !(directions.contains .europeanDigit && directions.contains .arabicDigit) &&
        (lastDirection? directions).any fun last =>
          last = .rightToLeft || last = .europeanDigit || last = .arabicDigit
  | some _ => false

/-- Whether the labels of a name may stand together. -/
def agreeOnDirection (labels : List (List Char)) : Bool :=
  !(labels.any fun label => label.any fun char => (directionOf char).isFromRight) ||
    labels.all isOneDirection

end NestedQuery.DomainName
