import NestedQuery.Text.Characters
import NestedQuery.Text.CompositionTable

/-!
# Composed text

A letter with marks can be written in several ways that mean the same.  The
composed form takes every character apart, sorts the marks behind each letter by
their combining classes, and joins the letter again with every mark that nothing
of the same class keeps away from it.
-/

namespace NestedQuery.Text

/-- The ranges of each combining class. -/
def readClasses : Nat → List (List Char) → List (Nat × CodeRange)
  | _, [] => []
  | number, entry :: entries =>
      match CodeTable.halves '=' entry with
      | (range, []) => (number, CodeTable.range range) :: readClasses number entries
      | (digits, range) =>
          let number := (natural? 10 digits).getD 0
          (number, CodeTable.range range) :: readClasses number entries

def combiningClasses : List (Nat × CodeRange) :=
  readClasses 0 (CodeTable.entries combiningClassTable)

/-- The combining class; letters have class zero. -/
def combiningClass (char : Char) : Nat :=
  match combiningClasses.find? (·.2.contains char.toNat) with
  | some (number, _) => number
  | none => 0

/-- Two characters and the one they compose. -/
structure Composite where
  first : Nat
  second : Nat
  whole : Nat

def readComposites : Nat → List (List Char) → List Composite
  | _, [] => []
  | second, entry :: entries =>
      let (head, pair) :=
        match CodeTable.halves '=' entry with
        | (pair, []) => (second, pair)
        | (head, pair) => (CodeTable.code head, pair)
      let (first, whole) := CodeTable.halves '>' pair
      ⟨CodeTable.code first, head, CodeTable.code whole⟩ :: readComposites head entries

def composites : List Composite :=
  readComposites 0 (CodeTable.entries compositionTable)

/-! ## Korean syllables

A syllable is made of a leading consonant, a vowel and perhaps a trailing
consonant, and its code follows from theirs. -/

namespace Syllable

def first : Nat := 0xAC00
def leading : Nat := 0x1100
def vowel : Nat := 0x1161
/-- The code before the first trailing consonant. -/
def trailing : Nat := 0x11A7
def vowelCount : Nat := 21
def trailingCount : Nat := 28
def leadingCount : Nat := 19
def count : Nat := 11172

def isSyllable (code : Nat) : Bool := first ≤ code && code < first + count

def parts (code : Nat) : List Nat :=
  let index := code - first
  [leading + index / (vowelCount * trailingCount),
    vowel + index / trailingCount % vowelCount] ++
  if index % trailingCount = 0 then [] else [trailing + index % trailingCount]

def compose? (before after : Nat) : Option Nat :=
  if leading ≤ before ∧ before < leading + leadingCount ∧ vowel ≤ after ∧
      after < vowel + vowelCount then
    some (first + ((before - leading) * vowelCount + (after - vowel)) * trailingCount)
  else if isSyllable before ∧ (before - first) % trailingCount = 0 ∧ trailing < after ∧
      after < trailing + trailingCount then
    some (before + (after - trailing))
  else none

end Syllable

/-- Takes a character apart, at most so many times. -/
def parts : Nat → Nat → List Nat
  | 0, code => [code]
  | times + 1, code =>
      if Syllable.isSyllable code then Syllable.parts code
      else
        match composites.find? (·.whole = code) with
        | some composite => parts times composite.first ++ [composite.second]
        | none => [code]

/-- No character is composed of more than four. -/
def decompose (char : Char) : List Char := (parts 3 char.toNat).map Char.ofNat

def compose? (first second : Char) : Option Char :=
  match Syllable.compose? first.toNat second.toNat with
  | some code => some (Char.ofNat code)
  | none =>
      (composites.find? fun composite =>
        composite.first = first.toNat && composite.second = second.toNat).map
        fun composite => Char.ofNat composite.whole

/-- Puts a mark before those of a higher class. -/
def insertMark (char : Char) : List Char → List Char
  | [] => [char]
  | mark :: marks =>
      if combiningClass char < combiningClass mark ∧ combiningClass char ≠ 0 then
        char :: mark :: marks
      else mark :: insertMark char marks

/-- Sorts the marks behind each letter; `marks` holds those met so far. -/
def sortMarks : List Char → List Char → List Char
  | marks, [] => marks
  | marks, char :: chars =>
      if combiningClass char = 0 then marks ++ char :: sortMarks [] chars
      else sortMarks (insertMark char marks) chars

/-- Joins a letter with what follows it; `kept` holds the marks that did not join
it, the last one first. -/
def join (letter : Char) : List Char → List Char → List Char
  | kept, [] => letter :: kept.reverse
  | kept, char :: chars =>
      let isNext :=
        match kept with
        | [] => true
        | mark :: _ => combiningClass mark < combiningClass char
      match if isNext then compose? letter char else none with
      | some whole => join whole kept chars
      | none =>
          if combiningClass char = 0 then letter :: kept.reverse ++ join char [] chars
          else join letter (char :: kept) chars

/-- The composed form of a text. -/
def composed (text : List Char) : List Char :=
  match sortMarks [] (text.flatMap decompose) with
  | [] => []
  | char :: chars => join char [] chars

end NestedQuery.Text
