import NestedQuery.DomainName.Direction

/-!
# Domain names in ASCII

A domain name may have characters of every script.  It is looked up by its ASCII
form: the mapped form, with every label that is not ASCII encoded behind the
sign `xn--`.  A label that comes with the sign already has to be the encoded form
of a label in mapped form.

A label with characters beyond ASCII is written as its ASCII characters, a
hyphen, and the others as numbers.  A number says how far to go from the
insertion before to the next one, counting all places for one character before
the places for the character with the next code.  Its digits are the letters and
the decimal digits, the least significant one first; how many values a last
digit may have follows the size of the numbers so far.
-/

namespace NestedQuery.DomainName

/-! ## Labels -/

/-- The letters stand for the first 26 digits. -/
def digitOf? (char : Char) : Option Nat :=
  if 'a' ≤ char ∧ char ≤ 'z' then some (char.toNat - 97)
  else if 'A' ≤ char ∧ char ≤ 'Z' then some (char.toNat - 65)
  else if '0' ≤ char ∧ char ≤ '9' then some (char.toNat - 22)
  else none

def ofDigit (digit : Nat) : Char :=
  Char.ofNat (if digit < 26 then 97 + digit else 22 + digit)

/-- The digits below the threshold of a place end a number there. -/
def threshold (place bias : Nat) : Nat :=
  if place ≤ bias then 1 else min 26 (place - bias)

theorem one_le_threshold (place bias : Nat) : 1 ≤ threshold place bias := by
  unfold threshold
  split <;> omega

/-- Reduces a number to the size that one last digit covers. -/
def reduce (number places : Nat) : Nat × Nat :=
  if 455 < number then reduce (number / 35) (places + 36) else (number, places)
termination_by number
decreasing_by exact Nat.div_lt_self (by omega) (by omega)

/-- The bias after a number, with so many characters in place. -/
def adapted (number count : Nat) (isFirst : Bool) : Nat :=
  let damped := if isFirst then number / 700 else number / 2
  let (number, places) := reduce (damped + damped / count) 0
  places + 36 * number / (number + 38)

/-- The digits of a number. -/
def digits (bias place number : Nat) : List Char :=
  let least := threshold place bias
  if number < least then [ofDigit number]
  else
    ofDigit (least + (number - least) % (36 - least)) ::
      digits bias (place + 36) ((number - least) / (36 - least))
termination_by number
decreasing_by
  have := one_le_threshold place bias
  calc (number - threshold place bias) / (36 - threshold place bias)
      ≤ number - threshold place bias := Nat.div_le_self _ _
    _ < number := by omega

/-- A label that is being written. -/
structure Writing where
  written : List Char := []
  /-- The way since the last insertion. -/
  way : Nat := 0
  bias : Nat := 72
  count : Nat

/-- Passes a character of the label while those with one code are written. -/
def Writing.pass (basic code : Nat) (writing : Writing) (char : Char) : Writing :=
  if char.toNat < code then { writing with way := writing.way + 1 }
  else if char.toNat = code then
    { written := writing.written ++ digits writing.bias 36 writing.way
      way := 0
      bias := adapted writing.way (writing.count + 1) (writing.count = basic)
      count := writing.count + 1 }
  else writing

/-- Writes the characters of ascending codes; `next` is the least code that has
not been passed. -/
def Writing.writeAll (label : List Char) (basic : Nat) :
    Nat → List Nat → Writing → Writing
  | _, [], writing => writing
  | next, code :: codes, writing =>
      let start :=
        { writing with way := writing.way + (code - next) * (writing.count + 1) }
      let done := label.foldl (Writing.pass basic code) start
      writeAll label basic (code + 1) codes { done with way := done.way + 1 }

def isAscii (char : Char) : Bool := char.toNat < 128

/-- A label in ASCII. -/
def encodeLabel (label : List Char) : List Char :=
  let basic := label.filter isAscii
  let codes := ((label.filter (!isAscii ·)).map Char.toNat).mergeSort.eraseDups
  let written := Writing.writeAll label basic.length 128 codes { count := basic.length }
  basic ++ (if basic.isEmpty then [] else ['-']) ++ written.written

/-- A label that is being read. -/
structure Reading where
  label : List Char
  code : Nat := 128
  position : Nat := 0
  bias : Nat := 72
  /-- The number so far, the weight of its next digit and the place of it. -/
  number : Nat := 0
  weight : Nat := 1
  place : Nat := 36

/-- Inserts a character behind a whole number. -/
def Reading.insert? (reading : Reading) (number : Nat) : Option Reading :=
  let count := reading.label.length + 1
  let total := reading.position + number
  let code := reading.code + total / count
  if code.isValidChar then
    some
      { label := reading.label.insertIdx (total % count) (Char.ofNat code)
        code
        position := total % count + 1
        bias := adapted number count (reading.position = 0) }
  else none

/-- Reads digits; the last one has to end a number. -/
def Reading.readAll : Reading → List Char → Option (List Char)
  | reading, [] => if reading.place = 36 then some reading.label else none
  | reading, char :: chars =>
      match digitOf? char with
      | none => none
      | some digit =>
          let number := reading.number + digit * reading.weight
          let least := threshold reading.place reading.bias
          if digit < least then
            match reading.insert? number with
            | some reading => readAll reading chars
            | none => none
          else
            readAll
              { reading with
                number
                weight := reading.weight * (36 - least)
                place := reading.place + 36 }
              chars

/-- The label that an ASCII form stands for.  The last hyphen ends the ASCII
characters, if there are any. -/
def decodeLabel? (text : List Char) : Option (List Char) :=
  let tail := (text.reverse.takeWhile (· ≠ '-')).reverse
  let basic := (text.take (text.length - tail.length)).dropLast
  if !text.all isAscii then none
  else if basic.isEmpty then Reading.readAll { label := [] } text
  else Reading.readAll { label := basic } tail

/-! ## Names -/

/-- What the encoded form of a label starts with. -/
def sign : List Char := ['x', 'n', '-', '-']

/-- The longest label that is encoded, and the longest one that is decoded. -/
def encodedLimit : Nat := 1000
def decodedLimit : Nat := 2000

/-- The label that a part of a mapped name stands for. -/
def label? (text : List Char) : Option (List Char) :=
  if sign.isPrefixOf text then
    let encoded := text.drop sign.length
    if decodedLimit < encoded.length then none
    else
      (decodeLabel? encoded).filter fun label =>
        !label.all isAscii && mapped label = label && !label.contains '.' &&
          isWellFormed label
  else if isWellFormed text then some text
  else none

def asciiLabel? (label : List Char) : Option (List Char) :=
  if label.all isAscii then some label
  else if encodedLimit < label.length then none
  else some (sign ++ encodeLabel label)

/-- The ASCII form of a domain name. -/
def toAscii? (text : List Char) : Option (List Char) := do
  let labels ← ((mapped text).splitOn '.').mapM label?
  if agreeOnDirection labels then
    return ['.'].intercalate (← labels.mapM asciiLabel?)
  else none

end NestedQuery.DomainName
