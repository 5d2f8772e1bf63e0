import NestedQuery.Json.Basic

/-!
# Number literals

A literal is scanned by the grammar of RFC 8259 and then given a value.  A
literal without fraction and exponent that fits a 64-bit word is that integer;
negative zero is a double.  Every other literal is a double: its digits are
taken one by one into a 64-bit significand, the digits that do not fit are
dropped, and the significand is scaled by one multiplication or division by a
power of ten.  That rounds at most three times and so may miss the nearest
double by one place.  A literal beyond the largest double has no value.
-/

namespace NestedQuery.Json

/-- The parts of a number literal; digits are numbers below ten. -/
structure Literal where
  negative : Bool
  whole : List Nat
  fraction : Option (List Nat)
  /-- Whether the exponent is negative, and its digits. -/
  exponent : Option (Bool × List Nat)

namespace Literal

def digitsOf (text : List Char) : List Nat :=
  text.map fun digit => digit.toNat - 48

/-- The digits a text starts with, and what follows them. -/
def scanDigits (text : List Char) : List Nat × List Char :=
  (digitsOf (text.takeWhile Char.isDigit), text.dropWhile Char.isDigit)

/-- A leading zero stands alone. -/
def scanWhole? (text : List Char) : Option (List Nat × List Char) :=
  match scanDigits text with
  | ([], _) => none
  | (0 :: _ :: _, _) => none
  | found => some found

def scanFraction? : List Char → Option (Option (List Nat) × List Char)
  | '.' :: text =>
      match scanDigits text with
      | ([], _) => none
      | (digits, rest) => some (some digits, rest)
  | text => some (none, text)

def scanExponent? : List Char → Option (Option (Bool × List Nat) × List Char)
  | mark :: text =>
      if mark = 'e' ∨ mark = 'E' then
        let (negative, digits) :=
          match text with
          | '-' :: digits => (true, digits)
          | '+' :: digits => (false, digits)
          | digits => (false, digits)
        match scanDigits digits with
        | ([], _) => none
        | (digits, rest) => some (some (negative, digits), rest)
      else some (none, mark :: text)
  | [] => some (none, [])

/-- Scans the literal a text starts with. -/
def scan? (text : List Char) : Option (Literal × List Char) := do
  let (negative, text) :=
    match text with
    | '-' :: rest => (true, rest)
    | _ => (false, text)
  let (whole, text) ← scanWhole? text
  let (fraction, text) ← scanFraction? text
  let (exponent, text) ← scanExponent? text
  return (⟨negative, whole, fraction, exponent⟩, text)

/-- The value of a sequence of digits. -/
def natural (digits : List Nat) : Nat :=
  digits.foldl (fun value digit => value * 10 + digit) 0

/-- Takes digits into the significand up to the first that does not fit 64
bits, and returns the digits left. -/
def absorb (significand : Nat) : List Nat → Nat × List Nat
  | [] => (significand, [])
  | digit :: digits =>
      if significand * 10 + digit < UInt64.size then
        absorb (significand * 10 + digit) digits
      else (significand, digit :: digits)

def powerOfTen (exponent : Nat) : Float := Float.ofScientific 1 false exponent

/-- `significand * 10 ^ exponent` as a double, or nothing if it is too large.
Powers of ten end at `10 ^ 308`; a smaller scale divides twice. -/
def scale? (significand : Nat) (exponent : Int) : Option Float :=
  let value := significand.toUInt64.toFloat
  if 0 ≤ exponent then
    if exponent ≤ 308 then
      let scaled := value * powerOfTen exponent.toNat
      if scaled.isInf then none else some scaled
    else if significand = 0 then some value
    else none
  else if -308 ≤ exponent then some (value / powerOfTen (-exponent).toNat)
  else if -616 ≤ exponent then
    some (value / powerOfTen 308 / powerOfTen (-exponent - 308).toNat)
  else some 0

/-- The value of a literal, or nothing if it is beyond the largest double. -/
def number? (literal : Literal) : Option Number :=
  let (significand, dropped) := absorb 0 literal.whole
  let signed (value : Float) : Float := if literal.negative then -value else value
  match literal.fraction, literal.exponent, dropped with
  | none, none, [] =>
      let value : Int := if literal.negative then -significand else significand
      if word : IsWord value ∧ ¬ (literal.negative ∧ significand = 0) then
        some (.integer value word.1)
      else some (.real (signed significand.toUInt64.toFloat))
  | fraction, exponent, dropped =>
      let digits := fraction.getD []
      let (significand, left) := absorb significand digits
      let shift : Int := dropped.length - (digits.length - left.length : Nat)
      let power : Int :=
        match exponent with
        | none => 0
        | some (true, digits) => -natural digits
        | some (false, digits) => natural digits
      (scale? significand (shift + power)).map (.real ∘ signed)

end Literal

end NestedQuery.Json
