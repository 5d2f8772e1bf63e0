/-!
# Classes of characters

The digits of every radix up to sixteen are written in lower case and read in
either.  White space are the characters with the Unicode property White_Space,
which decide whether an input is empty and what is trimmed from a port.

Other classes are given by tables.  A table is a text of entries between blanks
and line ends.  Its characters are given by their codes, in hexadecimal digits,
and a range by its first and its last code with a hyphen between them.
-/

namespace NestedQuery.Text

/-! ## Digits -/

/-- The digit of the last four bits of a value. -/
def hexDigit (value : Nat) : Char := Nat.digitChar (value % 16)

def hexValue? (char : Char) : Option Nat :=
  if '0' ≤ char ∧ char ≤ '9' then some (char.toNat - 48)
  else if 'a' ≤ char ∧ char ≤ 'f' then some (char.toNat - 87)
  else if 'A' ≤ char ∧ char ≤ 'F' then some (char.toNat - 55)
  else none

/-- The number of at least one digit of a radix. -/
def natural? (radix : Nat) (digits : List Char) : Option Nat :=
  if digits.isEmpty then none
  else do
    let values ← digits.mapM fun digit =>
      (hexValue? digit).filter fun value => value < radix
    return values.foldl (fun number value => number * radix + value) 0

/-- Reading a written digit gives its value back. -/
theorem hexValue?_hexDigit {value : Nat} (h : value < 16) :
    hexValue? (hexDigit value) = some value := by
  have all : ∀ digit ∈ List.range 16, hexValue? (hexDigit digit) = some digit := by
    decide
  exact all value (List.mem_range.mpr h)

/-! ## White space -/

def isWhiteSpace (char : Char) : Bool :=
  let code := char.toNat
  (0x9 ≤ code && code ≤ 0xD) || code = 0x20 || code = 0x85 || code = 0xA0 ||
    code = 0x1680 || (0x2000 ≤ code && code ≤ 0x200A) || code = 0x2028 ||
    code = 0x2029 || code = 0x202F || code = 0x205F || code = 0x3000

def isBlank (text : String) : Bool := text.toList.all isWhiteSpace

/-- The text without white space at either end. -/
def trim (text : List Char) : List Char :=
  ((text.dropWhile isWhiteSpace).reverse.dropWhile isWhiteSpace).reverse

/-! ## Tables -/

/-- Characters with consecutive codes. -/
structure CodeRange where
  first : Nat
  last : Nat
  deriving DecidableEq

def CodeRange.contains (range : CodeRange) (code : Nat) : Bool :=
  range.first ≤ code && code ≤ range.last

namespace CodeTable

def code (digits : List Char) : Nat := (natural? 16 digits).getD 0

/-- A range, or the range of one code. -/
def range (entry : List Char) : CodeRange :=
  match entry.splitOn '-' with
  | [first, last] => ⟨code first, code last⟩
  | _ => ⟨code entry, code entry⟩

def entries (table : String) : List (List Char) :=
  (table.toList.splitOnP fun char => char = ' ' || char = '\n').filter (!·.isEmpty)

def ranges (table : String) : List CodeRange := (entries table).map range

/-- The part of an entry before a mark, and the part behind it. -/
def halves (mark : Char) (entry : List Char) : List Char × List Char :=
  (entry.takeWhile (· ≠ mark), (entry.dropWhile (· ≠ mark)).drop 1)

end CodeTable

/-- Whether a table of ranges has a character. -/
def inRanges (ranges : List CodeRange) (char : Char) : Bool :=
  ranges.any (·.contains char.toNat)

end NestedQuery.Text
