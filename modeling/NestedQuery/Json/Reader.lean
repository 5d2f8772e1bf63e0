import NestedQuery.Json.Literal
import NestedQuery.Json.Source
import NestedQuery.Text.Bytes

/-!
# Reading JSON text

The grammar is RFC 8259 without extensions.  Containers may be nested 127
deep; a deeper one is well formed but unfit.  `readPrefix` reads the value a
text starts with and ignores the rest; `read` wants nothing but blanks after
it.

Bytes need not be a text.  Outside a string the ones that belong to no character
break the text; a string that has some is well formed but unfit.
-/

namespace NestedQuery.Json

/-- The deepest nesting of containers that still makes a value. -/
def depthLimit : Nat := 127

def isBlank (char : Char) : Bool :=
  char = ' ' || char = '\n' || char = '\t' || char = '\r'

def skipBlanks (text : List Char) : List Char := text.dropWhile isBlank

/-- The code unit of four hexadecimal digits. -/
def hexUnit? (a b c d : Char) : Option Nat := do
  let a ← Text.hexValue? a
  let b ← Text.hexValue? b
  let c ← Text.hexValue? c
  let d ← Text.hexValue? d
  return ((a * 16 + b) * 16 + c) * 16 + d

/-- A piece of a string: a character, or a code unit written as an escape. -/
inductive Piece
  | char (value : Char)
  | unit (value : Nat)

/-- The characters named by a letter after the backslash. -/
def escaped? (letter : Char) : Option Char :=
  if letter = '"' ∨ letter = '\\' ∨ letter = '/' then some letter
  else if letter = 'b' then some '\x08'
  else if letter = 'f' then some '\x0c'
  else if letter = 'n' then some '\n'
  else if letter = 'r' then some '\r'
  else if letter = 't' then some '\t'
  else none

/-- Scans a string up to its closing quote. -/
def scanString? : List Char → Option (List Piece × List Char)
  | [] => none
  | '"' :: rest => some ([], rest)
  | '\\' :: 'u' :: a :: b :: c :: d :: rest => do
      let unit ← hexUnit? a b c d
      let (pieces, rest) ← scanString? rest
      return (.unit unit :: pieces, rest)
  | '\\' :: letter :: rest => do
      let char ← escaped? letter
      let (pieces, rest) ← scanString? rest
      return (.char char :: pieces, rest)
  | char :: rest =>
      if char.toNat < 32 ∨ char = '\\' then none
      else do
        let (pieces, rest) ← scanString? rest
        return (.char char :: pieces, rest)

def isHighSurrogate (unit : Nat) : Bool := 0xD800 ≤ unit && unit < 0xDC00

def isLowSurrogate (unit : Nat) : Bool := 0xDC00 ≤ unit && unit < 0xE000

/-- Joins surrogate pairs; half a pair has no character. -/
def joinPieces? : List Piece → Option (List Char)
  | [] => some []
  | .char value :: pieces => do
      let tail ← joinPieces? pieces
      return value :: tail
  | .unit high :: .unit low :: pieces =>
      if isHighSurrogate high ∧ isLowSurrogate low then do
        let code := 0x10000 + (high - 0xD800) * 0x400 + (low - 0xDC00)
        let tail ← joinPieces? pieces
        return Char.ofNat code :: tail
      else if isHighSurrogate high ∨ isLowSurrogate high then none
      else do
        let tail ← joinPieces? (.unit low :: pieces)
        return Char.ofNat high :: tail
  | .unit unit :: pieces =>
      if isHighSurrogate unit ∨ isLowSurrogate unit then none
      else do
        let tail ← joinPieces? pieces
        return Char.ofNat unit :: tail

def pieces? (pieces : List Piece) : Option String :=
  (joinPieces? pieces).map String.ofList

/-- A container at a depth where one may stand, or a mark that it is nested too
deeply. -/
def Source.settleAt (depth : Nat) (container : Source) : Source :=
  if depth < depthLimit then container
  else if container.intact then .unfit
  else .broken

/-- What was read, and the rest of the text unless the text broke. -/
abbrev Reading (A : Type) := A × Option (List Char)

mutual

/-- Reads one value inside `depth` containers. -/
def readValue : Nat → Nat → List Char → Reading Source
  | 0, _, _ => (.broken, none)
  | fuel + 1, depth, text =>
      match skipBlanks text with
      | 'n' :: 'u' :: 'l' :: 'l' :: rest => (.null, some rest)
      | 't' :: 'r' :: 'u' :: 'e' :: rest => (.bool true, some rest)
      | 'f' :: 'a' :: 'l' :: 's' :: 'e' :: rest => (.bool false, some rest)
      | '"' :: rest =>
          match scanString? rest with
          | none => (.broken, none)
          | some (pieces, rest) =>
              ((pieces? pieces).elim .unfit .string, some rest)
      | '[' :: rest =>
          match skipBlanks rest with
          | ']' :: rest => (Source.settleAt depth (.array []), some rest)
          | _ =>
              let (items, rest) := readItems fuel (depth + 1) rest
              (Source.settleAt depth (.array items), rest)
      | '\x7b' :: rest =>
          match skipBlanks rest with
          | '\x7d' :: rest => (Source.settleAt depth (.object []), some rest)
          | _ =>
              let (members, rest) := readMembers fuel (depth + 1) rest
              (Source.settleAt depth (.object members), rest)
      | start =>
          match Literal.scan? start with
          | none => (.broken, none)
          | some (literal, rest) =>
              (literal.number?.elim .unfit .number, some rest)

/-- Reads the items of an array, at least one, and the closing bracket. -/
def readItems : Nat → Nat → List Char → Reading (List Source)
  | 0, _, _ => ([.broken], none)
  | fuel + 1, depth, text =>
      match readValue fuel depth text with
      | (item, none) => ([item], none)
      | (item, some rest) =>
          match skipBlanks rest with
          | ']' :: rest => ([item], some rest)
          | ',' :: rest =>
              let (items, rest) := readItems fuel depth rest
              (item :: items, rest)
          | _ => ([item, .broken], none)

/-- Reads the members of an object, at least one, and the closing brace. -/
def readMembers : Nat → Nat → List Char → Reading (List (Option String × Source))
  | 0, _, _ => ([(none, .broken)], none)
  | fuel + 1, depth, text =>
      match skipBlanks text with
      | '"' :: rest =>
          match scanString? rest with
          | none => ([(none, .broken)], none)
          | some (pieces, rest) =>
              let key := pieces? pieces
              match skipBlanks rest with
              | ':' :: rest =>
                  match readValue fuel depth rest with
                  | (value, none) => ([(key, value)], none)
                  | (value, some rest) =>
                      match skipBlanks rest with
                      | '\x7d' :: rest => ([(key, value)], some rest)
                      | ',' :: rest =>
                          let (members, rest) := readMembers fuel depth rest
                          ((key, value) :: members, rest)
                      | _ => ([(key, value), (none, .broken)], none)
              | _ => ([(key, .broken)], none)
      | _ => ([(none, .broken)], none)

end

/-- A value takes at most two calls for each of its characters. -/
def readingFuel (text : List Char) : Nat := 2 * text.length + 2

/-- The value a text starts with. -/
def readPrefix (text : String) : Source :=
  (readValue (readingFuel text.toList) 0 text.toList).1

/-- The one value of a text, blanks around it allowed. -/
def read (text : String) : Source :=
  match readValue (readingFuel text.toList) 0 text.toList with
  | (source, some rest) => if (skipBlanks rest).isEmpty then source else .broken
  | (source, none) => source

mutual

/-- What two readings agree on, which have the same shape: a string that they read
differently is unfit. -/
def Source.agreed : Source → Source → Source
  | .string left, .string right => if left = right then .string left else .unfit
  | .array lefts, .array rights => .array (Source.itemsAgreed lefts rights)
  | .object lefts, .object rights => .object (Source.membersAgreed lefts rights)
  | source, _ => source

def Source.itemsAgreed : List Source → List Source → List Source
  | left :: lefts, right :: rights => left.agreed right :: Source.itemsAgreed lefts rights
  | _, _ => []

def Source.membersAgreed :
    List (Option String × Source) → List (Option String × Source) →
      List (Option String × Source)
  | (leftKey, left) :: lefts, (rightKey, right) :: rights =>
      (if leftKey = rightKey then leftKey else none, left.agreed right) ::
        Source.membersAgreed lefts rights
  | _, _ => []

end

/-- The value that bytes start with.  What is lost on bytes that are no text is read as
two characters in turn, so that a string that depends on it is told by its readings. -/
def readBytes (bytes : ByteArray) : Source :=
  match String.fromUTF8? bytes with
  | some text => readPrefix text
  | none =>
      let reading (lost : Char) : Source :=
        readPrefix (String.ofList (Text.decodeWith lost bytes.toList))
      (reading '\ufffd').agreed (reading '\ufffc')

theorem readBytes_toUTF8 (text : String) : readBytes text.toUTF8 = readPrefix text := by
  rw [readBytes, Text.fromUTF8?_eq_some_iff.mpr rfl]

/-- The value of a text, settled. -/
def parse? (text : String) : Option Json := (read text).json?

end NestedQuery.Json
