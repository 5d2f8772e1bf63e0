import NestedQuery.Decimal.Shortest
import NestedQuery.Json.Basic
import NestedQuery.Text.Characters

/-!
# Compact JSON text

Values are written without blanks, members in the order in which the value
lists them.  A string escapes the quote, the backslash and the control
characters below the blank; every other character stands for itself.
-/

namespace NestedQuery.Json

/-- Doubles are positional while the first digit stands between the fifth
decimal place and the sixteenth digit before the point. -/
def layout : Decimal.Layout := ⟨-5, 15⟩

/-- The four hexadecimal digits of a code unit. -/
def hexQuad (unit : Nat) : List Char :=
  [Text.hexDigit (unit / 4096), Text.hexDigit (unit / 256),
    Text.hexDigit (unit / 16), Text.hexDigit unit]

def escapeChar (char : Char) : List Char :=
  if char = '"' then ['\\', '"']
  else if char = '\\' then ['\\', '\\']
  else if char = '\n' then ['\\', 'n']
  else if char = '\r' then ['\\', 'r']
  else if char = '\t' then ['\\', 't']
  else if char = '\x08' then ['\\', 'b']
  else if char = '\x0c' then ['\\', 'f']
  else if char.toNat < 32 then '\\' :: 'u' :: hexQuad char.toNat
  else [char]

def stringChars (value : String) : List Char :=
  '"' :: (value.toList.flatMap escapeChar ++ ['"'])

def numberChars : Number → List Char
  | .integer value _ =>
      if value < 0 then '-' :: Nat.toDigits 10 value.natAbs
      else Nat.toDigits 10 value.natAbs
  | .real value => layout.float value

mutual

def chars : Json → List Char
  | .null => ['n', 'u', 'l', 'l']
  | .bool true => ['t', 'r', 'u', 'e']
  | .bool false => ['f', 'a', 'l', 's', 'e']
  | .number value => numberChars value
  | .string value => stringChars value
  | .array [] => ['[', ']']
  | .array (item :: items) => '[' :: (item.chars ++ moreItems items)
  | .object [] => ['\x7b', '\x7d']
  | .object ((key, value) :: members) =>
      '\x7b' :: (stringChars key ++ ':' :: (value.chars ++ moreMembers members))

def moreItems : List Json → List Char
  | [] => [']']
  | item :: items => ',' :: (item.chars ++ moreItems items)

def moreMembers : List (String × Json) → List Char
  | [] => ['\x7d']
  | (key, value) :: members =>
      ',' :: (stringChars key ++ ':' :: (value.chars ++ moreMembers members))

end

/-- The compact text of a value. -/
def render (value : Json) : String := String.ofList value.chars

end NestedQuery.Json
