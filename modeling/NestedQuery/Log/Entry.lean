import NestedQuery.Json.Printer
import NestedQuery.Log.Severity

/-!
# Log entries

An entry is one event with its severity and its fields.  Its line is a JSON
object whose members are the event, the severity and then the fields in the
order of their keys, fields with equal keys in the order given.  All control
characters are escaped, so that an entry never spans lines.

Errors go to the error stream and everything below to the output stream, unless
a command keeps the output stream for its result.
-/

namespace NestedQuery

namespace Log

structure Entry where
  severity : Severity
  event : String
  fields : List (String × String) := []
  deriving DecidableEq

/-- The control characters of Unicode. -/
def isControl (char : Char) : Bool :=
  char.toNat < 0x20 || (0x7F ≤ char.toNat && char.toNat < 0xA0)

def escapeChar (char : Char) : List Char :=
  if char = '"' then ['\\', '"']
  else if char = '\\' then ['\\', '\\']
  else if char = '\n' then ['\\', 'n']
  else if char = '\r' then ['\\', 'r']
  else if char = '\t' then ['\\', 't']
  else if isControl char then '\\' :: 'u' :: Json.hexQuad char.toNat
  else [char]

/-- A text between quotes. -/
def quoted (text : String) : List Char :=
  '"' :: (text.toList.flatMap escapeChar ++ ['"'])

def memberChars (key value : String) : List Char :=
  quoted key ++ ':' :: quoted value

namespace Entry

/-- The fields in the order of their keys. -/
def ordered (entry : Entry) : List (String × String) :=
  entry.fields.mergeSort fun left right => left.1 ≤ right.1

/-- The line of an entry, without the line break. -/
def lineChars (entry : Entry) : List Char :=
  '\x7b' :: (memberChars "event" entry.event ++
    ',' :: (memberChars "severity" entry.severity.name ++
      (entry.ordered.flatMap fun field => ',' :: memberChars field.1 field.2) ++
      ['\x7d']))

def line (entry : Entry) : String := String.ofList entry.lineChars

/-- Whether an entry goes to the error stream. -/
def isAlarm (entry : Entry) : Bool := Severity.error ≤ entry.severity

end Entry

/-- The lines written to either stream, in order. -/
structure Lines where
  out : List String
  err : List String
  deriving DecidableEq

/-- The lines of the entries that reach a minimum severity. -/
def written (least : Severity) (entries : List Entry) : Lines :=
  let kept := entries.filter fun entry => least ≤ entry.severity
  { out := (kept.filter (!·.isAlarm)).map Entry.line
    err := (kept.filter (·.isAlarm)).map Entry.line }

/-- The lines when the output stream is kept for a result: all on the error
stream. -/
def redirected (least : Severity) (entries : List Entry) : List String :=
  (entries.filter fun entry => least ≤ entry.severity).map Entry.line

end Log

end NestedQuery
