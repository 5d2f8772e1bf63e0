import NestedQuery.Json.Basic

/-!
# JSON as written

Reading has two stages.  The first turns a text into a *source*: the tree of
what was written, members in order and repeated keys included.  The second
takes from the source what a structure needs.  A part nobody needs has to be
well formed and nothing more, so the source marks two things instead of
failing: a place where the text stops being JSON (`broken`), and a well-formed
part that is no value (`unfit`: a number beyond the doubles, an escape of half
a surrogate pair, a string of bytes that are no text, a container nested too
deeply).

Faults are reported in reading order: the first place that is not JSON or not
of the wanted shape decides between the two kinds of fault.
-/

namespace NestedQuery

namespace Json

inductive Source
  | null
  | bool (value : Bool)
  | number (value : Number)
  | string (value : String)
  | array (items : List Source)
  /-- A key is absent where it is unfit or where no key was found. -/
  | object (members : List (Option String × Source))
  | unfit
  | broken

/-- The two ways in which a text fails to hold a wanted structure. -/
inductive Fault
  /-- The text is not JSON up to the place that decided. -/
  | malformed
  /-- The text is JSON up to that place, but of another shape. -/
  | mismatched
  deriving DecidableEq

namespace Source

instance : Inhabited Source := ⟨.null⟩

mutual

/-- A value as the source it is written as. -/
def ofJson : Json → Source
  | .null => .null
  | .bool value => .bool value
  | .number value => .number value
  | .string value => .string value
  | .array items => .array (ofItems items)
  | .object members => .object (ofMembers members)

def ofItems : List Json → List Source
  | [] => []
  | item :: items => ofJson item :: ofItems items

def ofMembers : List (String × Json) → List (Option String × Source)
  | [] => []
  | (key, value) :: members => (some key, ofJson value) :: ofMembers members

end

mutual

/-- Whether the text was JSON throughout this part. -/
def intact : Source → Bool
  | .broken => false
  | .array items => itemsIntact items
  | .object members => membersIntact members
  | _ => true

def itemsIntact : List Source → Bool
  | [] => true
  | item :: items => item.intact && itemsIntact items

def membersIntact : List (Option String × Source) → Bool
  | [] => true
  | (_, value) :: members => value.intact && membersIntact members

end

mutual

/-- The value a source stands for, settled: of a repeated key the last value
counts. -/
def json? : Source → Option Json
  | .null => some .null
  | .bool value => some (.bool value)
  | .number value => some (.number value)
  | .string value => some (.string value)
  | .array items => (items? items).map .array
  | .object members => (members? members).map .ofMembers
  | .unfit => none
  | .broken => none

def items? : List Source → Option (List Json)
  | [] => some []
  | item :: items => do
      let head ← item.json?
      let tail ← items? items
      return head :: tail

def members? :
    List (Option String × Source) → Option (List (String × Json))
  | [] => some []
  | (none, _) :: _ => none
  | (some key, value) :: members => do
      let head ← value.json?
      let tail ← members? members
      return (key, head) :: tail

end

end Source

end Json

end NestedQuery
