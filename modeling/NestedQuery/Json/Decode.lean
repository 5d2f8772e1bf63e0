import NestedQuery.Json.Source

/-!
# Structures from JSON

A structure is read from an object, whose members may come in any order, or
from an array that lists the fields in the order of their declaration.  In an
object a declared field may occur once; members of other names have to be well
formed and are ignored.  Fields are read in the order in which they are
written, so the first fault in the text is the one reported.
-/

namespace NestedQuery.Json

abbrev Decoded (A : Type) := Except Fault A

/-- A field of a structure `A`: its name, whether it may be left out, and how
its source changes the structure read so far. -/
structure FieldReader (A : Type) where
  name : String
  required : Bool
  read : Source → A → Decoded A

namespace FieldReader

/-- A field whose absence leaves the default. -/
def optional {A B : Type} (name : String) (decode : Source → Decoded B)
    (set : A → B → A) : FieldReader A :=
  ⟨name, false, fun source partly => (decode source).map (set partly)⟩

/-- A field that has to be given. -/
def mandatory {A B : Type} (name : String) (decode : Source → Decoded B)
    (set : A → B → A) : FieldReader A :=
  ⟨name, true, fun source partly => (decode source).map (set partly)⟩

end FieldReader

namespace Source

/-- The fault of a source that is none of the wanted kinds. -/
def fault : Source → Fault
  | .unfit | .broken => .malformed
  | _ => .mismatched

def decodeString : Source → Decoded String
  | .string value => .ok value
  | source => .error source.fault

def decodeBool : Source → Decoded Bool
  | .bool value => .ok value
  | source => .error source.fault

/-- Integers from zero up to a bound; a double is none, whole or not. -/
def decodeNatural (bound : Nat) : Source → Decoded Nat
  | .number (.integer value _) =>
      if 0 ≤ value ∧ value < bound then .ok value.toNat
      else .error .mismatched
  | source => .error source.fault

def decodeFloat : Source → Decoded Float
  | .number value => .ok value.toFloat
  | source => .error source.fault

def decodeJson (source : Source) : Decoded Json :=
  match source.json? with
  | some value => .ok value
  | none => .error .malformed

def decodeOption {A : Type} (decode : Source → Decoded A) :
    Source → Decoded (Option A)
  | .null => .ok none
  | source => (decode source).map some

def decodeList {A : Type} (decode : Source → Decoded A) :
    Source → Decoded (List A)
  | .array items => items.mapM decode
  | source => .error source.fault

/-- A name from a list, alone or as the key of an object whose only value is
null. -/
def decodeName {A : Type} (find? : String → Option A) : Source → Decoded A
  | .string name =>
      match find? name with
      | some value => .ok value
      | none => .error .mismatched
  | .object [(some name, content)] =>
      match find? name, content with
      | some value, .null => .ok value
      | none, _ => .error .mismatched
      | some _, content => .error content.fault
  | .object ((some name, _) :: _) =>
      match find? name with
      | some _ => .error .malformed
      | none => .error .mismatched
  | .object _ => .error .malformed
  | source => .error source.fault

/-- Reads members in written order; `seen` lists the declared fields met. -/
def decodeMembers {A : Type} (fields : List (FieldReader A)) :
    List String → A → List (Option String × Source) → Decoded A
  | seen, partly, [] =>
      if fields.all fun field => !field.required || seen.contains field.name then
        .ok partly
      else .error .mismatched
  | _, _, (none, _) :: _ => .error .malformed
  | seen, partly, (some key, source) :: members =>
      match fields.find? (·.name == key) with
      | none =>
          if source.intact then decodeMembers fields seen partly members
          else .error .malformed
      | some field =>
          if seen.contains key then .error .mismatched
          else do
            let partly ← field.read source partly
            decodeMembers fields (key :: seen) partly members

/-- Reads items as fields in declared order; a surplus item ends the text of
the structure too early. -/
def decodeItems {A : Type} : List (FieldReader A) → A → List Source → Decoded A
  | [], partly, [] => .ok partly
  | [], _, _ :: _ => .error .malformed
  | fields, partly, [] =>
      if fields.all (!·.required) then .ok partly else .error .mismatched
  | field :: fields, partly, item :: items => do
      let partly ← field.read item partly
      decodeItems fields partly items

/-- Reads a structure with the given fields, starting from its defaults. -/
def decodeStructure {A : Type} (fields : List (FieldReader A)) (start : A) :
    Source → Decoded A
  | .object members => decodeMembers fields [] start members
  | .array items => decodeItems fields start items
  | source => .error source.fault

end Source

end NestedQuery.Json
