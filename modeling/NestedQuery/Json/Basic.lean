import NestedQuery.Dictionary

/-!
# JSON values

A number keeps the kind of its literal: an integer of at most 64 bits, or a
double.  The members of an object are listed in the order in which they are
written.  A value that was read is *settled*: its objects list each key once,
in ascending order.  Documents that are only printed may use another order,
which is how a structure keeps the order of its declaration.
-/

namespace NestedQuery

/-- The integers a number holds exactly: signed or unsigned 64-bit words. -/
def IsWord (value : Int) : Prop :=
  -9223372036854775808 ≤ value ∧ value < 18446744073709551616

instance (value : Int) : Decidable (IsWord value) := by
  unfold IsWord; infer_instance

inductive Number
  | integer (value : Int) (word : IsWord value)
  | real (value : Float)
  deriving DecidableEq

/-- Numbers of different kinds differ, and doubles compare by value, so the
two zeros agree. -/
def Number.agrees : Number → Number → Bool
  | .integer left _, .integer right _ => left == right
  | .real left, .real right => left == right
  | _, _ => false

/-- The double nearest to a number. -/
def Number.toFloat : Number → Float
  | .integer value _ =>
      if 0 ≤ value then value.toNat.toUInt64.toFloat
      else -(-value).toNat.toUInt64.toFloat
  | .real value => value

inductive Json
  | null
  | bool (value : Bool)
  | number (value : Number)
  | string (value : String)
  | array (items : List Json)
  | object (members : List (String × Json))

namespace Json

instance : Inhabited Json := ⟨.null⟩

/-- What a value is called in messages. -/
def kindName : Json → String
  | .null => "null"
  | .bool _ => "boolean"
  | .number _ => "number"
  | .string _ => "string"
  | .array _ => "array"
  | .object _ => "object"

def ofNat (value : UInt64) : Json :=
  .number (.integer value.toNat ⟨by omega, by have := value.toNat_lt; omega⟩)

def ofOption {A : Type} (encode : A → Json) : Option A → Json
  | none => .null
  | some value => encode value

/-- The object with the given members, settled. -/
def ofMembers (members : List (String × Json)) : Json :=
  .object (Dictionary.ofList members).entries

/-- The member of an object; nothing for any other value. -/
def member? (key : String) : Json → Option Json
  | .object members => members.lookup key
  | _ => none

/-- The first item of an array; nothing for any other value. -/
def first? : Json → Option Json
  | .array items => items.head?
  | _ => none

def string? : Json → Option String
  | .string value => some value
  | _ => none

def float? : Json → Option Float
  | .number value => some value.toFloat
  | _ => none

mutual

/-- Equality of values, where doubles compare by value. -/
def agrees : Json → Json → Bool
  | .null, .null => true
  | .bool left, .bool right => left == right
  | .number left, .number right => left.agrees right
  | .string left, .string right => left == right
  | .array left, .array right => itemsAgree left right
  | .object left, .object right => membersAgree left right
  | _, _ => false

def itemsAgree : List Json → List Json → Bool
  | [], [] => true
  | left :: lefts, right :: rights =>
      left.agrees right && itemsAgree lefts rights
  | _, _ => false

def membersAgree : List (String × Json) → List (String × Json) → Bool
  | [], [] => true
  | (leftKey, left) :: lefts, (rightKey, right) :: rights =>
      leftKey == rightKey && left.agrees right && membersAgree lefts rights
  | _, _ => false

end

mutual

/-- Every object lists its keys once each and in ascending order. -/
def Settled : Json → Prop
  | .array items => ItemsSettled items
  | .object members =>
      (members.map Prod.fst).Pairwise (· < ·) ∧ MembersSettled members
  | _ => True

def ItemsSettled : List Json → Prop
  | [] => True
  | item :: items => item.Settled ∧ ItemsSettled items

def MembersSettled : List (String × Json) → Prop
  | [] => True
  | (_, value) :: members => value.Settled ∧ MembersSettled members

end

mutual

def decEq : (left right : Json) → Decidable (left = right)
  | .null, .null => .isTrue rfl
  | .bool left, .bool right =>
      decidable_of_iff (left = right) (by simp)
  | .number left, .number right =>
      decidable_of_iff (left = right) (by simp)
  | .string left, .string right =>
      decidable_of_iff (left = right) (by simp)
  | .array left, .array right =>
      match itemsDecEq left right with
      | .isTrue h => .isTrue (by rw [h])
      | .isFalse h => .isFalse (by simpa using h)
  | .object left, .object right =>
      match membersDecEq left right with
      | .isTrue h => .isTrue (by rw [h])
      | .isFalse h => .isFalse (by simpa using h)
  | .null, .bool _ | .null, .number _ | .null, .string _ | .null, .array _
  | .null, .object _ | .bool _, .null | .bool _, .number _
  | .bool _, .string _ | .bool _, .array _ | .bool _, .object _
  | .number _, .null | .number _, .bool _ | .number _, .string _
  | .number _, .array _ | .number _, .object _ | .string _, .null
  | .string _, .bool _ | .string _, .number _ | .string _, .array _
  | .string _, .object _ | .array _, .null | .array _, .bool _
  | .array _, .number _ | .array _, .string _ | .array _, .object _
  | .object _, .null | .object _, .bool _ | .object _, .number _
  | .object _, .string _ | .object _, .array _ => .isFalse (by simp)

def itemsDecEq : (left right : List Json) → Decidable (left = right)
  | [], [] => .isTrue rfl
  | [], _ :: _ | _ :: _, [] => .isFalse (by simp)
  | left :: lefts, right :: rights =>
      match left.decEq right, itemsDecEq lefts rights with
      | .isTrue h, .isTrue hs => .isTrue (by rw [h, hs])
      | .isFalse h, _ => .isFalse (by simp [h])
      | _, .isFalse hs => .isFalse (by simp [hs])

def membersDecEq :
    (left right : List (String × Json)) → Decidable (left = right)
  | [], [] => .isTrue rfl
  | [], _ :: _ | _ :: _, [] => .isFalse (by simp)
  | (leftKey, left) :: lefts, (rightKey, right) :: rights =>
      match decEq left right, membersDecEq lefts rights with
      | .isTrue h, .isTrue hs =>
          decidable_of_iff (leftKey = rightKey) (by simp [h, hs])
      | .isFalse h, _ => .isFalse (by simp [h])
      | _, .isFalse hs => .isFalse (by simp [hs])

end

instance : DecidableEq Json := decEq

end Json

end NestedQuery
