import NestedQuery.Filter.Reading
import NestedQuery.Proofs.Gathering

/-!
# The walk over a value

Which way a value is read shows in its outline: it is no filter, a group or a
condition.  A group is read from the items of an array, one by one, and a condition
from a member named `property` beside one other member.  The checks of a walk decide
only whether it goes on, so what a filter was read from does not depend on them.
The principle `outline_induct` follows the walk from a group to its items.
-/

namespace NestedQuery

namespace Filter

/-! ## Outlines -/

/-- What a value is at first sight, which decides how it is read. -/
inductive Outline
  | foreign (kind : String)
  | ambiguous
  | group (op : BoolOp) (children : Json)
  | leaf (members : List (String × Json))

def outline : Json → Outline
  | .object members =>
      match members.lookup BoolOp.and.key, members.lookup BoolOp.or.key with
      | some _, some _ => .ambiguous
      | some children, none => .group .and children
      | none, some children => .group .or children
      | none, none => .leaf members
  | value => .foreign value.kindName

theorem outline_eq_group {value children : Json} {op : BoolOp}
    (hgroup : outline value = .group op children) :
    ∃ members, value = .object members ∧ members.lookup op.key = some children := by
  rw [outline.eq_def] at hgroup
  split at hgroup
  · rename_i members
    refine ⟨members, rfl, ?_⟩
    split at hgroup
    · cases hgroup
    · rename_i hand _
      cases hgroup
      exact hand
    · rename_i _ hor
      cases hgroup
      exact hor
    · cases hgroup
  · cases hgroup

theorem outline_eq_leaf_iff {value : Json} {members : List (String × Json)} :
    outline value = .leaf members ↔
      value = .object members ∧ ∀ op : BoolOp, members.lookup op.key = none := by
  constructor
  · intro hleaf
    rw [outline.eq_def] at hleaf
    split at hleaf
    · split at hleaf
      · cases hleaf
      · cases hleaf
      · cases hleaf
      · rename_i hand hor
        cases hleaf
        refine ⟨rfl, fun op => ?_⟩
        cases op with
        | and => exact hand
        | or => exact hor
    · cases hleaf
  · rintro ⟨rfl, hkeys⟩
    rw [outline, hkeys, hkeys]

theorem sizeOf_lt_of_outline {value children : Json} {op : BoolOp}
    (hgroup : outline value = .group op children) : sizeOf children < sizeOf value := by
  obtain ⟨members, rfl, hlookup⟩ := outline_eq_group hgroup
  obtain ⟨left, right, rfl, -⟩ := List.lookup_eq_some_iff.mp hlookup
  have hmem : (op.key, children) ∈ left ++ (op.key, children) :: right :=
    List.mem_append_right left List.mem_cons_self
  have hlt := List.sizeOf_lt_of_mem hmem
  rw [Prod.mk.sizeOf_spec] at hlt
  rw [Json.object.sizeOf_spec]
  omega

/-- Induction along the walk, with one hypothesis for all children of a group. -/
theorem outline_induct {motive : Json → Prop}
    (node : ∀ value, (∀ op items, outline value = .group op (.array items) →
      ∀ item ∈ items, motive item) → motive value) (value : Json) : motive value :=
  node value fun _ _ _hgroup item _hmem => outline_induct node item
termination_by sizeOf value
decreasing_by
  have hgroup := sizeOf_lt_of_outline _hgroup
  have hitem := List.sizeOf_lt_of_mem _hmem
  rw [Json.array.sizeOf_spec] at hgroup
  omega

/-! ## Groups -/

theorem readUnder_eq_lookup (check : LeafCheck) (op : BoolOp)
    (members : List (String × Json)) :
    readUnder check op members =
      (members.lookup op.key).map (readChildren check op) := by
  induction members with
  | nil => rfl
  | cons member members ih =>
      obtain ⟨key, value⟩ := member
      rw [readUnder, lookup_cons_eq_ite]
      by_cases hkey : key = op.key
      · rw [if_pos hkey, if_pos hkey.symm, Option.map_some]
      · rw [if_neg hkey, if_neg (Ne.symm hkey), ih]

theorem readNode_eq_outline (check : LeafCheck) (value : Json) :
    readNode check value =
      match outline value with
      | .foreign kind => malformed (.notAnObject kind)
      | .ambiguous => malformed .bothGroups
      | .group op children => (readChildren check op children).map (.group op)
      | .leaf members => readCondition check members := by
  cases value with
  | object members =>
      rw [readNode, readUnder_eq_lookup, readUnder_eq_lookup, outline]
      cases members.lookup BoolOp.and.key <;>
        cases members.lookup BoolOp.or.key <;> rfl
  | null => rfl
  | bool value => rfl
  | number value => rfl
  | string value => rfl
  | array items => rfl

theorem readOptional_of_ne_null {value : Json} (hvalue : value ≠ .null)
    (check : LeafCheck) : readOptional check value = (readNode check value).map some := by
  cases value with
  | null => exact absurd rfl hvalue
  | bool value => rfl
  | number value => rfl
  | string value => rfl
  | array items => rfl
  | object members => rfl

theorem readNode_of_group {value children : Json} {op : BoolOp}
    (hgroup : outline value = .group op children) (check : LeafCheck) :
    readNode check value = (readChildren check op children).map (.group op) := by
  rw [readNode_eq_outline, hgroup]

theorem readNode_of_leaf {value : Json} {members : List (String × Json)}
    (hleaf : outline value = .leaf members) (check : LeafCheck) :
    readNode check value = readCondition check members := by
  rw [readNode_eq_outline, hleaf]

theorem readChildren_array {items : List Json} (hne : items ≠ []) (check : LeafCheck)
    (op : BoolOp) : readChildren check op (.array items) = readAll check items := by
  cases items with
  | nil => cases hne rfl
  | cons item items => rw [readChildren, readAll]

theorem readAll_eq_gather (check : LeafCheck) (items : List Json) :
    readAll check items = gather (items.map (readNode check)) := by
  induction items with
  | nil => rfl
  | cons item items ih =>
      rw [readAll, ih, List.map_cons]
      cases readNode check item with
      | error why => rfl
      | ok filter =>
          rw [gather]
          cases gather (items.map (readNode check)) <;> rfl

/-- Without an array of children a group is refused, whatever the checks. -/
theorem exists_items_or_malformed (op : BoolOp) (value : Json) :
    (∃ items, value = .array items ∧ items ≠ []) ∨
      ∃ why, ∀ check, readChildren check op value = malformed why := by
  cases value with
  | array items =>
      cases items with
      | nil => exact Or.inr ⟨_, fun _ => rfl⟩
      | cons item items => exact Or.inl ⟨_, rfl, List.cons_ne_nil item items⟩
  | null => exact Or.inr ⟨_, fun _ => rfl⟩
  | bool value => exact Or.inr ⟨_, fun _ => rfl⟩
  | number value => exact Or.inr ⟨_, fun _ => rfl⟩
  | string value => exact Or.inr ⟨_, fun _ => rfl⟩
  | object members => exact Or.inr ⟨_, fun _ => rfl⟩

/-- What the children of a group are read from. -/
theorem readChildren_eq_ok_iff {check : LeafCheck} {op : BoolOp} {value : Json}
    {filters : List Filter} :
    readChildren check op value = .ok filters ↔
      ∃ items, value = .array items ∧ items ≠ [] ∧
        items.map (readNode check) = filters.map .ok := by
  constructor
  · intro hread
    rcases exists_items_or_malformed op value with ⟨items, rfl, hne⟩ | ⟨why, hwhy⟩
    · rw [readChildren_array hne, readAll_eq_gather, gather_eq_ok_iff] at hread
      exact ⟨items, rfl, hne, hread⟩
    · rw [hwhy] at hread
      cases hread
  · rintro ⟨items, rfl, hne, hread⟩
    rw [readChildren_array hne, readAll_eq_gather, gather_eq_ok_iff]
    exact hread

/-! ## Conditions -/

/-- The rest of a condition whose property has been read. -/
def readComparison (property : Option String) (members : List (String × Json)) :
    Except Rejection Condition := do
  let (kind, body) ← readKind members
  let (operator, operand) ← readBody kind body
  return ⟨property, kind, operator, operand⟩

theorem readKind_eq_ok_iff {members : List (String × Json)} {entry : String × Json} :
    readKind members = .ok entry ↔
      members.filter (fun member => member.1 != "property") = [entry] := by
  rw [readKind]
  split
  · rename_i held hheld
    rw [hheld]
    simp
  · rename_i hheld
    rw [hheld]
    simp [malformed]
  · rename_i hone hnone
    constructor
    · rintro ⟨⟩
    · exact fun hheld => (hone _ hheld).elim

theorem readBody_eq_ok_iff {kind : String} {body : Json} {entry : String × Json} :
    readBody kind body = .ok entry ↔ body = .object [entry] := by
  rw [readBody.eq_def]
  split
  · simp
  · rename_i members hone
    constructor
    · rintro ⟨⟩
    · exact fun hbody => (hone _ (Json.object.inj hbody)).elim
  · rename_i hobject
    constructor
    · rintro ⟨⟩
    · exact fun hbody => (hobject _ hbody).elim

/-- Apart from the property there is one member, which has one member. -/
theorem readComparison_eq_ok_iff {property : Option String}
    {members : List (String × Json)} {leaf : Condition} :
    readComparison property members = .ok leaf ↔
      leaf.property = property ∧
        members.filter (fun member => member.1 != "property") =
          [(leaf.kind, .object [(leaf.operator, leaf.operand)])] := by
  rw [← readKind_eq_ok_iff]
  constructor
  · intro hread
    obtain ⟨⟨kind, body⟩, hkind, hread⟩ := bind_eq_ok_iff.mp hread
    obtain ⟨⟨operator, operand⟩, hbody, hread⟩ := bind_eq_ok_iff.mp hread
    cases hread
    rw [readBody_eq_ok_iff] at hbody
    subst hbody
    exact ⟨rfl, hkind⟩
  · rintro ⟨rfl, hkind⟩
    rw [readComparison, hkind]
    rfl

theorem readCondition_eq (check : LeafCheck) (members : List (String × Json)) :
    readCondition check members = do
      let property ← readProperty members
      check.property property
      let leaf ← readComparison property members
      check.condition leaf
      return .condition leaf := by
  simp only [readCondition, readComparison, bind_assoc, pure_bind]

/-- What a condition is read from, and which checks it passes. -/
theorem readCondition_eq_ok_iff {check : LeafCheck} {members : List (String × Json)}
    {filter : Filter} :
    readCondition check members = .ok filter ↔
      ∃ leaf, filter = .condition leaf ∧
        readProperty members = .ok leaf.property ∧
        check.property leaf.property = .ok () ∧
        members.filter (fun member => member.1 != "property") =
          [(leaf.kind, .object [(leaf.operator, leaf.operand)])] ∧
        check.condition leaf = .ok () := by
  rw [readCondition_eq]
  constructor
  · intro hread
    obtain ⟨property, hproperty, hread⟩ := bind_eq_ok_iff.mp hread
    obtain ⟨⟨⟩, hadmitted, hread⟩ := bind_eq_ok_iff.mp hread
    obtain ⟨leaf, hleaf, hread⟩ := bind_eq_ok_iff.mp hread
    obtain ⟨⟨⟩, hchecked, hread⟩ := bind_eq_ok_iff.mp hread
    cases hread
    obtain ⟨rfl, hkind⟩ := readComparison_eq_ok_iff.mp hleaf
    exact ⟨leaf, rfl, hproperty, hadmitted, hkind, hchecked⟩
  · rintro ⟨leaf, rfl, hproperty, hadmitted, hkind, hchecked⟩
    have hleaf := readComparison_eq_ok_iff.mpr ⟨rfl, hkind⟩
    simp only [hproperty, hadmitted, hleaf, hchecked, bind, Except.bind, pure,
      Except.pure]

end Filter

end NestedQuery
