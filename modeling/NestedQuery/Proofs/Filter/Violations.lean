import NestedQuery.Proofs.Filter.Reading

/-!
# The first violation

Everything that is wrong with a value can be listed by a walk over it, depth first and
children in order: the faults of its structure and of its conditions, each where it is
met.  A part that is no filter is not entered, and of a condition only the first fault is
listed, out of seven that are looked for one by one.

Reading and checking at once reports the head of this list.
-/

namespace NestedQuery

namespace Filter

/-! ## The faults of a condition -/

/-- The property that a condition names: a string that is not empty. -/
def namedProperty? (members : List (String × Json)) : Option String :=
  match members.lookup "property" with
  | some (.string property) => if property = "" then none else some property
  | _ => none

/-- The members of a condition beside its property. -/
def besideProperty (members : List (String × Json)) : List (String × Json) :=
  members.filter fun member => member.1 != "property"

/-- The property is neither absent, nor null, nor a string. -/
def propertyFault? : Option Json → Option Rejection
  | none | some .null | some (.string _) => none
  | some other => some (.malformed (.propertyNotAString other.kindName))

/-- The property is missing or empty. -/
def missingFault? : Option String → Option Rejection
  | none => some .missingProperty
  | some _ => none

/-- There is not exactly one member beside the property. -/
def kindFault? : List (String × Json) → Option Rejection
  | [] => some (.malformed .noCondition)
  | [_] => none
  | _ :: _ :: _ => some (.malformed .severalConditions)

/-- The one member beside the property is no object. -/
def bodyFault? : List (String × Json) → Option Rejection
  | [(_, .object _)] => none
  | [(kind, _)] => some (.malformed (.bodyNotAnObject kind))
  | _ => none

/-- The object beside the property has not exactly one operator. -/
def operatorsFault? : List (String × Json) → Option Rejection
  | [(_, .object [_])] => none
  | [(kind, .object _)] => some (.malformed (.notOneOperator kind))
  | _ => none

/-! ## The faults of a group -/

/-- The children of a group are not listed, or there are none. -/
def childrenFault? (op : BoolOp) : Json → Option Rejection
  | .array [] => some (.malformed (.noChildren op))
  | .array (_ :: _) => none
  | _ => some (.malformed (.childrenNotAnArray op))

/-- The items of an array; nothing else has any. -/
def itemsOf : Json → List Json
  | .array items => items
  | _ => []

theorem sizeOf_lt_of_mem_itemsOf {item value : Json} (hmem : item ∈ itemsOf value) :
    sizeOf item < sizeOf value := by
  cases value with
  | array items =>
      have hlt : sizeOf item < sizeOf items := List.sizeOf_lt_of_mem hmem
      rw [Json.array.sizeOf_spec]
      omega
  | null => cases hmem
  | bool value => cases hmem
  | number value => cases hmem
  | string value => cases hmem
  | object members => cases hmem

end Filter

namespace Schema

open NestedQuery.Filter

/-- The property is not of a supported type. -/
def typeFault? (schema : Schema) : Option String → Option Rejection
  | none => none
  | some property =>
      if schema.propertyType? property = none then some (.unsupportedType property)
      else none

/-- The operator does not belong to the type of the property. -/
def operatorFault? (schema : Schema) :
    Option String → List (String × Json) → Option Rejection
  | some property, [(_, .object [(operator, _)])] =>
      match schema.propertyType? property with
      | none => none
      | some type =>
          if operator ∈ type.operators then none
          else some (.unsupportedOperator operator type property)
  | _, _ => none

/-- The first fault of a condition. -/
def leafViolation? (schema : Schema) (members : List (String × Json)) :
    Option Rejection :=
  let property := namedProperty? members
  let beside := besideProperty members
  (propertyFault? (members.lookup "property")).or <|
    (missingFault? property).or <| (schema.typeFault? property).or <|
    (kindFault? beside).or <| (bodyFault? beside).or <|
    (operatorsFault? beside).or <| schema.operatorFault? property beside

/-- What is wrong with a value that should be a filter, in the order of the walk. -/
def violations (schema : Schema) (value : Json) : List Rejection :=
  match _houtline : outline value with
  | .foreign kind => [.malformed (.notAnObject kind)]
  | .ambiguous => [.malformed .bothGroups]
  | .group op children =>
      (childrenFault? op children).toList ++
        (itemsOf children).attach.flatMap fun ⟨item, _hitem⟩ => violations schema item
  | .leaf members => (schema.leafViolation? members).toList
termination_by sizeOf value
decreasing_by
  exact Nat.lt_trans (sizeOf_lt_of_mem_itemsOf _hitem) (sizeOf_lt_of_outline _houtline)

variable {schema : Schema}

theorem violations_eq (value : Json) :
    schema.violations value =
      match outline value with
      | .foreign kind => [.malformed (.notAnObject kind)]
      | .ambiguous => [.malformed .bothGroups]
      | .group op children =>
          (childrenFault? op children).toList ++
            (itemsOf children).flatMap schema.violations
      | .leaf members => (schema.leafViolation? members).toList := by
  rw [violations]
  split <;> rename_i houtline <;> rw [houtline]
  rw [List.flatMap_subtype fun _ _ => rfl, List.unattach_attach]

theorem violations_of_group {value children : Json} {op : BoolOp}
    (hgroup : outline value = .group op children) :
    schema.violations value =
      (childrenFault? op children).toList ++
        (itemsOf children).flatMap schema.violations := by
  rw [violations_eq, hgroup]

theorem violations_of_leaf {value : Json} {members : List (String × Json)}
    (hleaf : outline value = .leaf members) :
    schema.violations value = (schema.leafViolation? members).toList := by
  rw [violations_eq, hleaf]

/-! ## Reading a condition -/

theorem failureOf_readProperty (members : List (String × Json)) :
    failureOf (readProperty members) = propertyFault? (members.lookup "property") := by
  rw [readProperty]
  cases members.lookup "property" with
  | none => rfl
  | some value => cases value <;> rfl

theorem eq_namedProperty?_of_readProperty {members : List (String × Json)}
    {property : Option String} (hread : readProperty members = .ok property) :
    property = namedProperty? members := by
  rw [readProperty] at hread
  rw [namedProperty?]
  cases hlookup : members.lookup "property" with
  | none =>
      rw [hlookup] at hread
      cases hread
      rfl
  | some value =>
      rw [hlookup] at hread
      cases value <;> cases hread <;> rfl

theorem failureOf_typeOf (property : Option String) :
    failureOf (schema.typeOf property) =
      (missingFault? property).or (schema.typeFault? property) := by
  cases property with
  | none => rfl
  | some property =>
      rw [typeOf, typeFault?]
      cases schema.propertyType? property <;> rfl

theorem failureOf_readKind (members : List (String × Json)) :
    failureOf (readKind members) = kindFault? (besideProperty members) := by
  rw [readKind, besideProperty]
  cases members.filter fun member => member.1 != "property" with
  | nil => rfl
  | cons entry entries => cases entries <;> rfl

theorem failureOf_readBody (kind : String) (body : Json) :
    failureOf (readBody kind body) =
      (bodyFault? [(kind, body)]).or (operatorsFault? [(kind, body)]) := by
  cases body with
  | object members =>
      cases members with
      | nil => rfl
      | cons entry entries => cases entries <;> rfl
  | null => rfl
  | bool value => rfl
  | number value => rfl
  | string value => rfl
  | array items => rfl

theorem failureOf_checkCondition {leaf : Condition} {type : PropertyType}
    (htype : schema.typeOf leaf.property = .ok type) :
    failureOf (schema.checkCondition leaf) =
      schema.operatorFault? leaf.property
        [(leaf.kind, .object [(leaf.operator, leaf.operand)])] := by
  cases hproperty : leaf.property with
  | none =>
      rw [hproperty] at htype
      cases htype
  | some property =>
      rw [hproperty, typeOf] at htype
      cases hsupported : schema.propertyType? property with
      | none =>
          rw [hsupported] at htype
          cases htype
      | some supported =>
          rw [operatorFault?, hsupported]
          by_cases hoperator : leaf.operator ∈ supported.operators
          · have hadmits : schema.Admits leaf :=
              ⟨property, supported, hproperty, hsupported,
                PropertyType.supports_iff.mpr hoperator⟩
            rw [(checkCondition_eq_ok_iff schema leaf).mpr hadmits]
            exact (if_pos hoperator).symm
          · rw [propertyType?_eq_some_iff] at hsupported
            have hrefuses : schema.Refuses leaf (.unsupportedOperator _ _ _) :=
              .unsupportedOperator hproperty hsupported hoperator
            rw [checkCondition_of_refuses hrefuses]
            exact (if_neg hoperator).symm

theorem failureOf_readComparison (property : Option String)
    (members : List (String × Json)) :
    failureOf (readComparison property members) =
      (kindFault? (besideProperty members)).or
        ((bodyFault? (besideProperty members)).or
          (operatorsFault? (besideProperty members))) := by
  rw [readComparison]
  refine failureOf_bind (failureOf_readKind members) fun entry hkind => ?_
  obtain ⟨kind, body⟩ := entry
  have hbeside : besideProperty members = [(kind, body)] := readKind_eq_ok_iff.mp hkind
  rw [hbeside, ← failureOf_readBody]
  exact failureOf_map (readBody kind body) _

/-- The walk finds the first fault of a condition, if it finds any. -/
theorem failureOf_readCondition (members : List (String × Json)) :
    failureOf (readCondition schema.leafCheck members) =
      schema.leafViolation? members := by
  have hfaults : schema.leafViolation? members =
      (propertyFault? (members.lookup "property")).or
        (((missingFault? (namedProperty? members)).or
            (schema.typeFault? (namedProperty? members))).or
          (((kindFault? (besideProperty members)).or
              ((bodyFault? (besideProperty members)).or
                (operatorsFault? (besideProperty members)))).or
            (schema.operatorFault? (namedProperty? members)
              (besideProperty members)))) := by
    simp only [leafViolation?, Option.or_assoc]
  rw [hfaults, readCondition_eq]
  refine failureOf_bind (failureOf_readProperty members) fun property hproperty => ?_
  rw [← eq_namedProperty?_of_readProperty hproperty]
  refine failureOf_bind ?_ fun _ hcheck => ?_
  · rw [leafCheck, failureOf_map, failureOf_typeOf]
  obtain ⟨type, htype, -⟩ := map_eq_ok_iff.mp hcheck
  refine failureOf_bind (failureOf_readComparison property members) fun leaf hleaf => ?_
  obtain ⟨rfl, hbeside⟩ := readComparison_eq_ok_iff.mp hleaf
  rw [besideProperty, hbeside, ← failureOf_checkCondition htype]
  exact failureOf_map (schema.checkCondition leaf) _

/-! ## Reading a value -/

theorem failureOf_readChildren {op : BoolOp} {children : Json}
    (hitems : ∀ item ∈ itemsOf children,
      failureOf (readNode schema.leafCheck item) = (schema.violations item).head?) :
    failureOf (readChildren schema.leafCheck op children) =
      ((childrenFault? op children).toList ++
        (itemsOf children).flatMap schema.violations).head? := by
  cases children with
  | array items =>
      cases items with
      | nil => rfl
      | cons item items =>
          rw [readChildren_array (List.cons_ne_nil item items), readAll_eq_gather]
          exact failureOf_gather_eq_head? hitems
  | null => rfl
  | bool value => rfl
  | number value => rfl
  | string value => rfl
  | object members => rfl

/-- The walk finds the first violation, if there is any. -/
theorem failureOf_readNode (schema : Schema) (value : Json) :
    failureOf (readNode schema.leafCheck value) = (schema.violations value).head? := by
  induction value using Filter.outline_induct with
  | node value ih =>
      cases houtline : outline value with
      | foreign kind =>
          rw [readNode_eq_outline, violations_eq, houtline]
          rfl
      | ambiguous =>
          rw [readNode_eq_outline, violations_eq, houtline]
          rfl
      | leaf members =>
          rw [readNode_of_leaf houtline, violations_of_leaf houtline,
            failureOf_readCondition, Option.head?_toList]
      | group op children =>
          rw [readNode_of_group houtline, failureOf_map, violations_of_group houtline]
          apply failureOf_readChildren
          intro item hmem
          cases children with
          | array items => exact ih op items houtline item hmem
          | _ => cases hmem

theorem flatMap_violations {items : List Json} {filters : List Filter}
    (hitems : ∀ item ∈ items, ∀ filter, readNode .structureOnly item = .ok filter →
      schema.violations item = schema.refusals filter)
    (hread : items.map (readNode .structureOnly) = filters.map .ok) :
    items.flatMap schema.violations = filters.flatMap schema.refusals := by
  induction items generalizing filters with
  | nil =>
      obtain rfl := List.map_eq_nil_iff.mp hread.symm
      rfl
  | cons item items ih =>
      obtain ⟨filter, rest, rfl, hfilter, hrest⟩ := List.map_eq_cons_iff.mp hread.symm
      obtain ⟨hitem, hothers⟩ := List.forall_mem_cons.mp hitems
      rw [List.flatMap_cons, List.flatMap_cons, hitem filter hfilter.symm,
        ih hothers hrest.symm]

/-- Of a value that is read by its structure, the violations are what the schema has
against the conditions. -/
theorem violations_of_readNode {value : Json} {filter : Filter}
    (hread : readNode .structureOnly value = .ok filter) :
    schema.violations value = schema.refusals filter := by
  induction value using Filter.outline_induct generalizing filter with
  | node value ih =>
      cases houtline : outline value with
      | foreign kind =>
          rw [readNode_eq_outline, houtline] at hread
          cases hread
      | ambiguous =>
          rw [readNode_eq_outline, houtline] at hread
          cases hread
      | leaf members =>
          rw [readNode_of_leaf houtline] at hread
          have hfound := (fused_readCondition schema members).failureOf_eq hread
          obtain ⟨leaf, rfl, -⟩ := readCondition_eq_ok_iff.mp hread
          rw [violations_of_leaf houtline, ← failureOf_readCondition, hfound,
            refusals_condition, checkFilter]
      | group op children =>
          rw [readNode_of_group houtline, map_eq_ok_iff] at hread
          obtain ⟨filters, hread, rfl⟩ := hread
          obtain ⟨items, rfl, hne, hread⟩ := readChildren_eq_ok_iff.mp hread
          obtain ⟨item, rest, rfl⟩ := List.exists_cons_of_ne_nil hne
          rw [violations_of_group houtline, refusals_group]
          exact flatMap_violations
            (fun item hmem filter hfilter => ih op _ houtline item hmem hfilter) hread

/-- A value other than null is read and accepted exactly if it has no violations.
Otherwise it is refused for the first of them, whatever comes after it. -/
theorem checked_reading_reports_first_violation (schema : Schema) {value : Json}
    (hvalue : value ≠ .null) :
    ((∃ filter, schema.readFilter value = .ok filter) ↔
        schema.violations value = []) ∧
      ∀ why later, schema.violations value = why :: later →
        schema.readFilter value = .error why := by
  have hfailure : failureOf (schema.readFilter value) =
      (schema.violations value).head? := by
    rw [readFilter, readOptional_of_ne_null hvalue, failureOf_map, failureOf_readNode]
  constructor
  · rw [← failureOf_eq_none_iff, hfailure, List.head?_eq_none_iff]
  · intro why later hviolations
    rw [← failureOf_eq_some_iff, hfailure, hviolations, List.head?_cons]

/-- An or-group with an admitted condition, an and-group of two parts that are both
wrong, and a condition that is wrong in two ways. -/
def wrongInPlaces : Json :=
  .object [("or", .array
    [(Filter.statusIs "Won").toJson,
      .object [("and", .array
        [.object [("property", .string "Bogus"), ("select", .string "x")],
          .bool true])],
      .object [("select", .object [])]])]

/-- The condition on an unknown property comes first, and its property is looked at
first. -/
theorem checked_reading_reports_unknown_property :
    wrongInPlaces ≠ .null ∧
      Schema.default.violations wrongInPlaces =
        [.unsupportedType "Bogus", .malformed (.notAnObject "boolean"),
          .missingProperty] ∧
      Schema.default.readFilter wrongInPlaces = .error (.unsupportedType "Bogus") := by
  have hvalue : wrongInPlaces ≠ .null := Json.noConfusion
  have hviolations : Schema.default.violations wrongInPlaces =
      [.unsupportedType "Bogus", .malformed (.notAnObject "boolean"),
        .missingProperty] := by
    decide +kernel
  obtain ⟨-, hfirst⟩ := checked_reading_reports_first_violation Schema.default hvalue
  exact ⟨hvalue, hviolations, hfirst _ _ hviolations⟩

end Schema

end NestedQuery
