import NestedQuery.Proofs.Filter.Verdict
import NestedQuery.Proofs.Filter.Walk

/-!
# Reading and checking at once

A filter can be read by its structure and validated afterwards, or read and
checked in one walk.  The walk looks at the property of a condition before it looks
at the rest, so on a value with several faults it may come across another one
first.  That is all the difference: whatever has the structure of a filter is
judged alike, and what has not is refused by both.
-/

namespace NestedQuery

/-! ## Faults of either sort -/

/-- A fault that only a schema can find in a condition. -/
def Rejection.isSchemaFault : Rejection → Bool
  | .missingProperty | .unsupportedType _ | .unsupportedOperator _ _ _ => true
  | .malformed _ | .invalidSort _ _ => false

/-- What reading and checking at once comes to, given what reading by structure and
checking afterwards come to. -/
inductive Fused {A : Type} (check : A → Except Rejection Unit) :
    Except Rejection A → Except Rejection A → Prop
  | valid {tree : A} (hcheck : check tree = .ok ()) : Fused check (.ok tree) (.ok tree)
  | invalid {tree : A} {why : Rejection} (hcheck : check tree = .error why) :
      Fused check (.ok tree) (.error why)
  | malformed (why : Rejection) : Fused check (.error why) (.error why)
  /-- A condition before the malformed part, or the property of the malformed
  condition, is refused by the schema. -/
  | preempted (why : Rejection) {fault : Rejection}
      (hfault : fault.isSchemaFault = true) :
      Fused check (.error why) (.error fault)

namespace Fused

variable {A B : Type} {check : A → Except Rejection Unit}
variable {plain checked : Except Rejection A} {tree : A} {why : Rejection}

theorem map {check' : B → Except Rejection Unit} (hfused : Fused check plain checked)
    {make : A → B} (hmake : ∀ tree, check' (make tree) = check tree) :
    Fused check' (plain.map make) (checked.map make) := by
  cases hfused with
  | valid hcheck => exact .valid ((hmake _).trans hcheck)
  | invalid hcheck => exact .invalid ((hmake _).trans hcheck)
  | malformed why => exact .malformed why
  | preempted why hfault => exact .preempted why hfault

theorem eq_ok_iff (hfused : Fused check plain checked) :
    checked = .ok tree ↔ plain = .ok tree ∧ check tree = .ok () := by
  cases hfused with
  | valid hcheck =>
      constructor
      · rintro ⟨⟩
        exact ⟨rfl, hcheck⟩
      · rintro ⟨⟨⟩, -⟩
        rfl
  | invalid hcheck =>
      constructor
      · rintro ⟨⟩
      · rintro ⟨⟨⟩, hvalid⟩
        rw [hcheck] at hvalid
        cases hvalid
  | malformed why => simp
  | preempted why hfault => simp

theorem eq_error_of_check (hfused : Fused check plain checked)
    (hplain : plain = .ok tree) (hcheck : check tree = .error why) :
    checked = .error why := by
  cases hfused with
  | valid hvalid =>
      cases hplain
      rw [hcheck] at hvalid
      cases hvalid
  | invalid hinvalid =>
      cases hplain
      rw [hcheck] at hinvalid
      cases hinvalid
      rfl
  | malformed other => cases hplain
  | preempted other hfault => cases hplain

/-- What is wrong with a value that was read is what is wrong with the tree. -/
theorem failureOf_eq (hfused : Fused check plain checked) (hplain : plain = .ok tree) :
    failureOf checked = failureOf (check tree) := by
  cases hcheck : check tree with
  | ok done =>
      rw [hfused.eq_ok_iff.mpr ⟨hplain, hcheck⟩, failureOf_ok, failureOf_ok]
  | error why =>
      rw [hfused.eq_error_of_check hplain hcheck, failureOf_error, failureOf_error]

theorem exists_fault (hfused : Fused check plain checked)
    (hplain : plain = .error why) :
    ∃ fault, checked = .error fault ∧
      (fault = why ∨ fault.isSchemaFault = true) := by
  cases hfused with
  | valid hvalid => cases hplain
  | invalid hinvalid => cases hplain
  | malformed other =>
      cases hplain
      exact ⟨why, rfl, Or.inl rfl⟩
  | preempted other hfault => exact ⟨_, rfl, Or.inr hfault⟩

end Fused

namespace Schema

open NestedQuery.Filter

variable {schema : Schema} {why : Rejection}

theorem Refuses.isSchemaFault {leaf : Condition} (hrefuses : schema.Refuses leaf why) :
    why.isSchemaFault = true := by
  cases hrefuses with
  | missingProperty hproperty => rfl
  | unsupportedType hproperty htype => rfl
  | unsupportedOperator hproperty htype hoperator => rfl

theorem checkCondition_of_typeOf {leaf : Condition}
    (htype : schema.typeOf leaf.property = .error why) :
    schema.checkCondition leaf = .error why := by
  rw [checkCondition, htype]
  rfl

theorem isSchemaFault_of_typeOf {property : Option String}
    (htype : schema.typeOf property = .error why) : why.isSchemaFault = true := by
  have hcheck : schema.checkCondition ⟨property, "", "", .null⟩ = .error why :=
    checkCondition_of_typeOf htype
  exact (checkCondition_eq_error_iff.mp hcheck).isSchemaFault

/-- Validation finds no other faults. -/
theorem isSchemaFault_of_checkFilter {filter : Filter}
    (hcheck : schema.checkFilter filter = .error why) : why.isSchemaFault = true := by
  obtain ⟨-, leaf, -, -, hrefuses, -⟩ := checkFilter_eq_error_iff.mp hcheck
  exact hrefuses.isSchemaFault

theorem checkAll_cons (filter : Filter) (filters : List Filter) :
    schema.checkAll (filter :: filters) =
      (schema.checkFilter filter).bind fun _ => schema.checkAll filters := rfl

/-! ## The two ways of reading -/

theorem fused_readCondition (schema : Schema) (members : List (String × Json)) :
    Fused schema.checkFilter (readCondition .structureOnly members)
      (readCondition schema.leafCheck members) := by
  rw [readCondition_eq, readCondition_eq]
  cases readProperty members with
  | error why => exact .malformed why
  | ok property =>
      simp only [bind, Except.bind, LeafCheck.structureOnly, leafCheck]
      cases hrest : readComparison property members with
      | error why =>
          cases htype : schema.typeOf property with
          -- The property is refused before the walk comes to the other fault.
          | error fault => exact .preempted why (isSchemaFault_of_typeOf htype)
          | ok type => exact .malformed why
      | ok leaf =>
          have hproperty := (readComparison_eq_ok_iff.mp hrest).1
          subst hproperty
          cases htype : schema.typeOf leaf.property with
          | error fault => exact .invalid (checkCondition_of_typeOf htype)
          | ok type =>
              change Fused schema.checkFilter (.ok (.condition leaf))
                ((schema.checkCondition leaf).bind fun _ => .ok (.condition leaf))
              cases hcheck : schema.checkCondition leaf with
              | error why =>
                  have hfilter : schema.checkFilter (.condition leaf) = .error why := hcheck
                  exact .invalid hfilter
              | ok done =>
                  have hfilter : schema.checkFilter (.condition leaf) = .ok () := hcheck
                  exact .valid hfilter

theorem fused_readAll {items : List Json}
    (hitems : ∀ item ∈ items, Fused schema.checkFilter
      (readNode .structureOnly item) (readNode schema.leafCheck item)) :
    Fused schema.checkAll (readAll .structureOnly items)
      (readAll schema.leafCheck items) := by
  induction items with
  | nil => exact .valid rfl
  | cons item items ih =>
      obtain ⟨hitem, hrest⟩ := List.forall_mem_cons.mp hitems
      have hrest := ih hrest
      rw [readAll, readAll]
      generalize readNode .structureOnly item = plain,
        readNode schema.leafCheck item = checked at hitem
      generalize readAll .structureOnly items = plainRest,
        readAll schema.leafCheck items = checkedRest at hrest
      cases hitem with
      | malformed why => exact .malformed why
      | preempted why hfault => exact .preempted why hfault
      | invalid hcheck =>
          -- The walk ends here, so a fault in the rest of the list goes unnoticed.
          have hfault := isSchemaFault_of_checkFilter hcheck
          cases plainRest with
          | error why => exact .preempted why hfault
          | ok filters =>
              apply Fused.invalid
              rw [checkAll_cons, hcheck]
              rfl
      | valid hcheck =>
          cases hrest with
          | malformed why => exact .malformed why
          | preempted why hfault => exact .preempted why hfault
          | invalid hrest =>
              apply Fused.invalid
              rw [checkAll_cons, hcheck]
              exact hrest
          | valid hrest =>
              apply Fused.valid
              rw [checkAll_cons, hcheck]
              exact hrest

theorem fused_readNode (schema : Schema) (value : Json) :
    Fused schema.checkFilter (readNode .structureOnly value)
      (readNode schema.leafCheck value) := by
  induction value using Filter.outline_induct with
  | node value ih =>
      cases houtline : outline value with
      | foreign kind =>
          rw [readNode_eq_outline, readNode_eq_outline, houtline]
          exact .malformed _
      | ambiguous =>
          rw [readNode_eq_outline, readNode_eq_outline, houtline]
          exact .malformed _
      | leaf members =>
          rw [readNode_of_leaf houtline, readNode_of_leaf houtline]
          exact fused_readCondition schema members
      | group op children =>
          rw [readNode_of_group houtline, readNode_of_group houtline]
          suffices hchildren : Fused schema.checkAll
              (readChildren .structureOnly op children)
              (readChildren schema.leafCheck op children) from
            hchildren.map fun _ => rfl
          rcases exists_items_or_malformed op children with
            ⟨items, rfl, hne⟩ | ⟨why, hwhy⟩
          · rw [readChildren_array hne, readChildren_array hne]
            exact fused_readAll (ih op items houtline)
          · rw [hwhy, hwhy]
            exact .malformed _

theorem fused_readOptional (schema : Schema) (value : Json) :
    Fused schema.validate (ofJson? value) (schema.readFilter value) := by
  by_cases hvalue : value = .null
  · subst hvalue
    exact .valid rfl
  · rw [ofJson?, readFilter, readOptional_of_ne_null hvalue,
      readOptional_of_ne_null hvalue]
    exact (fused_readNode schema value).map fun _ => rfl

/-- Reading and checking at once succeeds exactly if reading by structure and
validating do, with the same filter.  It finds the fault that validation finds; and
of a value that cannot be read it reports why, or a fault of its conditions that
only the schema can find. -/
theorem checked_reading_agrees (schema : Schema) (value : Json) :
    (∀ filter, schema.readFilter value = .ok filter ↔
        ofJson? value = .ok filter ∧ schema.validate filter = .ok ()) ∧
      (∀ filter why, ofJson? value = .ok filter →
        schema.validate filter = .error why → schema.readFilter value = .error why) ∧
      (∀ why, ofJson? value = .error why →
        ∃ fault, schema.readFilter value = .error fault ∧
          (fault = why ∨ fault.isSchemaFault = true)) := by
  have hfused := fused_readOptional schema value
  refine ⟨?_, ?_, ?_⟩
  · exact fun filter => hfused.eq_ok_iff
  · exact fun filter why => hfused.eq_error_of_check
  · exact fun why => hfused.exists_fault

/-- A condition with neither a property nor an operator has one fault of each sort. -/
example :
    ofJson? (.object [("select", .object [])]) =
        .error (.malformed (.notOneOperator "select")) ∧
      Schema.default.readFilter (.object [("select", .object [])]) =
        .error .missingProperty :=
  ⟨rfl, rfl⟩

end Schema

end NestedQuery
