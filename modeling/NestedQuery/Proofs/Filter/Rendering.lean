import Mathlib.Data.Set.Function
import NestedQuery.Filter.Validation
import NestedQuery.Proofs.Filter.Tree
import NestedQuery.Proofs.Filter.Walk

/-!
# Reading what was written

The wire form of a condition uses the key `property` and the keys of the groups
for itself, and the empty name for no property; a group without children cannot be
read.  A filter that keeps clear of this is read back from its wire form, any other
one is not.  Whatever is read, with or without a schema, keeps clear of it.
-/

namespace NestedQuery

/-- A condition whose kind is no key with another meaning, and which does not name
the empty property. -/
structure Condition.WellFormed (leaf : Condition) : Prop where
  kind_ne_property : leaf.kind ≠ "property"
  kind_ne_key : ∀ op : BoolOp, leaf.kind ≠ op.key
  property_ne : leaf.property ≠ some ""

/-- The kind is entered beside the property, if there is one. -/
theorem Condition.toJson_eq_insertEntry (leaf : Condition) :
    leaf.toJson =
      .object (insertEntry leaf.kind (.object [(leaf.operator, leaf.operand)])
        (leaf.property.map fun property => ("property", Json.string property)).toList) := by
  obtain ⟨property, kind, operator, operand⟩ := leaf
  cases property <;> rfl

namespace Filter

/-- All groups have children, and all conditions are well-formed. -/
inductive WellFormed : Filter → Prop
  | group {op : BoolOp} {children : List Filter} (hne : children ≠ [])
      (hchildren : ∀ child ∈ children, WellFormed child) :
      WellFormed (.group op children)
  | condition {leaf : Condition} (hleaf : leaf.WellFormed) :
      WellFormed (.condition leaf)

/-- The parts of a well-formed filter are well-formed. -/
theorem WellFormed.of_within {part whole : Filter} (hwhole : whole.WellFormed)
    (hwithin : part.Within whole) : part.WellFormed := by
  induction hwithin with
  | refl => exact hwhole
  | child hmem _ ih =>
      cases hwhole with
      | group hne hchildren => exact ih (hchildren _ hmem)

theorem WellFormed.not_nil_within {filter : Filter} (hfilter : filter.WellFormed)
    (op : BoolOp) : ¬(Filter.group op []).Within filter := by
  intro hwithin
  cases hfilter.of_within hwithin with
  | group hne hchildren => exact hne rfl

/-! ## What is read is well-formed -/

theorem readProperty_ne_empty {members : List (String × Json)} :
    readProperty members ≠ .ok (some "") := by
  rw [readProperty]
  split
  · rintro ⟨⟩
  · rintro ⟨⟩
  · rename_i property _
    by_cases hempty : property = ""
    · rw [if_pos hempty]
      rintro ⟨⟩
    · rw [if_neg hempty]
      rintro ⟨⟩
      exact hempty rfl
  · rintro ⟨⟩

theorem wellFormed_of_readCondition {check : LeafCheck}
    {members : List (String × Json)} {filter : Filter}
    (hkeys : ∀ op : BoolOp, members.lookup op.key = none)
    (hread : readCondition check members = .ok filter) : filter.WellFormed := by
  obtain ⟨leaf, rfl, hproperty, -, hkind, -⟩ := readCondition_eq_ok_iff.mp hread
  have hlisted := List.mem_singleton_self
    (leaf.kind, Json.object [(leaf.operator, leaf.operand)])
  rw [← hkind, List.mem_filter] at hlisted
  obtain ⟨hmem, hne⟩ := hlisted
  refine .condition ⟨bne_iff_ne.mp hne, ?_, ?_⟩
  -- A member of that name would have made the value a group.
  · intro op hop
    have hother := List.lookup_eq_none_iff.mp (hkeys op) _ hmem
    exact bne_iff_ne.mp hother hop.symm
  · intro hempty
    rw [hempty] at hproperty
    exact readProperty_ne_empty hproperty

theorem wellFormed_of_readNode {check : LeafCheck} {value : Json} {filter : Filter}
    (hread : readNode check value = .ok filter) : filter.WellFormed := by
  induction value using outline_induct generalizing filter with
  | node value ih =>
      cases houtline : outline value with
      | foreign kind =>
          rw [readNode_eq_outline, houtline] at hread
          cases hread
      | ambiguous =>
          rw [readNode_eq_outline, houtline] at hread
          cases hread
      | leaf members =>
          rw [readNode_of_leaf houtline] at hread
          exact wellFormed_of_readCondition (outline_eq_leaf_iff.mp houtline).2 hread
      | group op children =>
          rw [readNode_of_group houtline] at hread
          obtain ⟨filters, hchildren, rfl⟩ := map_eq_ok_iff.mp hread
          obtain ⟨items, rfl, hne, hitems⟩ := readChildren_eq_ok_iff.mp hchildren
          apply WellFormed.group
          · rintro rfl
            exact hne (List.map_eq_nil_iff.mp hitems)
          · intro child hmem
            have hchild : Except.ok child ∈ items.map (readNode check) := by
              rw [hitems]
              exact List.mem_map_of_mem hmem
            obtain ⟨item, hitem, hchild⟩ := List.mem_map.mp hchild
            exact ih op items houtline item hitem hchild

theorem wellFormed_of_readOptional {check : LeafCheck} {value : Json} {filter : Filter}
    (hread : readOptional check value = .ok (some filter)) : filter.WellFormed := by
  rw [readOptional.eq_def] at hread
  split at hread
  · cases hread
  · obtain ⟨tree, htree, hsome⟩ := map_eq_ok_iff.mp hread
    cases hsome
    exact wellFormed_of_readNode htree

/-! ## What is well-formed is read back -/

theorem outline_toJson_group (op : BoolOp) (children : List Filter) :
    outline (group op children).toJson = .group op (.array (children.map toJson)) := by
  rw [toJson, allToJson_eq_map]
  cases op <;> rfl

/-- A new entry is the only one of its sort. -/
theorem filter_insertEntry {A : Type} {select : String × A → Bool} {key : String}
    {value : A} {entries : List (String × A)} (hkey : select (key, value) = true)
    (hentries : ∀ entry ∈ entries, select entry = false) :
    (insertEntry key value entries).filter select = [(key, value)] := by
  induction entries with
  | nil => rw [insertEntry, List.filter_cons_of_pos hkey, List.filter_nil]
  | cons entry rest ih =>
      obtain ⟨hentry, hrest⟩ := List.forall_mem_cons.mp hentries
      have hnone : rest.filter select = [] :=
        List.filter_eq_nil_iff.mpr fun other hmem => by simp [hrest other hmem]
      obtain ⟨head, old⟩ := entry
      unfold insertEntry
      split
      · simp [hkey, hentry, hnone]
      · split
        · simp [hkey, hnone]
        · simp [hentry, ih hrest]

/-- The members of the wire form of a condition have the meaning they are written
with. -/
theorem readCondition_toJson {leaf : Condition} (hleaf : leaf.WellFormed) :
    ∃ members, leaf.toJson = .object members ∧
      (∀ op : BoolOp, members.lookup op.key = none) ∧
      readCondition .structureOnly members = .ok (.condition leaf) := by
  refine ⟨_, leaf.toJson_eq_insertEntry, ?_, readCondition_eq_ok_iff.mpr
    ⟨leaf, rfl, ?_, rfl, ?_, rfl⟩⟩
  · intro op
    rw [lookup_insertEntry, if_neg (hleaf.kind_ne_key op).symm]
    cases leaf.property <;> cases op <;> rfl
  · rw [readProperty, lookup_insertEntry, if_neg hleaf.kind_ne_property.symm]
    cases hproperty : leaf.property with
    | none => rfl
    | some property =>
        have hne : property ≠ "" := by
          rintro rfl
          exact hleaf.property_ne hproperty
        simp [hne]
  · apply filter_insertEntry
    · exact bne_iff_ne.mpr hleaf.kind_ne_property
    · cases leaf.property <;> simp

theorem ofJson_toJson {filter : Filter} (hfilter : filter.WellFormed) :
    ofJson filter.toJson = .ok filter := by
  rw [ofJson]
  induction hfilter with
  | @group op children hne _ ih =>
      have hread : readChildren .structureOnly op (.array (children.map toJson)) =
          .ok children := by
        refine readChildren_eq_ok_iff.mpr ⟨children.map toJson, rfl, ?_, ?_⟩
        · exact mt List.map_eq_nil_iff.mp hne
        · rw [List.map_map]
          exact List.map_congr_left ih
      rw [readNode_of_group (outline_toJson_group op children), hread, Except.map]
  | @condition leaf hleaf =>
      obtain ⟨members, hmembers, hkeys, hread⟩ := readCondition_toJson hleaf
      have houtline := outline_eq_leaf_iff.mpr ⟨hmembers, hkeys⟩
      rw [toJson, readNode_of_leaf houtline, hread]

/-- Whether a filter was read from some value, with or without a schema. -/
def IsRead (filter : Filter) : Prop :=
  (∃ value, ofJson? value = .ok (some filter)) ∨
    ∃ (schema : Schema) (value : Json), schema.readFilter value = .ok (some filter)

theorem IsRead.wellFormed {filter : Filter} (hread : filter.IsRead) :
    filter.WellFormed := by
  rcases hread with ⟨value, hread⟩ | ⟨schema, value, hread⟩
  · exact wellFormed_of_readOptional hread
  · exact wellFormed_of_readOptional hread

/-- A filter is read back from its wire form exactly if it is well-formed.  All
filters that were read are; so they are read back, and no two of them have the same
wire form. -/
theorem reading_inverts_rendering :
    (∀ filter : Filter, ofJson filter.toJson = .ok filter ↔ filter.WellFormed) ∧
      (∀ filter : Filter, filter.IsRead →
        filter.WellFormed ∧ ofJson filter.toJson = .ok filter) ∧
      Set.InjOn toJson {filter | filter.IsRead} := by
  refine ⟨?_, ?_, ?_⟩
  · exact fun filter => ⟨wellFormed_of_readNode, ofJson_toJson⟩
  · exact fun filter hread => ⟨hread.wellFormed, ofJson_toJson hread.wellFormed⟩
  · intro left hleft right hright heq
    have hread := ofJson_toJson (IsRead.wellFormed hleft)
    rw [heq, ofJson_toJson (IsRead.wellFormed hright)] at hread
    exact (Except.ok.inj hread).symm

end Filter

end NestedQuery
