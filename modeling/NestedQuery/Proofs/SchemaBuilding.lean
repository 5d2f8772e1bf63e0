import Mathlib.Data.List.Induction
import NestedQuery.Proofs.Filter.Verdict
import NestedQuery.Proofs.FirstMention
import NestedQuery.Sort

/-!
# Building schemas

A schema is extended by additions, each of which gives a property a type or mentions a
sortable name.  The two kinds keep to different parts of the schema and follow different
rules: of the types given to a property the last one stands, while a name is put behind
the sortable ones when it is mentioned first, and not again.  So the names that come in
stand in the order of their first mention, whatever the schema repeats that is extended.
-/

namespace NestedQuery

namespace Schema

/-! ## Additions -/

/-- One step in which a schema is built. -/
inductive Addition
  | property (name typeName : String)
  | sortable (name : String)

namespace Addition

/-- The type that an addition gives to a property. -/
def typeOf? (property : String) : Addition → Option String
  | .property name typeName => if property = name then some typeName else none
  | .sortable _ => none

/-- The name that an addition mentions as sortable. -/
def sortable? : Addition → Option String
  | .property _ _ => none
  | .sortable name => some name

end Addition

def adding (schema : Schema) : Addition → Schema
  | .property name typeName => schema.withProperty name typeName
  | .sortable name => schema.withSortable name

/-- The schema with additions made one after the other. -/
def extended (schema : Schema) (additions : List Addition) : Schema :=
  additions.foldl adding schema

theorem extended_append (schema : Schema) (earlier later : List Addition) :
    schema.extended (earlier ++ later) = (schema.extended earlier).extended later :=
  List.foldl_append

theorem typeName?_withProperty (schema : Schema) (name typeName property : String) :
    (schema.withProperty name typeName).typeName? property =
      if property = name then some typeName else schema.typeName? property :=
  lookup_insertEntry name property typeName schema.properties.entries

theorem properties_withSortable (schema : Schema) (name : String) :
    (schema.withSortable name).properties = schema.properties := by
  rw [withSortable]
  split <;> rfl

theorem sortable_withSortable (schema : Schema) (name : String) :
    (schema.withSortable name).sortable =
      if name ∈ schema.sortable then schema.sortable else schema.sortable ++ [name] := by
  simp only [withSortable, List.contains_iff_mem]
  split <;> rfl

theorem withSortable_withProperty (schema : Schema) (name typeName other : String) :
    (schema.withProperty name typeName).withSortable other =
      (schema.withSortable other).withProperty name typeName := by
  have hkept : (schema.withProperty name typeName).sortable = schema.sortable := rfl
  rw [withSortable, withSortable, hkept]
  by_cases hlisted : schema.sortable.contains other = true
  · rw [if_pos hlisted, if_pos hlisted]
  · rw [if_neg hlisted, if_neg hlisted]
    rfl

theorem isSortable_iff {schema : Schema} {name : String} :
    schema.isSortable name = true ↔ name ∈ schema.sortable :=
  List.contains_iff_mem

/-! ## Extended schemas -/

/-- An addition settles the type of a property or leaves it as it is. -/
theorem typeName?_adding (schema : Schema) (addition : Addition) (property : String) :
    (schema.adding addition).typeName? property =
      (addition.typeOf? property).or (schema.typeName? property) := by
  cases addition with
  | property name typeName =>
      rw [adding, typeName?_withProperty, Addition.typeOf?]
      split <;> rfl
  | sortable name =>
      rw [adding, typeName?, properties_withSortable]
      rfl

/-- The type given last stands. -/
theorem typeName?_extended (base : Schema) (additions : List Addition)
    (property : String) :
    (base.extended additions).typeName? property =
      (additions.filterMap (Addition.typeOf? property)).getLast?.or
        (base.typeName? property) := by
  induction additions using List.reverseRecOn with
  | nil => rfl
  | append_singleton additions addition ih =>
      have hlast : ((additions ++ [addition]).filterMap
          (Addition.typeOf? property)).getLast? =
            (addition.typeOf? property).or
              (additions.filterMap (Addition.typeOf? property)).getLast? := by
        rw [List.filterMap_append, List.getLast?_append]
        cases hgiven : addition.typeOf? property with
        | none =>
            rw [List.filterMap_cons_none hgiven]
            rfl
        | some typeName =>
            rw [List.filterMap_cons_some hgiven]
            rfl
      rw [extended_append, hlast, Option.or_assoc, ← ih]
      exact typeName?_adding (base.extended additions) addition property

/-- The names introduced by the additions stand behind those of the schema. -/
theorem exists_sortable_extended (base : Schema) (additions : List Addition) :
    ∃ added, (base.extended additions).sortable = base.sortable ++ added ∧
      Introduces base.sortable (additions.filterMap Addition.sortable?) added := by
  induction additions using List.reverseRecOn with
  | nil => exact ⟨[], (List.append_nil _).symm, introduces_nil _⟩
  | append_singleton additions addition ih =>
      obtain ⟨added, hsortable, hadded⟩ := ih
      rw [extended_append, List.filterMap_append]
      cases addition with
      | property name typeName =>
          refine ⟨added, hsortable, ?_⟩
          rwa [List.filterMap_cons_none rfl, List.filterMap_nil, List.append_nil]
      | sortable name =>
          have hmentioned : [Addition.sortable name].filterMap Addition.sortable? = [name] :=
            rfl
          have hstep := sortable_withSortable (base.extended additions) name
          rw [hsortable] at hstep
          rw [hmentioned]
          by_cases hthere : name ∈ base.sortable ++ added
          · rw [if_pos hthere] at hstep
            exact ⟨added, hstep, hadded.again hthere⟩
          · rw [if_neg hthere, List.append_assoc] at hstep
            exact ⟨added ++ [name], hstep, hadded.first hthere⟩

/-- Neighbouring additions of the two kinds may change places. -/
theorem extended_swap (base : Schema) (earlier later : List Addition)
    (property typeName name : String) :
    base.extended (earlier ++ [.property property typeName, .sortable name] ++ later) =
      base.extended (earlier ++ [.sortable name, .property property typeName] ++ later) := by
  have hpair := withSortable_withProperty (base.extended earlier) property typeName name
  calc base.extended (earlier ++ [.property property typeName, .sortable name] ++ later)
      = (((base.extended earlier).withProperty property typeName).withSortable
          name).extended later := by
        rw [extended_append, extended_append]
        rfl
    _ = (((base.extended earlier).withSortable name).withProperty property
          typeName).extended later := by rw [hpair]
    _ = base.extended
          (earlier ++ [.sortable name, .property property typeName] ++ later) := by
        rw [extended_append, extended_append]
        rfl

/-- A property has the type that was given to it last, and a supported one if the type has
its name.  The sortable names are those of the schema that is extended and behind them, in
the order of their first mention, the ones that it lacks; they are the names by which a
sort may ask.  The order between additions of the two kinds makes no difference. -/
theorem extended_by_last_types_and_first_mentions (base : Schema)
    (additions : List Addition) :
    (∀ property, (base.extended additions).typeName? property =
        (additions.filterMap (Addition.typeOf? property)).getLast?.or
          (base.typeName? property)) ∧
      (∀ property type, (base.extended additions).propertyType? property = some type ↔
        (base.extended additions).typeName? property = some type.name) ∧
      (∀ property, (base.extended additions).propertyType? property = none ↔
        ∀ type : PropertyType,
          (base.extended additions).typeName? property ≠ some type.name) ∧
      (∃ added, (base.extended additions).sortable = base.sortable ++ added ∧
        ∀ names,
          Introduces base.sortable (additions.filterMap Addition.sortable?) names ↔
            names = added) ∧
      (∀ name, (base.extended additions).isSortable name = true ↔
        name ∈ (base.extended additions).sortable) ∧
      (∀ earlier later property typeName name,
        base.extended
            (earlier ++ [.property property typeName, .sortable name] ++ later) =
          base.extended
            (earlier ++ [.sortable name, .property property typeName] ++ later)) ∧
      ∀ request sorted,
        (base.extended additions).resolveSort request = .ok (some sorted) ↔
          ∃ asked, request = some asked ∧ asked.property = some sorted.property ∧
            sorted.property ∈ (base.extended additions).sortable ∧
            sorted.direction = .coerce asked.direction := by
  refine ⟨typeName?_extended base additions, fun _ _ => propertyType?_eq_some_iff,
    fun _ => propertyType?_eq_none_iff, ?_, fun _ => isSortable_iff,
    extended_swap base, fun _ _ => resolveSort_eq_ok_some_iff⟩
  obtain ⟨added, hsortable, hadded⟩ := exists_sortable_extended base additions
  refine ⟨added, hsortable, fun names => ⟨fun hnames => hnames.unique hadded, ?_⟩⟩
  rintro rfl
  exact hadded

/-- A name that the schema repeats stays repeated, and the last type of `Due` is not a
supported one. -/
example :
    let base : Schema := ⟨.empty, ["Name", "Name"]⟩
    let built := base.extended
      [.sortable "Due", .property "Due" "date", .sortable "Name", .sortable "Due",
        .sortable "Closed", .property "Due" "people"]
    built.sortable = ["Name", "Name", "Due", "Closed"] ∧
      built.typeName? "Due" = some "people" ∧ built.propertyType? "Due" = none := by
  decide

end Schema

end NestedQuery
