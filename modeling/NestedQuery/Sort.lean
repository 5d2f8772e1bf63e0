import NestedQuery.Filter.Rejection
import NestedQuery.Schema.Basic

/-!
# Sorts

A sort request names a property and a direction.  The property is checked
strictly against the schema, the direction leniently: whatever is not
`descending` is ascending.
-/

namespace NestedQuery

open Json (Source FieldReader Decoded)

inductive SortDirection
  | ascending
  | descending
  deriving DecidableEq

namespace SortDirection

def name : SortDirection → String
  | .ascending => "ascending"
  | .descending => "descending"

def ofName? (name : String) : Option SortDirection :=
  [SortDirection.ascending, .descending].find? (·.name == name)

/-- The direction a caller asks for. -/
def coerce (direction : Option String) : SortDirection :=
  if direction = some "descending" then .descending else .ascending

end SortDirection

/-- A sort as the caller states it. -/
structure SortRequest where
  property : Option String := none
  direction : Option String := none
  deriving DecidableEq

namespace SortRequest

def toJson (sort : SortRequest) : Json :=
  .object
    [("property", .ofOption .string sort.property),
      ("direction", .ofOption .string sort.direction)]

def fields : List (FieldReader SortRequest) :=
  [.optional "property" (Source.decodeOption Source.decodeString)
      fun sort property => { sort with property },
    .optional "direction" (Source.decodeOption Source.decodeString)
      fun sort direction => { sort with direction }]

def decode : Source → Decoded SortRequest :=
  Source.decodeStructure fields {}

end SortRequest

/-- A sort the remote service understands. -/
structure ResolvedSort where
  property : String
  direction : SortDirection
  deriving DecidableEq

namespace ResolvedSort

def toJson (sort : ResolvedSort) : Json :=
  .object [("property", .string sort.property), ("direction", .string sort.direction.name)]

def fields : List (FieldReader ResolvedSort) :=
  [.mandatory "property" Source.decodeString
      fun sort property => { sort with property },
    .mandatory "direction" (Source.decodeName SortDirection.ofName?)
      fun sort direction => { sort with direction }]

def decode : Source → Decoded ResolvedSort :=
  Source.decodeStructure fields ⟨"", .ascending⟩

end ResolvedSort

/-- Resolves a sort request, if there is one, against the sortable
properties. -/
def Schema.resolveSort (schema : Schema) :
    Option SortRequest → Except Rejection (Option ResolvedSort)
  | none => .ok none
  | some sort =>
      match sort.property with
      | some property =>
          if schema.isSortable property then
            .ok (some ⟨property, .coerce sort.direction⟩)
          else .error (.invalidSort (some property) schema.sortable)
      | none => .error (.invalidSort none schema.sortable)

theorem Schema.resolveSort_eq_ok_some_iff {schema : Schema}
    {request : Option SortRequest} {sorted : ResolvedSort} :
    schema.resolveSort request = .ok (some sorted) ↔
      ∃ asked, request = some asked ∧ asked.property = some sorted.property ∧
        sorted.property ∈ schema.sortable ∧
        sorted.direction = .coerce asked.direction := by
  constructor
  · intro hsort
    rw [resolveSort.eq_def] at hsort
    split at hsort
    · cases hsort
    · rename_i asked
      split at hsort
      · rename_i property hproperty
        split at hsort
        · rename_i hlisted
          cases hsort
          exact ⟨asked, rfl, hproperty, List.contains_iff_mem.mp hlisted, rfl⟩
        · cases hsort
      · cases hsort
  · rintro ⟨asked, rfl, hproperty, hlisted, hdirection⟩
    have hsortable : schema.isSortable sorted.property = true :=
      List.contains_iff_mem.mpr hlisted
    simp only [resolveSort, hproperty]
    rw [if_pos hsortable, ← hdirection]

end NestedQuery
