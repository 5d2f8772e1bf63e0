import NestedQuery.Proofs.FirstMention
import NestedQuery.Proofs.Merging

/-!
# What merges keep

An intersection is cut out of its first list: it keeps the order, the payloads and the
repetitions found there, and looks at nothing but the identifiers of the other lists.  A
union is cut out of all its lists, one after the other: of each identifier it keeps the
record that comes first, so its identifiers stand in the order of first occurrence.

Either is said by a structure that mentions no algorithm, and that no other list
satisfies.
-/

namespace NestedQuery

theorem hasId_iff_mem_ids {records : List Record} {id : String} :
    hasId records id = true ↔ id ∈ records.map Record.id := by
  rw [hasId_iff, List.mem_map]

/-! ## Intersections -/

/-- A list holds the records of another, as they stand there, whose identifier is found
in each of the remaining ones. -/
structure Intersects (base : List Record) (others : List (List Record))
    (merged : List Record) : Prop where
  sublist : merged.Sublist base
  mem_iff : ∀ record, record ∈ merged ↔
    record ∈ base ∧ ∀ other ∈ others, record.id ∈ other.map Record.id
  /-- Nothing is lost of an identifier that is kept. -/
  kept : ∀ id, (∀ other ∈ others, id ∈ other.map Record.id) →
    merged.filter (·.id == id) = base.filter (·.id == id)

/-- The same identifiers, in whatever order, how often and with whatever payload. -/
def SameIds (left right : List Record) : Prop :=
  ∀ id, id ∈ left.map Record.id ↔ id ∈ right.map Record.id

/-- Each list on one side has the identifiers of a list on the other, wherever and how
often it is listed. -/
def SameIdSets (left right : List (List Record)) : Prop :=
  (∀ list ∈ left, ∃ other ∈ right, SameIds list other) ∧
    ∀ other ∈ right, ∃ list ∈ left, SameIds list other

theorem intersects_intersection (base : List Record) (others : List (List Record)) :
    Intersects base others (intersection (base :: others)) where
  sublist := List.filter_sublist
  mem_iff record := by
    rw [mem_intersection_cons]
    simp only [hasId_iff_mem_ids]
  kept id hothers := by
    rw [intersection, List.filter_filter]
    apply List.filter_congr
    intro record _
    by_cases hid : record.id = id
    · subst hid
      have hall : others.all (hasId · record.id) = true := by
        rw [List.all_eq_true]
        exact fun other hmem => hasId_iff_mem_ids.mpr (hothers other hmem)
      rw [hall, Bool.and_true]
    · rw [beq_false_of_ne hid, Bool.false_and]

/-- A record that is kept occurs as often as before. -/
theorem Intersects.count_eq {base merged : List Record} {others : List (List Record)}
    (hmerged : Intersects base others merged) {record : Record}
    (hothers : ∀ other ∈ others, record.id ∈ other.map Record.id) :
    merged.count record = base.count record := by
  have hself : ∀ list : List Record,
      (list.filter (·.id == record.id)).count record = list.count record :=
    fun list => List.count_filter (beq_self_eq_true record.id)
  rw [← hself merged, hmerged.kept record.id hothers, hself]

/-- The intersection is the only such list. -/
theorem Intersects.eq_intersection {base merged : List Record}
    {others : List (List Record)} (hmerged : Intersects base others merged) :
    merged = intersection (base :: others) := by
  have hreference := intersects_intersection base others
  have hperm : merged.Perm (intersection (base :: others)) := by
    rw [List.perm_iff_count]
    intro record
    by_cases hmem : record ∈ merged
    · have hothers := ((hmerged.mem_iff record).mp hmem).2
      rw [hmerged.count_eq hothers, hreference.count_eq hothers]
    · have hnot : record ∉ intersection (base :: others) := by
        rwa [hreference.mem_iff, ← hmerged.mem_iff]
      rw [List.count_eq_zero.mpr hmem, List.count_eq_zero.mpr hnot]
  have hall : merged.filter (fun record => others.all (hasId · record.id)) = merged := by
    rw [List.filter_eq_self]
    intro record hmem
    rw [List.all_eq_true]
    exact fun other hother =>
      hasId_iff_mem_ids.mpr (((hmerged.mem_iff record).mp hmem).2 other hother)
  -- Both are cut out of the base in its order, so they do not differ in order either.
  have hwithin := hmerged.sublist.filter fun record => others.all (hasId · record.id)
  rw [hall] at hwithin
  exact hwithin.eq_of_length hperm.length_eq

/-- The other lists count by their identifiers only. -/
theorem intersection_congr (base : List Record) {others lists : List (List Record)}
    (hsame : SameIdSets others lists) :
    intersection (base :: lists) = intersection (base :: others) := by
  rw [intersection, intersection]
  apply List.filter_congr
  intro record _
  rw [Bool.eq_iff_iff, List.all_eq_true, List.all_eq_true]
  simp only [hasId_iff_mem_ids]
  constructor
  · intro hlists other hother
    obtain ⟨list, hlist, hids⟩ := hsame.1 other hother
    exact (hids record.id).mpr (hlists list hlist)
  · intro hothers list hlist
    obtain ⟨other, hother, hids⟩ := hsame.2 list hlist
    exact (hids record.id).mp (hothers other hother)

/-! ## Unions -/

/-- A list holds the first record of each identifier found in some lists, in the order
in which the identifiers are first found. -/
structure Unites (lists : List (List Record)) (merged : List Record) : Prop where
  sublist : merged.Sublist lists.flatten
  distinct : DistinctIds merged
  complete : ∀ list ∈ lists, ∀ record ∈ list, record.id ∈ merged.map Record.id
  first : ∀ id, merged.filter (·.id == id) =
    (lists.flatten.find? (·.id == id)).toList
  ordered : (merged.map Record.id).Pairwise fun left right =>
    (lists.flatten.map Record.id).idxOf left <
      (lists.flatten.map Record.id).idxOf right

theorem not_mem_of_mem_firstOfEachId {seen : List String} {records : List Record}
    {id : String} (hmem : id ∈ (firstOfEachId seen records).map Record.id) :
    id ∉ seen := by
  rw [← hasId_iff_mem_ids, hasId_firstOfEachId] at hmem
  exact hmem.1

/-- Of an identifier that was not seen before, the first record is left. -/
theorem filter_id_firstOfEachId (seen : List String) (records : List Record)
    (id : String) :
    (firstOfEachId seen records).filter (·.id == id) =
      if id ∈ seen then [] else (records.find? (·.id == id)).toList := by
  induction records generalizing seen with
  | nil => simp [firstOfEachId]
  | cons record records ih =>
      rw [firstOfEachId, List.find?_cons]
      by_cases hseen : seen.contains record.id = true
      · rw [if_pos hseen, ih]
        have hmem : record.id ∈ seen := List.contains_iff_mem.mp hseen
        by_cases hid : record.id = id
        · rw [if_pos (hid ▸ hmem), if_pos (hid ▸ hmem)]
        · rw [beq_false_of_ne hid]
      · rw [if_neg hseen, List.filter_cons, ih]
        have hnot : record.id ∉ seen := fun hmem =>
          hseen (List.contains_iff_mem.mpr hmem)
        by_cases hid : record.id = id
        · subst hid
          rw [beq_self_eq_true, if_pos rfl, if_pos List.mem_cons_self, if_neg hnot]
          rfl
        · have hcons : id ∈ record.id :: seen ↔ id ∈ seen := by
            simp [Ne.symm hid]
          simp only [beq_false_of_ne hid, hcons]
          rfl

theorem ordered_firstOfEachId (seen : List String) (records : List Record) :
    ((firstOfEachId seen records).map Record.id).Pairwise fun left right =>
      (records.map Record.id).idxOf left < (records.map Record.id).idxOf right := by
  induction records generalizing seen with
  | nil => exact List.Pairwise.nil
  | cons record records ih =>
      -- What comes from the rest of the list is put one place further back.
      have hlater : ∀ passed, record.id ∈ passed →
          ((firstOfEachId passed records).map Record.id).Pairwise fun left right =>
            ((record :: records).map Record.id).idxOf left <
              ((record :: records).map Record.id).idxOf right := by
        intro passed hpassed
        refine (ih passed).imp_of_mem fun hleft hright hlt => ?_
        have hne : ∀ id ∈ (firstOfEachId passed records).map Record.id,
            record.id ≠ id := by
          rintro id hmem rfl
          exact not_mem_of_mem_firstOfEachId hmem hpassed
        rw [List.map_cons, List.idxOf_cons_ne _ (hne _ hleft),
          List.idxOf_cons_ne _ (hne _ hright)]
        exact Nat.succ_lt_succ hlt
      rw [firstOfEachId]
      by_cases hseen : seen.contains record.id = true
      · rw [if_pos hseen]
        exact hlater seen (List.contains_iff_mem.mp hseen)
      · rw [if_neg hseen, List.map_cons]
        refine List.Pairwise.cons ?_ (hlater _ List.mem_cons_self)
        intro id hmem
        have hne : record.id ≠ id := by
          rintro rfl
          exact not_mem_of_mem_firstOfEachId hmem List.mem_cons_self
        rw [List.idxOf_cons_self, List.idxOf_cons_ne _ hne]
        exact Nat.succ_pos _

theorem unites_union (lists : List (List Record)) : Unites lists (union lists) where
  sublist := firstOfEachId_sublist [] lists.flatten
  distinct := distinctIds_firstOfEachId [] lists.flatten
  complete list hlist record hmem := by
    rw [← hasId_iff_mem_ids, hasId_union]
    exact ⟨list, hlist, hasId_of_mem hmem⟩
  first id := by rw [union, filter_id_firstOfEachId, if_neg List.not_mem_nil]
  ordered := ordered_firstOfEachId [] lists.flatten

section Unites

variable {lists : List (List Record)} {merged : List Record}

theorem Unites.mem_ids_iff (hmerged : Unites lists merged) (id : String) :
    id ∈ merged.map Record.id ↔ id ∈ lists.flatten.map Record.id := by
  constructor
  · exact fun hmem => (hmerged.sublist.map Record.id).subset hmem
  · intro hmem
    obtain ⟨record, hrecord, rfl⟩ := List.mem_map.mp hmem
    obtain ⟨list, hlist, hrecord⟩ := List.mem_flatten.mp hrecord
    exact hmerged.complete list hlist record hrecord

/-- The identifiers determine the records. -/
theorem Unites.filterMap_ids (hmerged : Unites lists merged) :
    (merged.map Record.id).filterMap (fun id => lists.flatten.find? (·.id == id)) =
      merged := by
  have heach : ∀ record ∈ merged,
      lists.flatten.find? (·.id == record.id) = some record := by
    intro record hmem
    have hfirst : record ∈ merged.filter (·.id == record.id) :=
      List.mem_filter.mpr ⟨hmem, beq_self_eq_true record.id⟩
    rwa [hmerged.first, Option.mem_toList] at hfirst
  rw [List.filterMap_map]
  exact (List.filterMap_congr heach).trans List.filterMap_some

/-- The union is the only such list. -/
theorem Unites.eq_union (hmerged : Unites lists merged) : merged = union lists := by
  have hunion := unites_union lists
  have hids : merged.map Record.id = (union lists).map Record.id :=
    eq_of_ordered_by_mention
      (fun id => (hmerged.mem_ids_iff id).trans (hunion.mem_ids_iff id).symm)
      hmerged.ordered hunion.ordered
  rw [← hmerged.filterMap_ids, hids, hunion.filterMap_ids]

end Unites

/-! ## Both merges -/

/-- The intersection is the one list that holds, as they stand in the first list, the
records whose identifier all other lists hold; other lists with the same identifiers give
the same.  The union is the one list that holds the first record of each identifier in
the order of first occurrence; it has nothing left to unite. -/
theorem merging_meets_specification (base : List Record)
    (others lists : List (List Record)) :
    (∀ merged, Intersects base others merged ↔ merged = intersection (base :: others)) ∧
      (∀ changed, SameIdSets others changed →
        intersection (base :: changed) = intersection (base :: others)) ∧
      (∀ merged, Unites lists merged ↔ merged = union lists) ∧
      union [union lists] = union lists := by
  refine ⟨fun merged => ⟨Intersects.eq_intersection, ?_⟩,
    fun changed => intersection_congr base,
    fun merged => ⟨Unites.eq_union, ?_⟩, ?_⟩
  · rintro rfl
    exact intersects_intersection base others
  · rintro rfl
    exact unites_union lists
  · have hdissolved := union_union [] lists []
    rwa [List.nil_append, List.nil_append, List.append_nil] at hdissolved

/-- What is repeated in the first list stays repeated in an intersection, but not in a
union. -/
example :
    intersection [[⟨"1", .empty⟩, ⟨"1", .empty⟩], [⟨"1", .empty⟩]] =
        [⟨"1", .empty⟩, ⟨"1", .empty⟩] ∧
      union [[⟨"1", .empty⟩, ⟨"1", .empty⟩], [⟨"1", .empty⟩]] = [⟨"1", .empty⟩] := by
  decide

end NestedQuery
