import NestedQuery.Query.Record
import Mathlib.Data.List.Nodup
import Mathlib.Data.List.Perm.Basic

/-!
# Laws of merging

An identifier is in an intersection if it is in all lists and in a union if it
is in some list; the records of either are records of the lists, and a merge of
lists with distinct identifiers has distinct identifiers.

Lists that were selected from one list by conditions merge to the records
selected by the conjunction or the disjunction of the conditions.  The order of
the source survives an intersection whose first list has it.

A merge among the lists of a merge of the same kind can be dissolved into its own
lists, which changes nothing, not even the order.  An intersection must have lists
for that: of no lists it is empty, where dissolved it would not restrict the others.
-/

namespace NestedQuery

/-- No two records share an identifier. -/
def DistinctIds (records : List Record) : Prop :=
  (records.map Record.id).Nodup

theorem hasId_iff {records : List Record} {id : String} :
    hasId records id = true ↔ ∃ record ∈ records, record.id = id := by
  simp [hasId]

theorem hasId_of_mem {records : List Record} {record : Record}
    (hmem : record ∈ records) : hasId records record.id = true :=
  hasId_iff.mpr ⟨record, hmem, rfl⟩

/-! ## Intersections -/

theorem mem_intersection_cons {base : List Record} {others : List (List Record)}
    {record : Record} :
    record ∈ intersection (base :: others) ↔
      record ∈ base ∧ ∀ other ∈ others, hasId other record.id = true := by
  simp [intersection]

theorem hasId_intersection {lists : List (List Record)} (hne : lists ≠ [])
    {id : String} :
    hasId (intersection lists) id = true ↔ ∀ list ∈ lists, hasId list id = true := by
  cases lists with
  | nil => exact absurd rfl hne
  | cons base others =>
      rw [hasId_iff, List.forall_mem_cons]
      constructor
      · rintro ⟨record, hmem, rfl⟩
        rw [mem_intersection_cons] at hmem
        exact ⟨hasId_of_mem hmem.1, hmem.2⟩
      · rintro ⟨hbase, hothers⟩
        obtain ⟨record, hmem, rfl⟩ := hasId_iff.mp hbase
        exact ⟨record, mem_intersection_cons.mpr ⟨hmem, hothers⟩, rfl⟩

/-! ## Unions -/

theorem firstOfEachId_sublist (seen : List String) (records : List Record) :
    (firstOfEachId seen records).Sublist records := by
  induction records generalizing seen with
  | nil => exact List.Sublist.refl _
  | cons record records ih =>
      rw [firstOfEachId]
      split
      · exact (ih seen).cons record
      · exact (ih _).cons_cons record

theorem hasId_firstOfEachId (seen : List String) (records : List Record)
    (id : String) :
    hasId (firstOfEachId seen records) id = true ↔
      id ∉ seen ∧ hasId records id = true := by
  induction records generalizing seen with
  | nil => simp [firstOfEachId, hasId]
  | cons record records ih =>
      rw [firstOfEachId]
      by_cases hseen : seen.contains record.id = true
      · rw [if_pos hseen, ih]
        have hmem : record.id ∈ seen := List.contains_iff_mem.mp hseen
        simp only [hasId, List.any_cons, Bool.or_eq_true, beq_iff_eq]
        apply and_congr_right
        intro hnot
        have hne : record.id ≠ id := fun heq => hnot (heq ▸ hmem)
        simp [hne]
      · rw [if_neg hseen]
        have hnot : record.id ∉ seen := fun hmem =>
          hseen (List.contains_iff_mem.mpr hmem)
        have hih := ih (record.id :: seen)
        simp only [hasId, List.any_cons, Bool.or_eq_true, beq_iff_eq,
          List.mem_cons, not_or] at hih ⊢
        by_cases heq : record.id = id
        · subst heq
          simp [hnot]
        · rw [hih]
          simp [heq, Ne.symm heq]

theorem distinctIds_firstOfEachId (seen : List String) (records : List Record) :
    DistinctIds (firstOfEachId seen records) := by
  induction records generalizing seen with
  | nil => exact List.nodup_nil
  | cons record records ih =>
      rw [firstOfEachId]
      split
      · exact ih seen
      · refine List.nodup_cons.mpr ⟨fun hmem => ?_, ih _⟩
        obtain ⟨other, hother, hid⟩ := List.mem_map.mp hmem
        have hkept := (hasId_firstOfEachId _ _ other.id).mp (hasId_of_mem hother)
        exact hkept.1 (hid ▸ List.mem_cons_self)

theorem hasId_union {lists : List (List Record)} {id : String} :
    hasId (union lists) id = true ↔ ∃ list ∈ lists, hasId list id = true := by
  rw [union, hasId_firstOfEachId]
  simp only [hasId_iff, List.mem_flatten]
  constructor
  · rintro ⟨-, record, ⟨list, hlist, hmem⟩, hid⟩
    exact ⟨list, hlist, record, hmem, hid⟩
  · rintro ⟨list, hlist, record, hmem, hid⟩
    exact ⟨List.not_mem_nil, record, ⟨list, hlist, hmem⟩, hid⟩

/-! ## Both merges -/

theorem exists_mem_of_mem_merge (op : BoolOp) {lists : List (List Record)}
    {record : Record} (hmem : record ∈ merge op lists) :
    ∃ list ∈ lists, record ∈ list := by
  cases op with
  | and =>
      cases lists with
      | nil => cases hmem
      | cons base others =>
          exact ⟨base, List.mem_cons_self, (mem_intersection_cons.mp hmem).1⟩
  | or =>
      have hflat := (firstOfEachId_sublist [] lists.flatten).subset hmem
      exact List.mem_flatten.mp hflat

theorem distinctIds_merge {op : BoolOp} {lists : List (List Record)}
    (hdistinct : ∀ list ∈ lists, DistinctIds list) :
    DistinctIds (merge op lists) := by
  cases op with
  | and =>
      cases lists with
      | nil => exact List.nodup_nil
      | cons base others =>
          have hbase := hdistinct base List.mem_cons_self
          exact hbase.sublist (List.filter_sublist.map Record.id)
  | or => exact distinctIds_firstOfEachId _ _

/-! ## Merges of merges -/

/-- Only which identifiers were seen counts, not in which order. -/
theorem firstOfEachId_congr {seen other : List String}
    (hsame : ∀ id, id ∈ seen ↔ id ∈ other) (records : List Record) :
    firstOfEachId seen records = firstOfEachId other records := by
  induction records generalizing seen other with
  | nil => rfl
  | cons record records ih =>
      have hcontains : seen.contains record.id = other.contains record.id := by
        simp [hsame]
      have hnext : ∀ id, id ∈ record.id :: seen ↔ id ∈ record.id :: other := by
        simp [hsame]
      rw [firstOfEachId, firstOfEachId, hcontains, ih hsame, ih hnext]

theorem firstOfEachId_append (seen : List String) (left right : List Record) :
    firstOfEachId seen (left ++ right) =
      firstOfEachId seen left ++ firstOfEachId (left.map Record.id ++ seen) right := by
  induction left generalizing seen with
  | nil => rfl
  | cons record left ih =>
      rw [List.cons_append, firstOfEachId, firstOfEachId]
      by_cases hseen : seen.contains record.id = true
      · -- The identifier is listed twice now, which makes no difference.
        have hmem := List.contains_iff_mem.mp hseen
        rw [if_pos hseen, if_pos hseen, ih]
        congr 1
        apply firstOfEachId_congr
        intro id
        by_cases hid : id = record.id
        · simp [hid, hmem]
        · simp [hid]
      · rw [if_neg hseen, if_neg hseen, ih, List.cons_append]
        congr 2
        apply firstOfEachId_congr
        intro id
        simp [or_left_comm]

/-- Dropping repeated records first makes no difference. -/
theorem firstOfEachId_firstOfEachId {seen other : List String} (hsub : other ⊆ seen)
    (records : List Record) :
    firstOfEachId seen (firstOfEachId other records) = firstOfEachId seen records := by
  induction records generalizing seen other with
  | nil => rfl
  | cons record records ih =>
      rw [firstOfEachId, firstOfEachId]
      by_cases hother : other.contains record.id = true
      · have hseen : seen.contains record.id = true :=
          List.contains_iff_mem.mpr (hsub (List.contains_iff_mem.mp hother))
        rw [if_pos hother, if_pos hseen, ih hsub]
      · rw [if_neg hother, firstOfEachId]
        by_cases hseen : seen.contains record.id = true
        · have hmem := List.contains_iff_mem.mp hseen
          rw [if_pos hseen, if_pos hseen, ih (List.cons_subset.mpr ⟨hmem, hsub⟩)]
        · rw [if_neg hseen, if_neg hseen, ih (List.cons_subset_cons _ hsub)]

theorem hasId_intersection_eq_all {lists : List (List Record)} (hne : lists ≠ [])
    (id : String) : hasId (intersection lists) id = lists.all (hasId · id) := by
  rw [Bool.eq_iff_iff, hasId_intersection hne, List.all_eq_true]

theorem intersection_intersection (left : List (List Record))
    {inner : List (List Record)} (hne : inner ≠ []) (right : List (List Record)) :
    intersection (left ++ intersection inner :: right) =
      intersection (left ++ inner ++ right) := by
  cases left with
  | nil =>
      obtain ⟨base, others, rfl⟩ := List.exists_cons_of_ne_nil hne
      simp only [List.nil_append, List.cons_append, intersection, List.filter_filter,
        List.all_append, Bool.and_comm]
  | cons base others =>
      rw [List.cons_append, List.cons_append, List.cons_append, intersection, intersection]
      apply List.filter_congr
      intro record _
      simp only [List.all_append, List.all_cons, hasId_intersection_eq_all hne,
        Bool.and_assoc]

theorem union_union (left inner right : List (List Record)) :
    union (left ++ union inner :: right) = union (left ++ inner ++ right) := by
  have hids : ∀ id, id ∈ (union inner).map Record.id ++ left.flatten.map Record.id ↔
      id ∈ inner.flatten.map Record.id ++ left.flatten.map Record.id := by
    intro id
    have hinner := hasId_firstOfEachId [] inner.flatten id
    simp only [hasId_iff, List.not_mem_nil, not_false_eq_true, true_and] at hinner
    rw [List.mem_append, List.mem_append, List.mem_map, union, hinner, ← List.mem_map]
  calc union (left ++ union inner :: right)
      = firstOfEachId [] left.flatten ++
          (firstOfEachId (left.flatten.map Record.id) (union inner) ++
            firstOfEachId ((union inner).map Record.id ++ left.flatten.map Record.id)
              right.flatten) := by
        rw [union, List.flatten_append, List.flatten_cons, firstOfEachId_append,
          firstOfEachId_append, List.append_nil]
    _ = firstOfEachId [] left.flatten ++
          (firstOfEachId (left.flatten.map Record.id) inner.flatten ++
            firstOfEachId (inner.flatten.map Record.id ++ left.flatten.map Record.id)
              right.flatten) := by
        rw [firstOfEachId_congr hids, union, firstOfEachId_firstOfEachId (List.nil_subset _)]
    _ = union (left ++ inner ++ right) := by
        rw [union, List.append_assoc, List.flatten_append, List.flatten_append,
          firstOfEachId_append, firstOfEachId_append, List.append_nil]

/-- A merge among the lists of a merge of the same kind dissolves into its lists. -/
theorem merge_merge (op : BoolOp) (left : List (List Record))
    {inner : List (List Record)} (hne : inner ≠ []) (right : List (List Record)) :
    merge op (left ++ merge op inner :: right) = merge op (left ++ inner ++ right) := by
  cases op with
  | and => exact intersection_intersection left hne right
  | or => exact union_union left inner right

/-! ## Selections from one list -/

theorem eq_of_id_eq {records : List Record} (hdistinct : DistinctIds records)
    {left right : Record} (hleft : left ∈ records) (hright : right ∈ records)
    (hid : left.id = right.id) : left = right :=
  List.inj_on_of_nodup_map hdistinct hleft hright hid

/-- A selection holds the identifier of a record exactly if the record was
selected. -/
theorem hasId_selection {records list : List Record} {select : Record → Bool}
    (hdistinct : DistinctIds records) (hlist : list.Perm (records.filter select))
    {record : Record} (hmem : record ∈ records) :
    hasId list record.id = true ↔ select record = true := by
  rw [hasId_iff]
  constructor
  · rintro ⟨other, hother, hid⟩
    obtain ⟨hin, hselect⟩ := List.mem_filter.mp (hlist.mem_iff.mp hother)
    rwa [← eq_of_id_eq hdistinct hin hmem hid]
  · intro hselect
    exact ⟨record, hlist.mem_iff.mpr (List.mem_filter.mpr ⟨hmem, hselect⟩), rfl⟩

section Selections

variable {I : Type} {records : List Record} {select : I → Record → Bool}
variable {lists : I → List Record}

/-- An intersection of selections is its first list without the records that
some condition leaves out. -/
theorem intersection_selections (hdistinct : DistinctIds records)
    {index : I} {indices : List I}
    (hlists : ∀ i ∈ index :: indices, (lists i).Perm (records.filter (select i))) :
    intersection ((index :: indices).map lists) =
      (lists index).filter fun record => (index :: indices).all (select · record) := by
  obtain ⟨hfirst, hothers⟩ := List.forall_mem_cons.mp hlists
  rw [List.map_cons, intersection]
  apply List.filter_congr
  intro record hmem
  obtain ⟨hin, hselect⟩ := List.mem_filter.mp (hfirst.mem_iff.mp hmem)
  rw [List.all_map, List.all_cons, hselect, Bool.true_and, Bool.eq_iff_iff,
    List.all_eq_true, List.all_eq_true]
  apply forall_congr'
  intro other
  apply imp_congr_right
  intro hother
  exact hasId_selection hdistinct (hothers other hother) hin

/-- An intersection of selections is the selection by all conditions. -/
theorem intersection_perm_selection (hdistinct : DistinctIds records)
    {indices : List I} (hne : indices ≠ [])
    (hlists : ∀ i ∈ indices, (lists i).Perm (records.filter (select i))) :
    (intersection (indices.map lists)).Perm
      (records.filter fun record => indices.all (select · record)) := by
  obtain ⟨index, rest, rfl⟩ := List.exists_cons_of_ne_nil hne
  rw [intersection_selections hdistinct hlists]
  have hfirst := (hlists index List.mem_cons_self).filter
    fun record => (index :: rest).all (select · record)
  rw [List.filter_filter] at hfirst
  refine hfirst.trans (List.Perm.of_eq (List.filter_congr fun record _ => ?_))
  rw [List.all_cons, Bool.and_comm, ← Bool.and_assoc, Bool.and_self]

/-- An intersection of selections in the order of the source has that order. -/
theorem intersection_eq_selection (hdistinct : DistinctIds records)
    {indices : List I} (hne : indices ≠ [])
    (hlists : ∀ i ∈ indices, lists i = records.filter (select i)) :
    intersection (indices.map lists) =
      records.filter fun record => indices.all (select · record) := by
  obtain ⟨index, rest, rfl⟩ := List.exists_cons_of_ne_nil hne
  rw [intersection_selections hdistinct
    fun i hmem => List.Perm.of_eq (hlists i hmem), hlists index List.mem_cons_self,
    List.filter_filter]
  apply List.filter_congr
  intro record _
  rw [List.all_cons, Bool.and_comm, ← Bool.and_assoc, Bool.and_self]

/-- A union of selections is the selection by some condition. -/
theorem union_perm_selection (hdistinct : DistinctIds records) {indices : List I}
    (hlists : ∀ i ∈ indices, (lists i).Perm (records.filter (select i))) :
    (union (indices.map lists)).Perm
      (records.filter fun record => indices.any (select · record)) := by
  have hunion : (union (indices.map lists)).Nodup :=
    (distinctIds_firstOfEachId _ _).of_map Record.id
  have hsource : (records.filter fun record =>
      indices.any (select · record)).Nodup :=
    (List.Nodup.of_map Record.id hdistinct).filter _
  have hfrom : ∀ record ∈ union (indices.map lists), record ∈ records := by
    intro record hmem
    obtain ⟨list, hlist, hmem⟩ := exists_mem_of_mem_merge .or hmem
    obtain ⟨i, hi, rfl⟩ := List.mem_map.mp hlist
    exact (List.mem_filter.mp ((hlists i hi).mem_iff.mp hmem)).1
  have hselected : ∀ record ∈ records,
      (hasId (union (indices.map lists)) record.id = true ↔
        indices.any (select · record) = true) := by
    intro record hmem
    rw [hasId_union, List.any_eq_true]
    constructor
    · rintro ⟨list, hlist, hid⟩
      obtain ⟨i, hi, rfl⟩ := List.mem_map.mp hlist
      exact ⟨i, hi, (hasId_selection hdistinct (hlists i hi) hmem).mp hid⟩
    · rintro ⟨i, hi, hselect⟩
      exact ⟨lists i, List.mem_map_of_mem hi,
        (hasId_selection hdistinct (hlists i hi) hmem).mpr hselect⟩
  rw [List.perm_ext_iff_of_nodup hunion hsource]
  intro record
  rw [List.mem_filter]
  constructor
  · intro hmem
    have hin := hfrom record hmem
    exact ⟨hin, (hselected record hin).mp (hasId_of_mem hmem)⟩
  · rintro ⟨hin, hany⟩
    obtain ⟨other, hother, hid⟩ := hasId_iff.mp ((hselected record hin).mpr hany)
    rwa [← eq_of_id_eq hdistinct (hfrom other hother) hin hid]

end Selections

end NestedQuery
