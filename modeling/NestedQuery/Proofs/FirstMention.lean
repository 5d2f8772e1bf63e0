import Mathlib.Data.List.Perm.Basic

/-!
# The order of first mention

The names of one list can be put into the order in which another list mentions them first.
Lists in that order hold no name twice, and they are equal if they have the same names.

So the names that a list mentions beyond those that are listed already make up one list.
It grows at its end with the list that mentions them: by a name that is neither listed nor
there yet, and not by any other.
-/

namespace NestedQuery

theorem nodup_of_ordered_by_mention {mentioned names : List String}
    (hordered : names.Pairwise fun left right =>
      mentioned.idxOf left < mentioned.idxOf right) : names.Nodup := by
  refine hordered.imp fun {left right} hlt => ?_
  rintro rfl
  exact Nat.lt_irrefl _ hlt

/-- Two lists with the same names, both in the order of first mention, are one list. -/
theorem eq_of_ordered_by_mention {mentioned names others : List String}
    (hmem : ∀ name, name ∈ names ↔ name ∈ others)
    (hnames : names.Pairwise fun left right =>
      mentioned.idxOf left < mentioned.idxOf right)
    (hothers : others.Pairwise fun left right =>
      mentioned.idxOf left < mentioned.idxOf right) : names = others := by
  have hperm : names.Perm others := by
    rw [List.perm_ext_iff_of_nodup (nodup_of_ordered_by_mention hnames)
      (nodup_of_ordered_by_mention hothers)]
    exact hmem
  exact hperm.eq_of_pairwise
    (fun left right _ _ hlt hgt => absurd hlt (Nat.lt_asymm hgt)) hnames hothers

/-- The names that are mentioned but not listed, each once, in the order in which they are
mentioned first. -/
structure Introduces (listed mentioned added : List String) : Prop where
  mem_iff : ∀ name, name ∈ added ↔ name ∈ mentioned ∧ name ∉ listed
  distinct : added.Nodup
  ordered : added.Pairwise fun left right =>
    mentioned.idxOf left < mentioned.idxOf right

theorem introduces_nil (listed : List String) : Introduces listed [] [] where
  mem_iff name := by simp
  distinct := .nil
  ordered := .nil

section Introduces

variable {listed mentioned added : List String} {name : String}

/-- What is mentioned later does not change the order of what was mentioned before. -/
theorem Introduces.ordered_append (hadded : Introduces listed mentioned added)
    (later : List String) :
    added.Pairwise fun left right =>
      (mentioned ++ later).idxOf left < (mentioned ++ later).idxOf right := by
  refine hadded.ordered.imp_of_mem fun {left right} hleft hright hlt => ?_
  rw [List.idxOf_append_of_mem ((hadded.mem_iff left).mp hleft).1,
    List.idxOf_append_of_mem ((hadded.mem_iff right).mp hright).1]
  exact hlt

/-- A name that is there adds nothing when it is mentioned. -/
theorem Introduces.again (hadded : Introduces listed mentioned added)
    (hthere : name ∈ listed ++ added) : Introduces listed (mentioned ++ [name]) added where
  mem_iff other := by
    rw [hadded.mem_iff, List.mem_append, List.mem_singleton]
    constructor
    · rintro ⟨hmentioned, hnot⟩
      exact ⟨Or.inl hmentioned, hnot⟩
    · rintro ⟨hmentioned | rfl, hnot⟩
      · exact ⟨hmentioned, hnot⟩
      · have hmem : other ∈ added := (List.mem_append.mp hthere).resolve_left hnot
        exact (hadded.mem_iff other).mp hmem
  distinct := hadded.distinct
  ordered := hadded.ordered_append [name]

/-- A name that is not there yet is added last. -/
theorem Introduces.first (hadded : Introduces listed mentioned added)
    (hnew : name ∉ listed ++ added) :
    Introduces listed (mentioned ++ [name]) (added ++ [name]) := by
  rw [List.mem_append, not_or] at hnew
  obtain ⟨hlisted, hnot⟩ := hnew
  have hmentioned : name ∉ mentioned := fun hmem =>
    hnot ((hadded.mem_iff name).mpr ⟨hmem, hlisted⟩)
  have hordered : (added ++ [name]).Pairwise fun left right =>
      (mentioned ++ [name]).idxOf left < (mentioned ++ [name]).idxOf right := by
    apply List.pairwise_append.mpr
    refine ⟨hadded.ordered_append [name], List.pairwise_singleton _ _, ?_⟩
    intro left hleft right hright
    obtain rfl := List.mem_singleton.mp hright
    have hbefore : left ∈ mentioned := ((hadded.mem_iff left).mp hleft).1
    rw [List.idxOf_append_of_mem hbefore, List.idxOf_append_of_notMem hmentioned]
    exact Nat.lt_add_right _ (List.idxOf_lt_length_of_mem hbefore)
  refine ⟨?_, nodup_of_ordered_by_mention hordered, hordered⟩
  intro other
  have hother : other = name → other ∉ listed := by
    rintro rfl
    exact hlisted
  rw [List.mem_append, List.mem_append, List.mem_singleton, or_and_right,
    hadded.mem_iff, and_iff_left_of_imp hother]

theorem Introduces.unique {other : List String}
    (hadded : Introduces listed mentioned added)
    (hother : Introduces listed mentioned other) : added = other :=
  eq_of_ordered_by_mention
    (fun name => (hadded.mem_iff name).trans (hother.mem_iff name).symm)
    hadded.ordered hother.ordered

end Introduces

end NestedQuery
