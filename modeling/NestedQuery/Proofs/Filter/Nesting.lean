import Mathlib.Data.List.Chain
import Mathlib.Order.MinMax
import NestedQuery.Proofs.Filter.Tree

/-!
# Nesting levels

A descent begins at a filter and goes from each group to one of its children, through
groups with children only.  The level of a filter is the length of its longest descent: it
exceeds a number just if the level of some child reaches that number, so a descent goes on
from child to child until there is a condition or an empty group.

The levels of the parts of a filter follow from this, and so does the level of a filter
with groups of one child put around it.
-/

namespace NestedQuery

namespace Filter

/-- The children of a group.  A condition has none. -/
def children : Filter → List Filter
  | .group _ children => children
  | .condition _ => []

/-- Groups with children that lie within one another, the outermost of them the filter
itself. -/
structure Descends (filter : Filter) (groups : List Filter) : Prop where
  head_eq : ∀ outermost ∈ groups.head?, outermost = filter
  children_ne_nil : ∀ group ∈ groups, group.children ≠ []
  nested : groups.IsChain fun outer inner => inner ∈ outer.children

/-- The filter within groups of one child, of the given operators from the outermost
on. -/
def wrapped (filter : Filter) (ops : List BoolOp) : Filter :=
  ops.foldr (fun op inner => .group op [inner]) filter

/-! ## The level of a group -/

theorem lt_groupLevel_iff {count : Nat} {children : List Filter} :
    count < groupLevel children ↔ ∃ child ∈ children, count ≤ child.level := by
  induction children with
  | nil => simp [groupLevel]
  | cons child children ih =>
      rw [groupLevel, lt_max_iff, Nat.lt_succ_iff, ih, List.exists_mem_cons_iff]

/-- An empty group has no child to reach a level by. -/
theorem lt_level_iff {filter : Filter} {count : Nat} :
    count < filter.level ↔ ∃ child ∈ filter.children, count ≤ child.level := by
  cases filter with
  | group op children => exact lt_groupLevel_iff
  | condition leaf => simp [level, children]

theorem level_lt_of_mem_children {filter child : Filter}
    (hmem : child ∈ filter.children) : child.level < filter.level :=
  lt_level_iff.mpr ⟨child, hmem, Nat.le_refl _⟩

theorem level_le_of_within {part whole : Filter} (hwithin : part.Within whole) :
    part.level ≤ whole.level := by
  induction hwithin with
  | refl => exact Nat.le_refl _
  | @child member op children hmem hwithin ih =>
      have hlt : member.level < (group op children).level :=
        level_lt_of_mem_children hmem
      exact Nat.le_of_lt (Nat.lt_of_le_of_lt ih hlt)

theorem level_wrapped (filter : Filter) (ops : List BoolOp) :
    (filter.wrapped ops).level = filter.level + ops.length := by
  induction ops with
  | nil => rfl
  | cons op ops ih =>
      calc (filter.wrapped (op :: ops)).level
          = groupLevel [filter.wrapped ops] := rfl
        _ = (filter.wrapped ops).level + 1 := Nat.max_zero _
        _ = filter.level + (op :: ops).length := by rw [ih]; rfl

/-! ## Descents -/

theorem descends_nil (filter : Filter) : filter.Descends [] where
  head_eq _ hmem := nomatch hmem
  children_ne_nil _ hmem := nomatch hmem
  nested := .nil

/-- A descent goes on from one of the children; it may end there at once. -/
theorem descends_cons_iff {filter group : Filter} {groups : List Filter} :
    filter.Descends (group :: groups) ↔
      group = filter ∧ ∃ child ∈ filter.children, child.Descends groups := by
  constructor
  · rintro ⟨hhead, hchildren, hnested⟩
    obtain rfl := hhead group rfl
    refine ⟨rfl, ?_⟩
    rw [List.forall_mem_cons] at hchildren
    rw [List.isChain_cons] at hnested
    cases groups with
    | nil =>
        obtain ⟨child, hchild⟩ := List.exists_mem_of_ne_nil _ hchildren.1
        exact ⟨child, hchild, descends_nil child⟩
    | cons inner groups =>
        refine ⟨inner, hnested.1 inner rfl, ?_, hchildren.2, hnested.2⟩
        rintro outermost ⟨rfl⟩
        rfl
  · rintro ⟨rfl, child, hchild, hdescent⟩
    constructor
    · rintro outermost ⟨rfl⟩
      rfl
    · exact List.forall_mem_cons.mpr
        ⟨List.ne_nil_of_mem hchild, hdescent.children_ne_nil⟩
    · refine List.isChain_cons.mpr ⟨?_, hdescent.nested⟩
      intro inner hinner
      rwa [hdescent.head_eq inner hinner]

/-- A level is reached by a descent of that length, and by no longer one. -/
theorem le_level_iff {filter : Filter} {count : Nat} :
    count ≤ filter.level ↔
      ∃ groups, groups.length = count ∧ filter.Descends groups := by
  -- One group of the descent is left behind with each step down to a child.
  induction count generalizing filter with
  | zero => exact iff_of_true (Nat.zero_le _) ⟨[], rfl, descends_nil filter⟩
  | succ count ih =>
      rw [Nat.succ_le_iff, lt_level_iff]
      constructor
      · rintro ⟨child, hchild, hlevel⟩
        obtain ⟨groups, rfl, hdescent⟩ := ih.mp hlevel
        exact ⟨filter :: groups, rfl,
          descends_cons_iff.mpr ⟨rfl, child, hchild, hdescent⟩⟩
      · rintro ⟨groups, hlength, hdescent⟩
        obtain ⟨group, groups, rfl⟩ := List.exists_cons_of_length_eq_add_one hlength
        obtain ⟨-, child, hchild, hrest⟩ := descends_cons_iff.mp hdescent
        exact ⟨child, hchild, ih.mpr ⟨groups, Nat.succ.inj hlength, hrest⟩⟩

/-- The level of a filter is the length of its longest descent.  So no part has a higher
level, a child has a lower one, and a group of one child around a filter adds one. -/
theorem level_measures_descents (filter : Filter) :
    (∀ count, count ≤ filter.level ↔
        ∃ groups, groups.length = count ∧ filter.Descends groups) ∧
      (∀ part : Filter, part.Within filter → part.level ≤ filter.level) ∧
      (∀ child ∈ filter.children, child.level < filter.level) ∧
      ∀ ops : List BoolOp, (filter.wrapped ops).level = filter.level + ops.length :=
  ⟨fun _ => le_level_iff, fun _ => level_le_of_within,
    fun _ => level_lt_of_mem_children, level_wrapped filter⟩

/-- A group whose longest descent ends before an empty group. -/
def aroundNothing : Filter :=
  .group .or [statusIs "Won", .group .and [.group .or [], statusIs "Open"]]

/-- The empty group in `aroundNothing` does not count, the two groups around it do. -/
theorem level_measures_descents_around_nothing :
    (group .or []).Within aroundNothing ∧ statusIs "Won" ∈ aroundNothing.children ∧
      aroundNothing.level = 2 ∧
      (∃ groups, groups.length = 2 ∧ aroundNothing.Descends groups) ∧
      ¬(∃ groups, groups.length = 3 ∧ aroundNothing.Descends groups) ∧
      (group .or []).level ≤ 2 ∧ (statusIs "Won").level < 2 ∧
      (aroundNothing.wrapped [.and, .or]).level = 4 := by
  obtain ⟨hdescents, hparts, hchildren, hwrapped⟩ :=
    level_measures_descents aroundNothing
  have hempty : (group .or []).Within aroundNothing :=
    .child (List.mem_cons_of_mem _ List.mem_cons_self)
      (.child List.mem_cons_self (.refl _))
  have hwon : statusIs "Won" ∈ aroundNothing.children := List.mem_cons_self
  have hlevel : aroundNothing.level = 2 := rfl
  refine ⟨hempty, hwon, hlevel, (hdescents 2).mp (Nat.le_refl 2), ?_,
    hparts _ hempty, hchildren _ hwon, hwrapped _⟩
  rw [← hdescents 3, hlevel]
  exact Nat.not_succ_le_self 2

end Filter

end NestedQuery
