import NestedQuery.Traced

/-!
# Laws of traced computations

Effects form a monoid, and the effects of a sequence of traced computations are
those of its parts in order.
-/

namespace NestedQuery

namespace Counters

theorem add_assoc (first second third : Counters) :
    first + second + third = first + (second + third) := by
  simp only [HAdd.hAdd, Add.add, Counters.mk.injEq]
  exact ⟨UInt64.add_assoc .., UInt64.add_assoc .., UInt64.add_assoc ..,
    UInt64.add_assoc .., UInt64.add_assoc .., UInt64.add_assoc ..,
    UInt64.add_assoc ..⟩

theorem add_zero (counters : Counters) : counters + {} = counters := by
  obtain ⟨_, _, _, _, _, _, _⟩ := counters
  simp only [HAdd.hAdd, Add.add, Counters.mk.injEq]
  exact ⟨UInt64.add_zero .., UInt64.add_zero .., UInt64.add_zero ..,
    UInt64.add_zero .., UInt64.add_zero .., UInt64.add_zero ..,
    UInt64.add_zero ..⟩

theorem zero_add (counters : Counters) : {} + counters = counters := by
  obtain ⟨_, _, _, _, _, _, _⟩ := counters
  simp only [HAdd.hAdd, Add.add, Counters.mk.injEq]
  exact ⟨UInt64.zero_add .., UInt64.zero_add .., UInt64.zero_add ..,
    UInt64.zero_add .., UInt64.zero_add .., UInt64.zero_add ..,
    UInt64.zero_add ..⟩

end Counters

namespace Effects

@[ext]
theorem ext {left right : Effects} (hsent : left.sent = right.sent)
    (hcounted : left.counted = right.counted)
    (hlogged : left.logged = right.logged) : left = right := by
  cases left
  cases right
  cases hsent
  cases hcounted
  cases hlogged
  rfl

@[simp]
theorem sent_append (first second : Effects) :
    (first ++ second).sent = first.sent ++ second.sent := rfl

@[simp]
theorem counted_append (first second : Effects) :
    (first ++ second).counted = first.counted + second.counted := rfl

@[simp]
theorem logged_append (first second : Effects) :
    (first ++ second).logged = first.logged ++ second.logged := rfl

@[simp]
theorem append_empty (effects : Effects) : effects ++ ({} : Effects) = effects := by
  apply Effects.ext
  · exact List.append_nil _
  · exact Counters.add_zero _
  · exact List.append_nil _

@[simp]
theorem empty_append (effects : Effects) : ({} : Effects) ++ effects = effects := by
  apply Effects.ext
  · exact List.nil_append _
  · exact Counters.zero_add _
  · exact List.nil_append _

theorem append_assoc (first second third : Effects) :
    first ++ second ++ third = first ++ (second ++ third) := by
  apply Effects.ext
  · exact List.append_assoc _ _ _
  · exact Counters.add_assoc _ _ _
  · exact List.append_assoc _ _ _

/-- The effects of a list, one after the other. -/
def concat (parts : List Effects) : Effects := parts.foldr (· ++ ·) {}

@[simp]
theorem concat_nil : concat [] = {} := rfl

@[simp]
theorem concat_cons (first : Effects) (rest : List Effects) :
    concat (first :: rest) = first ++ concat rest := rfl

theorem sent_concat (parts : List Effects) : (concat parts).sent = parts.flatMap sent := by
  induction parts with
  | nil => rfl
  | cons first rest ih => rw [concat_cons, sent_append, ih, List.flatMap_cons]

theorem logged_concat (parts : List Effects) :
    (concat parts).logged = parts.flatMap logged := by
  induction parts with
  | nil => rfl
  | cons first rest ih => rw [concat_cons, logged_append, ih, List.flatMap_cons]

end Effects

namespace Traced

variable {A B : Type}

@[simp]
theorem value_pure (value : A) : (pure value : Traced A).value = value := rfl

@[simp]
theorem effects_pure (value : A) : (pure value : Traced A).effects = {} := rfl

@[simp]
theorem value_bind (first : Traced A) (next : A → Traced B) :
    (first >>= next).value = (next first.value).value := rfl

@[simp]
theorem effects_bind (first : Traced A) (next : A → Traced B) :
    (first >>= next).effects = first.effects ++ (next first.value).effects := rfl

end Traced

end NestedQuery
