/-!
# Gathering results

A list of results comes to the list of their values, or to the first failure among
them.
-/

namespace NestedQuery

/-- The failure of a result, if it is one. -/
def failureOf {E A : Type} : Except E A → Option E
  | .ok _ => none
  | .error error => some error

/-- The values of all results, or the first failure among them. -/
def gather {E A : Type} : List (Except E A) → Except E (List A)
  | [] => .ok []
  | .error error :: _ => .error error
  | .ok value :: results => (gather results).map (value :: ·)

section Gathering

variable {E A B : Type}

@[simp]
theorem failureOf_ok (value : A) : failureOf (.ok value : Except E A) = none := rfl

@[simp]
theorem failureOf_error (error : E) :
    failureOf (.error error : Except E A) = some error := rfl

@[simp]
theorem failureOf_map (result : Except E A) (f : A → B) :
    failureOf (result.map f) = failureOf result := by
  cases result <;> rfl

/-- A computation fails where it starts, or where it goes on to. -/
theorem failureOf_bind {result : Except E A} {next : A → Except E B}
    {first rest : Option E} (hfirst : failureOf result = first)
    (hrest : ∀ value, result = .ok value → failureOf (next value) = rest) :
    failureOf (result >>= next) = first.or rest := by
  cases result with
  | error error =>
      subst hfirst
      rfl
  | ok value =>
      subst hfirst
      exact hrest value rfl

theorem failureOf_eq_none_iff {result : Except E A} :
    failureOf result = none ↔ ∃ value, result = .ok value := by
  cases result <;> simp

theorem failureOf_eq_some_iff {result : Except E A} {error : E} :
    failureOf result = some error ↔ result = .error error := by
  cases result <;> simp

/-- A result without a value is known by its failure. -/
theorem failureOf_inj {left right : Except E Unit} :
    failureOf left = failureOf right ↔ left = right := by
  cases left <;> cases right <;> simp

theorem failureOf_gather (results : List (Except E A)) :
    failureOf (gather results) = results.findSome? failureOf := by
  induction results with
  | nil => rfl
  | cons result results ih =>
      cases result with
      | ok value => rw [gather, failureOf_map, ih, List.findSome?_cons, failureOf_ok]
      | error error => rfl

/-- The first failure of results in order is the first of all that is listed against
them. -/
theorem failureOf_gather_eq_head? {I : Type} {indices : List I}
    {result : I → Except E A} {faults : I → List E}
    (heach : ∀ index ∈ indices, failureOf (result index) = (faults index).head?) :
    failureOf (gather (indices.map result)) = (indices.flatMap faults).head? := by
  induction indices with
  | nil => rfl
  | cons index indices ih =>
      obtain ⟨hfirst, hrest⟩ := List.forall_mem_cons.mp heach
      rw [failureOf_gather, List.map_cons, List.findSome?_cons, hfirst,
        List.flatMap_cons, List.head?_append, ← ih hrest, failureOf_gather]
      cases (faults index).head? <;> rfl

theorem gather_append (left right : List (Except E A)) :
    gather (left ++ right) =
      (gather left).bind fun values => (gather right).map (values ++ ·) := by
  induction left with
  | nil => cases hright : gather right <;> simp [gather, hright, Except.bind, Except.map]
  | cons result left ih =>
      cases result with
      | error error => rfl
      | ok value =>
          rw [List.cons_append, gather, gather, ih]
          cases gather left with
          | error error => rfl
          | ok values => cases gather right <;> rfl

theorem mapM_eq_gather {I : Type} (result : I → Except E A) (indices : List I) :
    indices.mapM result = gather (indices.map result) := by
  induction indices with
  | nil => rfl
  | cons index indices ih =>
      rw [List.mapM_cons, List.map_cons, ih]
      cases result index with
      | error error => rfl
      | ok value =>
          rw [gather]
          cases gather (indices.map result) <;> rfl

theorem gather_map_ok (values : List A) :
    gather (values.map (Except.ok : A → Except E A)) = .ok values := by
  induction values with
  | nil => rfl
  | cons value values ih => rw [List.map_cons, gather, ih, Except.map]

theorem gather_map_eq_ok {I : Type} {indices : List I} {result : I → Except E A}
    {value : I → A} (heach : ∀ index ∈ indices, result index = .ok (value index)) :
    gather (indices.map result) = .ok (indices.map value) := by
  have hmap : indices.map result = (indices.map value).map .ok := by
    rw [List.map_map]
    exact List.map_congr_left heach
  rw [hmap, gather_map_ok]

theorem eq_map_ok_of_gather {results : List (Except E A)} {values : List A}
    (hgather : gather results = .ok values) : results = values.map .ok := by
  induction results generalizing values with
  | nil =>
      cases hgather
      rfl
  | cons result results ih =>
      cases result with
      | error error => cases hgather
      | ok value =>
          rw [gather] at hgather
          cases hrest : gather results with
          | error error =>
              rw [hrest] at hgather
              cases hgather
          | ok rest =>
              rw [hrest] at hgather
              cases hgather
              rw [ih hrest, List.map_cons]

theorem gather_eq_ok_iff {results : List (Except E A)} {values : List A} :
    gather results = .ok values ↔ results = values.map .ok := by
  constructor
  · exact eq_map_ok_of_gather
  · rintro rfl
    exact gather_map_ok values

theorem exists_of_gather {I : Type} {indices : List I} {result : I → Except E A}
    {values : List A} (hgather : gather (indices.map result) = .ok values) :
    ∀ index ∈ indices, ∃ value, result index = .ok value := by
  intro index hmem
  have hresult : result index ∈ indices.map result := List.mem_map_of_mem hmem
  rw [eq_map_ok_of_gather hgather] at hresult
  obtain ⟨value, -, hvalue⟩ := List.mem_map.mp hresult
  exact ⟨value, hvalue.symm⟩

theorem map_eq_ok_iff {result : Except E A} {f : A → B} {value : B} :
    result.map f = .ok value ↔ ∃ inner, result = .ok inner ∧ f inner = value := by
  cases result <;> simp [Except.map]

theorem bind_eq_ok_iff {result : Except E A} {next : A → Except E B} {value : B} :
    result.bind next = .ok value ↔
      ∃ inner, result = .ok inner ∧ next inner = .ok value := by
  cases result <;> simp [Except.bind]

theorem bind_eq_error_iff {result : Except E A} {next : A → Except E B} {error : E} :
    result.bind next = .error error ↔
      result = .error error ∨ ∃ inner, result = .ok inner ∧ next inner = .error error := by
  cases result <;> simp [Except.bind]

/-- Replacing a result by one with the same value, if it has any, keeps the
gathered values. -/
theorem gather_replace_eq_ok_iff {before after : Except E A}
    (hsame : ∀ value, before = .ok value ↔ after = .ok value)
    (left right : List (Except E A)) (values : List A) :
    gather (left ++ before :: right) = .ok values ↔
      gather (left ++ after :: right) = .ok values := by
  induction left generalizing values with
  | nil =>
      cases before with
      | ok value =>
          have hafter := (hsame value).mp rfl
          rw [hafter]
      | error error =>
          cases after with
          | ok value => cases (hsame value).mpr rfl
          | error other => simp [gather]
  | cons result left ih =>
      cases result with
      | error error => rfl
      | ok value =>
          rw [List.cons_append, List.cons_append, gather, gather, map_eq_ok_iff,
            map_eq_ok_iff]
          exact exists_congr fun rest => and_congr_left fun _ => ih rest

end Gathering

end NestedQuery
