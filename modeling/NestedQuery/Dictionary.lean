/-!
# Key-ordered dictionaries

Property tables, record payloads and free-form JSON objects hold one value per
key and list their keys in ascending order.  Strings compare by code point,
which is also the order of their UTF-8 bytes.  A dictionary is its list of
entries together with the proof that the keys ascend, so two dictionaries with
the same look-ups are the same value.
-/

namespace NestedQuery

/-- Puts a value into an ascending list of entries, replacing the entry of an
equal key. -/
def insertEntry {A : Type} (key : String) (value : A) :
    List (String × A) → List (String × A)
  | [] => [(key, value)]
  | (head, old) :: rest =>
      if key < head then (key, value) :: (head, old) :: rest
      else if key = head then (key, value) :: rest
      else (head, old) :: insertEntry key value rest

theorem mem_keys_insertEntry {A : Type} {key other : String} {value : A}
    {entries : List (String × A)}
    (hmem : other ∈ (insertEntry key value entries).map Prod.fst) :
    other = key ∨ other ∈ entries.map Prod.fst := by
  induction entries with
  | nil => simpa [insertEntry] using hmem
  | cons entry rest ih =>
      obtain ⟨head, old⟩ := entry
      unfold insertEntry at hmem
      split at hmem
      · simpa using hmem
      · split at hmem <;> simp_all
        grind

theorem pairwise_insertEntry {A : Type} (key : String) (value : A)
    {entries : List (String × A)}
    (hordered : (entries.map Prod.fst).Pairwise (· < ·)) :
    ((insertEntry key value entries).map Prod.fst).Pairwise (· < ·) := by
  induction entries with
  | nil => simp [insertEntry]
  | cons entry rest ih =>
      obtain ⟨head, old⟩ := entry
      simp only [List.map_cons, List.pairwise_cons] at hordered
      unfold insertEntry
      split
      · rename_i hlt
        simp only [List.map_cons, List.pairwise_cons, List.mem_cons]
        refine ⟨?_, hordered⟩
        rintro other (rfl | hother)
        · exact hlt
        · exact String.lt_trans hlt (hordered.1 other hother)
      · rename_i hge
        split
        · rename_i heq
          subst heq
          simpa using hordered
        · rename_i hne
          have hhead : head < key := String.not_le.mp fun hle =>
            hne (String.le_antisymm hle (String.not_lt.mp hge))
          simp only [List.map_cons, List.pairwise_cons]
          refine ⟨fun other hother => ?_, ih hordered.2⟩
          rcases mem_keys_insertEntry hother with rfl | hother
          · exact hhead
          · exact hordered.1 other hother

theorem lookup_cons_eq_ite {A : Type} (key other : String) (value : A)
    (entries : List (String × A)) :
    ((key, value) :: entries).lookup other =
      if other = key then some value else entries.lookup other := by
  by_cases hkey : other = key
  · subst hkey
    rw [List.lookup_cons_self, if_pos rfl]
  · rw [List.lookup_cons, beq_false_of_ne hkey, if_neg hkey]

theorem lookup_insertEntry {A : Type} (key other : String) (value : A)
    (entries : List (String × A)) :
    (insertEntry key value entries).lookup other =
      if other = key then some value else entries.lookup other := by
  induction entries with
  | nil => rw [insertEntry, lookup_cons_eq_ite]
  | cons entry rest ih =>
      obtain ⟨head, old⟩ := entry
      unfold insertEntry
      split
      · rw [lookup_cons_eq_ite]
      · split
        · rename_i heq
          subst heq
          rw [lookup_cons_eq_ite, lookup_cons_eq_ite]
          split <;> rfl
        · rename_i hne
          rw [lookup_cons_eq_ite, lookup_cons_eq_ite, ih]
          by_cases hhead : other = head
          · subst hhead
            rw [if_pos rfl, if_pos rfl, if_neg (Ne.symm hne)]
          · rw [if_neg hhead, if_neg hhead]

/-- Entries with strictly ascending keys. -/
structure Dictionary (A : Type) where
  entries : List (String × A)
  ordered : (entries.map Prod.fst).Pairwise (· < ·)
  deriving DecidableEq

namespace Dictionary

variable {A : Type}

protected def empty : Dictionary A := ⟨[], List.Pairwise.nil⟩

instance : Inhabited (Dictionary A) := ⟨Dictionary.empty⟩

def insert (table : Dictionary A) (key : String) (value : A) : Dictionary A :=
  ⟨insertEntry key value table.entries,
    pairwise_insertEntry key value table.ordered⟩

def get? (table : Dictionary A) (key : String) : Option A :=
  table.entries.lookup key

/-- The last value written for a key stands. -/
def ofList (entries : List (String × A)) : Dictionary A :=
  entries.foldl (fun table entry => table.insert entry.1 entry.2)
    Dictionary.empty

end Dictionary

end NestedQuery
