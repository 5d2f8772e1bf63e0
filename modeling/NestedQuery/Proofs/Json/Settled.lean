import NestedQuery.Json.Source

/-!
# Settled values

A value that was read is settled, however its members were written: the last of
repeated keys counts and the keys ascend.  So what is shown of settled values holds
of everything a document can hold.
-/

namespace NestedQuery

namespace Json

theorem itemsSettled_iff {items : List Json} :
    ItemsSettled items ↔ ∀ item ∈ items, item.Settled := by
  induction items with
  | nil => simp [ItemsSettled]
  | cons item items ih => rw [ItemsSettled, ih, List.forall_mem_cons]

theorem membersSettled_iff {members : List (String × Json)} :
    MembersSettled members ↔ ∀ member ∈ members, member.2.Settled := by
  induction members with
  | nil => simp [MembersSettled]
  | cons member members ih => rw [MembersSettled, ih, List.forall_mem_cons]

theorem settled_of_lookup {members : List (String × Json)} (hsettled : MembersSettled members)
    {name : String} {value : Json} (hlookup : members.lookup name = some value) :
    value.Settled := by
  obtain ⟨left, right, rfl, -⟩ := List.lookup_eq_some_iff.mp hlookup
  exact membersSettled_iff.mp hsettled (name, value) (by simp)

theorem mem_insertEntry {A : Type} {key : String} {value : A} {entry : String × A}
    {entries : List (String × A)} (hmem : entry ∈ insertEntry key value entries) :
    entry = (key, value) ∨ entry ∈ entries := by
  induction entries with
  | nil => exact Or.inl (List.mem_singleton.mp hmem)
  | cons head rest ih =>
      unfold insertEntry at hmem
      split at hmem
      · simpa using hmem
      · split at hmem
        · exact (List.mem_cons.mp hmem).imp_right (List.mem_cons_of_mem _)
        · rcases List.mem_cons.mp hmem with rfl | hmem
          · exact Or.inr List.mem_cons_self
          · exact (ih hmem).imp_right (List.mem_cons_of_mem _)

/-- The entries of a dictionary are among those it was made of. -/
theorem mem_of_mem_ofList {A : Type} {entry : String × A} {entries : List (String × A)}
    (hmem : entry ∈ (Dictionary.ofList entries).entries) : entry ∈ entries := by
  have hfold : ∀ (rest : List (String × A)) (table : Dictionary A),
      entry ∈ (rest.foldl (fun table entry => table.insert entry.1 entry.2)
        table).entries → entry ∈ rest ∨ entry ∈ table.entries := by
    intro rest
    induction rest with
    | nil => exact fun table hmem => Or.inr hmem
    | cons head rest ih =>
        intro table hmem
        rcases ih (table.insert head.1 head.2) hmem with hmem | hmem
        · exact Or.inl (List.mem_cons_of_mem _ hmem)
        · rcases mem_insertEntry hmem with rfl | hmem
          · exact Or.inl List.mem_cons_self
          · exact Or.inr hmem
  exact (hfold entries .empty hmem).resolve_right List.not_mem_nil

theorem insertEntry_of_forall_lt {A : Type} {key : String} {value : A}
    {entries : List (String × A)} (hlt : ∀ entry ∈ entries, entry.1 < key) :
    insertEntry key value entries = entries ++ [(key, value)] := by
  induction entries with
  | nil => rfl
  | cons head rest ih =>
      obtain ⟨hhead, hrest⟩ := List.forall_mem_cons.mp hlt
      have hge : ¬key < head.1 := fun hless => String.lt_irrefl _ (String.lt_trans hless hhead)
      have hne : key ≠ head.1 := fun heq => String.lt_irrefl key (heq ▸ hhead)
      rw [insertEntry, if_neg hge, if_neg hne, ih hrest]
      rfl

theorem foldl_insert_of_pairwise {A : Type} {entries : List (String × A)}
    {table : Dictionary A}
    (hordered : ((table.entries ++ entries).map Prod.fst).Pairwise (· < ·)) :
    (entries.foldl (fun table entry => table.insert entry.1 entry.2) table).entries =
      table.entries ++ entries := by
  induction entries generalizing table with
  | nil => simp
  | cons entry entries ih =>
      have hinsert : (table.insert entry.1 entry.2).entries = table.entries ++ [entry] := by
        apply insertEntry_of_forall_lt
        intro other hmem
        rw [List.map_append, List.pairwise_append] at hordered
        exact hordered.2.2 other.1 (List.mem_map_of_mem hmem) entry.1 List.mem_cons_self
      have hcons : table.entries ++ entry :: entries =
          (table.insert entry.1 entry.2).entries ++ entries := by
        rw [hinsert, List.append_assoc]
        rfl
      rw [List.foldl_cons, hcons]
      rw [hcons] at hordered
      exact ih hordered

theorem entries_ofList {A : Type} {entries : List (String × A)}
    (hordered : (entries.map Prod.fst).Pairwise (· < ·)) :
    (Dictionary.ofList entries).entries = entries :=
  @foldl_insert_of_pairwise A entries .empty hordered

theorem lookup_eq_none_of_not_mem {A : Type} {key : String} {entries : List (String × A)}
    (hkey : key ∉ entries.map Prod.fst) : entries.lookup key = none := by
  rw [List.lookup_eq_none_iff]
  intro entry hmem
  rw [bne_iff_ne]
  rintro rfl
  exact hkey (List.mem_map.mpr ⟨entry, hmem, rfl⟩)

theorem lookup_of_mem {A : Type} {key : String} {value : A} {entries : List (String × A)}
    (hdistinct : (entries.map Prod.fst).Nodup) (hmem : (key, value) ∈ entries) :
    entries.lookup key = some value := by
  induction entries with
  | nil => cases hmem
  | cons entry entries ih =>
      rw [List.map_cons, List.nodup_cons] at hdistinct
      rw [lookup_cons_eq_ite]
      rcases List.mem_cons.mp hmem with rfl | hmem
      · rw [if_pos rfl]
      · have hkey : key ≠ entry.1 := by
          rintro rfl
          exact hdistinct.1 (List.mem_map.mpr ⟨_, hmem, rfl⟩)
        rw [if_neg hkey]
        exact ih hdistinct.2 hmem

theorem lookup_foldl_insert {A : Type} {entries : List (String × A)} {table : Dictionary A}
    (hdistinct : (entries.map Prod.fst).Nodup) (key : String) :
    (entries.foldl (fun table entry => table.insert entry.1 entry.2)
      table).entries.lookup key = (entries.lookup key).or (table.entries.lookup key) := by
  induction entries generalizing table with
  | nil => rfl
  | cons entry entries ih =>
      obtain ⟨other, value⟩ := entry
      rw [List.map_cons, List.nodup_cons] at hdistinct
      rw [List.foldl_cons, ih hdistinct.2, Dictionary.insert, lookup_insertEntry,
        lookup_cons_eq_ite]
      split
      · rename_i heq
        subst heq
        rw [lookup_eq_none_of_not_mem hdistinct.1]
        rfl
      · rfl

theorem lookup_ofList {A : Type} {entries : List (String × A)}
    (hdistinct : (entries.map Prod.fst).Nodup) (key : String) :
    (Dictionary.ofList entries).entries.lookup key = entries.lookup key := by
  rw [Dictionary.ofList, lookup_foldl_insert hdistinct]
  exact Option.or_none

theorem settled_ofMembers {members : List (String × Json)}
    (hmembers : MembersSettled members) : (ofMembers members).Settled := by
  refine ⟨(Dictionary.ofList members).ordered, membersSettled_iff.mpr ?_⟩
  intro member hmem
  exact membersSettled_iff.mp hmembers member (mem_of_mem_ofList hmem)

mutual

/-- The value that a source stands for is settled. -/
theorem settled_of_json? : ∀ {source : Source} {value : Json},
    source.json? = some value → value.Settled
  | .null, _, rfl => trivial
  | .bool _, _, rfl => trivial
  | .number _, _, rfl => trivial
  | .string _, _, rfl => trivial
  | .array items, value, hvalue => by
      obtain ⟨values, hvalues, rfl⟩ := Option.map_eq_some_iff.mp hvalue
      exact itemsSettled_of_items? hvalues
  | .object members, value, hvalue => by
      obtain ⟨values, hvalues, rfl⟩ := Option.map_eq_some_iff.mp hvalue
      exact settled_ofMembers (membersSettled_of_members? hvalues)

theorem itemsSettled_of_items? : ∀ {items : List Source} {values : List Json},
    Source.items? items = some values → ItemsSettled values
  | [], _, rfl => trivial
  | item :: items, values, hvalues => by
      simp only [Source.items?, Option.bind_eq_bind, Option.bind_eq_some_iff] at hvalues
      obtain ⟨head, hhead, tail, htail, hvalues⟩ := hvalues
      cases hvalues
      exact ⟨settled_of_json? hhead, itemsSettled_of_items? htail⟩

theorem membersSettled_of_members? : ∀ {members : List (Option String × Source)}
    {values : List (String × Json)},
    Source.members? members = some values → MembersSettled values
  | [], _, rfl => trivial
  | (some key, source) :: members, values, hvalues => by
      simp only [Source.members?, Option.bind_eq_bind, Option.bind_eq_some_iff] at hvalues
      obtain ⟨head, hhead, tail, htail, hvalues⟩ := hvalues
      cases hvalues
      exact ⟨settled_of_json? hhead, membersSettled_of_members? htail⟩

end

mutual

/-- A settled value is the value it is written as. -/
theorem json?_ofJson : ∀ {value : Json}, value.Settled → (Source.ofJson value).json? = some value
  | .null, _ => rfl
  | .bool _, _ => rfl
  | .number _, _ => rfl
  | .string _, _ => rfl
  | .array items, hsettled => by
      rw [Source.ofJson, Source.json?, items?_ofItems hsettled]
      rfl
  | .object members, hsettled => by
      rw [Source.ofJson, Source.json?, members?_ofMembers hsettled.2, Option.map_some,
        ofMembers, entries_ofList hsettled.1]

theorem items?_ofItems : ∀ {items : List Json}, ItemsSettled items →
    Source.items? (Source.ofItems items) = some items
  | [], _ => rfl
  | item :: items, hsettled => by
      rw [Source.ofItems, Source.items?, json?_ofJson hsettled.1, items?_ofItems hsettled.2]
      rfl

theorem members?_ofMembers : ∀ {members : List (String × Json)}, MembersSettled members →
    Source.members? (Source.ofMembers members) = some members
  | [], _ => rfl
  | (key, value) :: members, hsettled => by
      rw [Source.ofMembers, Source.members?, json?_ofJson hsettled.1,
        members?_ofMembers hsettled.2]
      rfl

end

/-- An object of settled members stands for the settled object of them. -/
theorem json?_ofJson_object {members : List (String × Json)}
    (hsettled : MembersSettled members) :
    (Source.ofJson (.object members)).json? = some (ofMembers members) := by
  rw [Source.ofJson, Source.json?, members?_ofMembers hsettled, Option.map_some]

end Json

end NestedQuery
