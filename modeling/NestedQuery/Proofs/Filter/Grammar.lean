import NestedQuery.Proofs.Filter.Rendering
import NestedQuery.Proofs.Json.Settled

/-!
# The grammar of wire forms

What reads as a filter is given by a grammar that does not mention the reader.  A
group lists its children under one of the two group keys and may have other members;
a condition has a body under one key besides the property.  Whatever the grammar does
not derive is refused as malformed.

A value may say the same filter with members that mean nothing: those beside the list
of a group, and a property that is null or empty.  The wire form of the filter that
was read is the value without them.  Operands are left as they are, also where they
look like filters.
-/

namespace NestedQuery

/-! ## Entries in ascending order -/

section Entries

variable {A : Type} {key : String} {value : A} {entries : List (String × A)}

/-- In an ascending list an entry is put back in its place. -/
theorem insertEntry_filter (hordered : (entries.map Prod.fst).Pairwise (· < ·))
    (hlookup : entries.lookup key = some value) :
    insertEntry key value (entries.filter fun entry => entry.1 != key) = entries := by
  induction entries with
  | nil => cases hlookup
  | cons entry rest ih =>
      obtain ⟨head, old⟩ := entry
      simp only [List.map_cons, List.pairwise_cons] at hordered
      obtain ⟨hhead, hrest⟩ := hordered
      rw [lookup_cons_eq_ite] at hlookup
      by_cases hkey : key = head
      · subst hkey
        have hlater : ∀ entry ∈ rest, key < entry.1 := fun entry hmem =>
          hhead entry.1 (List.mem_map_of_mem hmem)
        have hkept : rest.filter (fun entry => entry.1 != key) = rest :=
          List.filter_eq_self.mpr fun entry hmem =>
            bne_iff_ne.mpr (String.ne_of_lt (hlater entry hmem)).symm
        rw [if_pos rfl, Option.some.injEq] at hlookup
        subst hlookup
        rw [List.filter_cons_of_neg (by simp), hkept]
        cases rest with
        | nil => rfl
        | cons next more => rw [insertEntry, if_pos (hlater next List.mem_cons_self)]
      · rw [if_neg hkey] at hlookup
        obtain ⟨left, right, rfl, -⟩ := List.lookup_eq_some_iff.mp hlookup
        have hlt : head < key := hhead key (by simp)
        rw [List.filter_cons_of_pos (by simpa using Ne.symm hkey), insertEntry,
          if_neg (String.lt_asymm hlt), if_neg hkey, ih hrest hlookup]

/-- Two entries of different keys may be inserted in either order. -/
theorem insertEntry_singleton_comm {other : String} (hne : key ≠ other) (value late : A) :
    insertEntry key value [(other, late)] = insertEntry other late [(key, value)] := by
  by_cases hlt : key < other
  · simp [insertEntry, hlt, String.lt_asymm hlt, hne.symm]
  · have hgt : other < key := String.not_le.mp fun hle =>
      hne (String.le_antisymm hle (String.not_lt.mp hlt))
    simp [insertEntry, hgt, hlt, hne]

end Entries

namespace Filter

/-! ## Derivations -/

/-- The wire forms of filters. -/
inductive Derivable : Json → Prop
  | group {members : List (String × Json)} {op : BoolOp} {items : List Json}
      (hlisted : members.lookup op.key = some (.array items))
      (hsole : ∀ other : BoolOp, other ≠ op → members.lookup other.key = none)
      (hne : items ≠ []) (hitems : ∀ item ∈ items, Derivable item) :
      Derivable (.object members)
  | condition {members : List (String × Json)} {kind operator : String}
      {operand : Json} (hkeys : ∀ op : BoolOp, members.lookup op.key = none)
      (hproperty : ∀ value, members.lookup "property" = some value →
        value = .null ∨ ∃ name, value = .string name)
      (hbody : members.filter (fun member => member.1 != "property") =
        [(kind, .object [(operator, operand)])]) :
      Derivable (.object members)

theorem outline_eq_group_iff {value children : Json} {op : BoolOp} :
    outline value = .group op children ↔
      ∃ members, value = .object members ∧ members.lookup op.key = some children ∧
        ∀ other : BoolOp, other ≠ op → members.lookup other.key = none := by
  constructor
  · intro hgroup
    obtain ⟨members, rfl, hlookup⟩ := outline_eq_group hgroup
    refine ⟨members, rfl, hlookup, fun other hother => ?_⟩
    rw [outline] at hgroup
    cases op <;> cases other
    · exact absurd rfl hother
    · cases hor : members.lookup BoolOp.or.key <;> simp_all
    · cases hand : members.lookup BoolOp.and.key <;> simp_all
    · exact absurd rfl hother
  · rintro ⟨members, rfl, hlookup, hsole⟩
    cases op with
    | and => simp [outline, hlookup, hsole .or]
    | or => simp [outline, hlookup, hsole .and]

/-- What the property of a condition is read from. -/
theorem readProperty_eq_ok_iff {members : List (String × Json)}
    {property : Option String} :
    readProperty members = .ok property ↔
      match members.lookup "property" with
      | none | some .null => property = none
      | some (.string name) => property = if name = "" then none else some name
      | some _ => False := by
  rw [readProperty]
  cases members.lookup "property" with
  | none => simp [eq_comm]
  | some value => cases value <;> simp [malformed, eq_comm]

theorem exists_readProperty_iff {members : List (String × Json)} :
    (∃ property, readProperty members = .ok property) ↔
      ∀ value, members.lookup "property" = some value →
        value = .null ∨ ∃ name, value = .string name := by
  simp only [readProperty_eq_ok_iff]
  cases members.lookup "property" with
  | none => simp
  | some value => cases value <;> simp

/-- Whatever reads as a filter is derivable, and the other way round. -/
theorem exists_readNode_iff {value : Json} :
    (∃ filter, readNode .structureOnly value = .ok filter) ↔ Derivable value := by
  constructor
  · rintro ⟨filter, hread⟩
    induction value using outline_induct generalizing filter with
    | node value ih =>
        cases houtline : outline value with
        | foreign kind =>
            rw [readNode_eq_outline, houtline] at hread
            cases hread
        | ambiguous =>
            rw [readNode_eq_outline, houtline] at hread
            cases hread
        | leaf members =>
            rw [readNode_of_leaf houtline] at hread
            obtain ⟨leaf, -, hproperty, -, hbody, -⟩ := readCondition_eq_ok_iff.mp hread
            obtain ⟨rfl, hkeys⟩ := outline_eq_leaf_iff.mp houtline
            exact .condition hkeys (exists_readProperty_iff.mp ⟨_, hproperty⟩) hbody
        | group op children =>
            rw [readNode_of_group houtline] at hread
            obtain ⟨filters, hchildren, rfl⟩ := map_eq_ok_iff.mp hread
            obtain ⟨items, rfl, hne, hitems⟩ := readChildren_eq_ok_iff.mp hchildren
            obtain ⟨members, rfl, hlisted, hsole⟩ := outline_eq_group_iff.mp houtline
            refine .group hlisted hsole hne fun item hmem => ?_
            have hitem : readNode .structureOnly item ∈ filters.map Except.ok := by
              rw [← hitems]
              exact List.mem_map_of_mem hmem
            obtain ⟨child, -, hchild⟩ := List.mem_map.mp hitem
            exact ih op items houtline item hmem child hchild.symm
  · intro hvalue
    induction hvalue with
    | @group members op items hlisted hsole hne _ ih =>
        have houtline := outline_eq_group_iff.mpr ⟨members, rfl, hlisted, hsole⟩
        choose! child hchild using ih
        have hread : readChildren .structureOnly op (.array items) =
            .ok (items.map child) := by
          refine readChildren_eq_ok_iff.mpr ⟨items, rfl, hne, ?_⟩
          rw [List.map_map]
          exact List.map_congr_left hchild
        refine ⟨.group op (items.map child), ?_⟩
        rw [readNode_of_group houtline, hread, Except.map]
    | @condition members kind operator operand hkeys hproperty hbody =>
        obtain ⟨property, hread⟩ := exists_readProperty_iff.mpr hproperty
        have houtline := outline_eq_leaf_iff.mpr ⟨rfl, hkeys⟩
        refine ⟨.condition ⟨property, kind, operator, operand⟩, ?_⟩
        rw [readNode_of_leaf houtline]
        exact readCondition_eq_ok_iff.mpr ⟨_, rfl, hread, rfl, hbody, rfl⟩

/-! ## Refusals -/

/-- Whether a result is refused for its structure, if it is refused. -/
def RefusesStructure {A : Type} (result : Except Rejection A) : Prop :=
  ∀ why, result = .error why → ∃ flaw, why = .malformed flaw

theorem RefusesStructure.ok {A : Type} (value : A) :
    RefusesStructure (.ok value : Except Rejection A) := by
  rintro why ⟨⟩

theorem RefusesStructure.malformed {A : Type} (flaw : Malformation) :
    RefusesStructure (Filter.malformed flaw : Except Rejection A) := by
  rintro why ⟨⟩
  exact ⟨flaw, rfl⟩

theorem RefusesStructure.bind {A B : Type} {first : Except Rejection A}
    {next : A → Except Rejection B} (hfirst : RefusesStructure first)
    (hnext : ∀ value, RefusesStructure (next value)) :
    RefusesStructure (first >>= next) := by
  cases first with
  | error why =>
      rintro other ⟨⟩
      exact hfirst why rfl
  | ok value => exact hnext value

theorem RefusesStructure.map {A B : Type} {result : Except Rejection A}
    (hresult : RefusesStructure result) (make : A → B) :
    RefusesStructure (result.map make) := by
  cases result with
  | error why =>
      rintro other ⟨⟩
      exact hresult why rfl
  | ok value => exact .ok (make value)

theorem refusesStructure_readProperty (members : List (String × Json)) :
    RefusesStructure (readProperty members) := by
  rw [readProperty]
  split
  · exact .ok _
  · exact .ok _
  · exact .ok _
  · exact .malformed _

theorem refusesStructure_readKind (members : List (String × Json)) :
    RefusesStructure (readKind members) := by
  rw [readKind]
  split
  · exact .ok _
  · exact .malformed _
  · exact .malformed _

theorem refusesStructure_readBody (kind : String) (body : Json) :
    RefusesStructure (readBody kind body) := by
  rw [readBody.eq_def]
  split
  · exact .ok _
  · exact .malformed _
  · exact .malformed _

theorem refusesStructure_readCondition (members : List (String × Json)) :
    RefusesStructure (readCondition .structureOnly members) := by
  rw [readCondition]
  apply (refusesStructure_readProperty members).bind
  intro property
  apply (RefusesStructure.ok _).bind
  intro _
  apply (refusesStructure_readKind members).bind
  intro entry
  apply (refusesStructure_readBody entry.1 entry.2).bind
  intro comparison
  apply (RefusesStructure.ok _).bind
  exact fun _ => .ok _

theorem refusesStructure_readAll {items : List Json}
    (hitems : ∀ item ∈ items, RefusesStructure (readNode .structureOnly item)) :
    RefusesStructure (readAll .structureOnly items) := by
  induction items with
  | nil => exact .ok _
  | cons item items ih =>
      obtain ⟨hitem, hrest⟩ := List.forall_mem_cons.mp hitems
      rw [readAll]
      apply hitem.bind
      intro head
      apply (ih hrest).bind
      exact fun tail => .ok _

theorem refusesStructure_readNode (value : Json) :
    RefusesStructure (readNode .structureOnly value) := by
  induction value using outline_induct with
  | node value ih =>
      rw [readNode_eq_outline]
      cases houtline : outline value with
      | foreign kind => exact .malformed _
      | ambiguous => exact .malformed _
      | leaf members => exact refusesStructure_readCondition members
      | group op children =>
          apply RefusesStructure.map
          rcases exists_items_or_malformed op children with
            ⟨items, rfl, hne⟩ | ⟨flaw, hflaw⟩
          · rw [readChildren_array hne]
            exact refusesStructure_readAll (ih op items houtline)
          · rw [hflaw]
            exact .malformed flaw

/-! ## Members that mean nothing -/

/-- Whether a member is a property that names nothing. -/
def isVoidProperty : String × Json → Bool
  | (key, .null) => key == "property"
  | (key, .string name) => key == "property" && name == ""
  | _ => false

mutual

/-- A value without the members that mean nothing to the filter it is read as. -/
def tidied : Json → Json
  | .object members =>
      if members.any fun member => (BoolOp.ofKey? member.1).isSome then
        .object (tidiedGroup members)
      else .object (members.filter (!isVoidProperty ·))
  | value => value

/-- Of the members of a group the lists of children. -/
def tidiedGroup : List (String × Json) → List (String × Json)
  | [] => []
  | (key, value) :: members =>
      if (BoolOp.ofKey? key).isSome then
        (key, tidiedChildren value) :: tidiedGroup members
      else tidiedGroup members

def tidiedChildren : Json → Json
  | .array items => .array (tidiedItems items)
  | value => value

def tidiedItems : List Json → List Json
  | [] => []
  | item :: items => tidied item :: tidiedItems items

end

/-- Somewhere in a value stands a member that means nothing: beside the list of a
group, or as a property that names nothing. -/
inductive HasSurplus : Json → Prop
  | beside {members : List (String × Json)} {op : BoolOp} {key : String}
      {children value : Json} (hlisted : (op.key, children) ∈ members)
      (hmem : (key, value) ∈ members) (hkey : ∀ other : BoolOp, key ≠ other.key) :
      HasSurplus (.object members)
  | child {members : List (String × Json)} {op : BoolOp} {items : List Json}
      {item : Json} (hlisted : (op.key, .array items) ∈ members)
      (hmem : item ∈ items) (hitem : HasSurplus item) : HasSurplus (.object members)
  | property {members : List (String × Json)} {value : Json}
      (hkeys : ∀ op : BoolOp, members.lookup op.key = none)
      (hmem : ("property", value) ∈ members)
      (hvoid : value = .null ∨ value = .string "") : HasSurplus (.object members)

theorem tidiedItems_eq_map (items : List Json) :
    tidiedItems items = items.map tidied := by
  induction items with
  | nil => rfl
  | cons item items ih => rw [tidiedItems, ih, List.map_cons]

theorem tidiedGroup_eq_map (members : List (String × Json)) :
    tidiedGroup members =
      (members.filter fun member => (BoolOp.ofKey? member.1).isSome).map
        fun member => (member.1, tidiedChildren member.2) := by
  induction members with
  | nil => rfl
  | cons member members ih =>
      rw [tidiedGroup, List.filter_cons]
      split <;> simp [ih]

theorem isSome_ofKey?_iff {key : String} :
    (BoolOp.ofKey? key).isSome ↔ ∃ op : BoolOp, key = op.key := by
  simp only [BoolOp.ofKey?, List.find?_isSome]
  constructor
  · rintro ⟨op, -, hop⟩
    exact ⟨op, (beq_iff_eq.mp hop).symm⟩
  · rintro ⟨op, rfl⟩
    exact ⟨op, by cases op <;> simp, beq_self_eq_true _⟩

theorem isVoidProperty_iff {key : String} {value : Json} :
    isVoidProperty (key, value) = true ↔
      key = "property" ∧ (value = .null ∨ value = .string "") := by
  cases value <;> simp [isVoidProperty]

theorem tidied_of_mem {members : List (String × Json)} {op : BoolOp} {children : Json}
    (hlisted : (op.key, children) ∈ members) :
    tidied (.object members) = .object (tidiedGroup members) := by
  rw [tidied, if_pos]
  exact List.any_eq_true.mpr ⟨_, hlisted, isSome_ofKey?_iff.mpr ⟨op, rfl⟩⟩

theorem tidied_of_no_key {members : List (String × Json)}
    (hkeys : ∀ op : BoolOp, members.lookup op.key = none) :
    tidied (.object members) = .object (members.filter (!isVoidProperty ·)) := by
  rw [tidied, if_neg]
  intro hany
  obtain ⟨member, hmem, hkey⟩ := List.any_eq_true.mp hany
  obtain ⟨op, hop⟩ := isSome_ofKey?_iff.mp hkey
  have hne := List.lookup_eq_none_iff.mp (hkeys op) member hmem
  exact bne_iff_ne.mp hne hop.symm

/-- A group of which nothing is taken away has lists of children only, and nothing is
taken away from those. -/
theorem tidiedGroup_eq_self_iff {members : List (String × Json)} :
    tidiedGroup members = members ↔
      ∀ member ∈ members, (BoolOp.ofKey? member.1).isSome ∧
        tidiedChildren member.2 = member.2 := by
  induction members with
  | nil => simp [tidiedGroup]
  | cons member members ih =>
      obtain ⟨key, value⟩ := member
      rw [tidiedGroup, List.forall_mem_cons, ← ih]
      by_cases hkey : (BoolOp.ofKey? key).isSome
      · simp [hkey]
      · have hshort : (tidiedGroup members).length ≤ members.length := by
          rw [tidiedGroup_eq_map, List.length_map]
          exact List.length_filter_le _ _
        rw [if_neg hkey]
        constructor
        · intro heq
          have hlength := congrArg List.length heq
          rw [List.length_cons] at hlength
          omega
        · exact fun hboth => absurd hboth.1.1 hkey

theorem tidiedItems_eq_self_iff {items : List Json} :
    tidiedItems items = items ↔ ∀ item ∈ items, tidied item = item := by
  induction items with
  | nil => simp [tidiedItems]
  | cons item items ih => rw [tidiedItems, List.cons.injEq, ih, List.forall_mem_cons]

/-- Nothing is taken away from a value without members that mean nothing. -/
theorem tidied_of_not_hasSurplus : ∀ value : Json, ¬HasSurplus value → tidied value = value
  | .object members, hclean => by
      by_cases hkeys : ∀ op : BoolOp, members.lookup op.key = none
      · rw [tidied_of_no_key hkeys, List.filter_eq_self.mpr]
        intro member hmem
        rw [Bool.not_eq_true', Bool.eq_false_iff]
        intro hvoid
        obtain ⟨key, value⟩ := member
        obtain ⟨rfl, hvalue⟩ := isVoidProperty_iff.mp hvoid
        exact hclean (.property hkeys hmem hvalue)
      · obtain ⟨op, hop⟩ := not_forall.mp hkeys
        obtain ⟨children, hlookup⟩ := Option.ne_none_iff_exists'.mp hop
        obtain ⟨left, right, hsplit, -⟩ := List.lookup_eq_some_iff.mp hlookup
        have hlisted : (op.key, children) ∈ members := by simp [hsplit]
        rw [tidied_of_mem hlisted, tidiedGroup_eq_self_iff.mpr]
        intro member _hmem
        have hsome : (BoolOp.ofKey? member.1).isSome := by
          rw [isSome_ofKey?_iff]
          by_contra hnone
          exact hclean (.beside hlisted _hmem (not_exists.mp hnone))
        obtain ⟨key, value⟩ := member
        obtain ⟨other, rfl⟩ := isSome_ofKey?_iff.mp hsome
        refine ⟨hsome, ?_⟩
        cases value with
        | array items =>
            change Json.array (tidiedItems items) = .array items
            rw [tidiedItems_eq_self_iff.mpr]
            exact fun item _hitem => tidied_of_not_hasSurplus item
              fun hsurplus => hclean (.child _hmem _hitem hsurplus)
        | null => rfl
        | bool value => rfl
        | number value => rfl
        | string value => rfl
        | object members => rfl
  | .null, _ => rfl
  | .bool _, _ => rfl
  | .number _, _ => rfl
  | .string _, _ => rfl
  | .array _, _ => rfl
termination_by value => sizeOf value
decreasing_by
  have hitem := List.sizeOf_lt_of_mem _hitem
  have hmember := List.sizeOf_lt_of_mem _hmem
  simp_all
  omega

/-- A value of which nothing is taken away is one without members that mean
nothing. -/
theorem tidied_eq_self_iff {value : Json} : tidied value = value ↔ ¬HasSurplus value := by
  refine ⟨fun heq hsurplus => ?_, tidied_of_not_hasSurplus value⟩
  induction hsurplus with
  | beside hlisted hmem hkey =>
      rw [tidied_of_mem hlisted, Json.object.injEq, tidiedGroup_eq_self_iff] at heq
      obtain ⟨op, hop⟩ := isSome_ofKey?_iff.mp (heq _ hmem).1
      exact hkey op hop
  | child hlisted hmem hitem ih =>
      rw [tidied_of_mem hlisted, Json.object.injEq, tidiedGroup_eq_self_iff] at heq
      have hitems := (heq _ hlisted).2
      rw [tidiedChildren, Json.array.injEq] at hitems
      exact ih (tidiedItems_eq_self_iff.mp hitems _ hmem)
  | property hkeys hmem hvoid =>
      rw [tidied_of_no_key hkeys, Json.object.injEq, List.filter_eq_self] at heq
      have hkept := heq _ hmem
      rw [isVoidProperty_iff.mpr ⟨rfl, hvoid⟩] at hkept
      cases hkept

/-! ## The wire form of what was read -/

theorem toJson_eq_tidied_of_condition {members : List (String × Json)} {filter : Filter}
    (hordered : (members.map Prod.fst).Pairwise (· < ·))
    (hkeys : ∀ op : BoolOp, members.lookup op.key = none)
    (hread : readCondition .structureOnly members = .ok filter) :
    filter.toJson = tidied (.object members) := by
  obtain ⟨⟨property, kind, operator, operand⟩, rfl, hproperty, -, hbody, -⟩ :=
    readCondition_eq_ok_iff.mp hread
  dsimp only at hproperty hbody
  have hkind : kind ≠ "property" := by
    have hlisted := List.mem_singleton_self (kind, Json.object [(operator, operand)])
    rw [← hbody, List.mem_filter] at hlisted
    exact bne_iff_ne.mp hlisted.2
  rw [readProperty_eq_ok_iff] at hproperty
  rw [tidied_of_no_key hkeys, toJson, Condition.toJson_eq_insertEntry, Json.object.injEq]
  cases hlookup : members.lookup "property" with
  | none =>
      have hall : members = [(kind, .object [(operator, operand)])] := by
        rw [← hbody, eq_comm, List.filter_eq_self]
        intro member hmem
        have hne := List.lookup_eq_none_iff.mp hlookup member hmem
        exact bne_iff_ne.mpr (bne_iff_ne.mp hne).symm
      rw [hlookup] at hproperty
      rw [hproperty, hall]
      simp [insertEntry, isVoidProperty]
  | some value =>
      -- The members are the property, put in its place beside the body.
      have hall := insertEntry_filter hordered hlookup
      rw [hbody, insertEntry_singleton_comm hkind.symm] at hall
      have hkept : isVoidProperty (kind, .object [(operator, operand)]) = false := by
        simp [isVoidProperty]
      rw [hlookup] at hproperty
      rw [← hall]
      by_cases hvoid : value = .null ∨ value = .string ""
      · have hnone : property = none := by
          rcases hvoid with rfl | rfl <;> simpa using hproperty
        rw [hnone, filter_insertEntry (by simpa using hkept)]
        · rfl
        · simpa using isVoidProperty_iff.mpr ⟨rfl, hvoid⟩
      · have hsome : (property.map fun property => ("property", Json.string property)) =
            some ("property", value) := by
          cases value <;> simp_all
        rw [hsome, Option.toList_some, eq_comm, List.filter_eq_self]
        intro member hmem
        rcases Json.mem_insertEntry hmem with rfl | hmem
        · simpa using hkept
        · rw [List.mem_singleton.mp hmem, Bool.not_eq_true', Bool.eq_false_iff]
          exact fun htrue => hvoid (isVoidProperty_iff.mp htrue).2

theorem filter_group_keys {members : List (String × Json)} {op : BoolOp}
    {children : Json} (hordered : (members.map Prod.fst).Pairwise (· < ·))
    (hlisted : members.lookup op.key = some children)
    (hsole : ∀ other : BoolOp, other ≠ op → members.lookup other.key = none) :
    members.filter (fun member => (BoolOp.ofKey? member.1).isSome) =
      [(op.key, children)] := by
  rw [← insertEntry_filter hordered hlisted]
  apply filter_insertEntry
  · exact isSome_ofKey?_iff.mpr ⟨op, rfl⟩
  · intro member hmem
    obtain ⟨hmem, hne⟩ := List.mem_filter.mp hmem
    rw [Bool.eq_false_iff]
    intro hsome
    obtain ⟨other, hother⟩ := isSome_ofKey?_iff.mp hsome
    by_cases hop : other = op
    · subst hop
      exact bne_iff_ne.mp hne hother
    · have hkey := List.lookup_eq_none_iff.mp (hsole other hop) member hmem
      exact bne_iff_ne.mp hkey hother.symm

theorem map_toJson_eq_tidied {items : List Json} {filters : List Filter}
    (hread : items.map (readNode .structureOnly) = filters.map .ok)
    (heach : ∀ item ∈ items, ∀ filter, readNode .structureOnly item = .ok filter →
      filter.toJson = tidied item) :
    filters.map toJson = items.map tidied := by
  induction items generalizing filters with
  | nil => rw [List.map_eq_nil_iff.mp hread.symm, List.map_nil, List.map_nil]
  | cons item items ih =>
      cases filters with
      | nil => cases hread
      | cons filter filters =>
          rw [List.map_cons, List.map_cons, List.cons.injEq] at hread
          obtain ⟨hitem, hrest⟩ := List.forall_mem_cons.mp heach
          rw [List.map_cons, List.map_cons, hitem filter hread.1, ih hread.2 hrest]

/-- The wire form of a filter that was read is the value it was read from, without
the members that mean nothing. -/
theorem toJson_eq_tidied {value : Json} {filter : Filter} (hsettled : value.Settled)
    (hread : readNode .structureOnly value = .ok filter) :
    filter.toJson = tidied value := by
  induction value using outline_induct generalizing filter with
  | node value ih =>
      cases houtline : outline value with
      | foreign kind =>
          rw [readNode_eq_outline, houtline] at hread
          cases hread
      | ambiguous =>
          rw [readNode_eq_outline, houtline] at hread
          cases hread
      | leaf members =>
          rw [readNode_of_leaf houtline] at hread
          obtain ⟨rfl, hkeys⟩ := outline_eq_leaf_iff.mp houtline
          exact toJson_eq_tidied_of_condition hsettled.1 hkeys hread
      | group op children =>
          rw [readNode_of_group houtline] at hread
          obtain ⟨filters, hchildren, rfl⟩ := map_eq_ok_iff.mp hread
          obtain ⟨items, rfl, -, hitems⟩ := readChildren_eq_ok_iff.mp hchildren
          obtain ⟨members, rfl, hlisted, hsole⟩ := outline_eq_group_iff.mp houtline
          obtain ⟨left, right, hsplit, -⟩ := List.lookup_eq_some_iff.mp hlisted
          have hmem : (op.key, Json.array items) ∈ members := by simp [hsplit]
          have hsettledItems := Json.itemsSettled_iff.mp
            (Json.membersSettled_iff.mp hsettled.2 _ hmem)
          rw [tidied_of_mem hmem, tidiedGroup_eq_map,
            filter_group_keys hsettled.1 hlisted hsole, toJson, allToJson_eq_map]
          simp only [List.map_cons, List.map_nil, tidiedChildren, tidiedItems_eq_map]
          rw [map_toJson_eq_tidied hitems fun item hitem child =>
            ih op items houtline item hitem (hsettledItems item hitem)]

theorem ofJson?_of_ne_null {value : Json} (hvalue : value ≠ .null) :
    ofJson? value = (readNode .structureOnly value).map some :=
  readOptional_of_ne_null hvalue .structureOnly

/-- What reads as an optional filter is null or derivable, and anything else is refused
as malformed.  The wire form of a filter that was read from a settled value is the value
without the members that mean nothing, hence the value itself if it has none. -/
theorem reading_recognises_grammar (value : Json) :
    ((∃ filter, ofJson? value = .ok filter) ↔ value = .null ∨ Derivable value) ∧
      (ofJson? value = .ok none ↔ value = .null) ∧
      (∀ why, ofJson? value = .error why → why.code = "FLATQUERY_FILTER_MALFORMED") ∧
      (value.Settled → ∀ filter, ofJson? value = .ok (some filter) →
        filter.toJson = tidied value ∧
          (filter.toJson = value ↔ ¬HasSurplus value)) := by
  by_cases hnull : value = .null
  · subst hnull
    refine ⟨⟨fun _ => Or.inl rfl, fun _ => ⟨none, rfl⟩⟩, ⟨fun _ => rfl, fun _ => rfl⟩, ?_, ?_⟩
    · rintro why ⟨⟩
    · rintro - filter ⟨⟩
  · rw [ofJson?_of_ne_null hnull]
    refine ⟨?_, ?_, ?_, ?_⟩
    · rw [or_iff_right hnull, ← exists_readNode_iff]
      simp [map_eq_ok_iff]
    · simp [map_eq_ok_iff, hnull]
    · intro why hrefused
      obtain ⟨flaw, rfl⟩ := (refusesStructure_readNode value).map some why hrefused
      rfl
    · intro hsettled filter hread
      obtain ⟨tree, htree, hsome⟩ := map_eq_ok_iff.mp hread
      cases hsome
      have htidied := toJson_eq_tidied hsettled htree
      rw [← tidied_eq_self_iff, htidied]
      exact ⟨rfl, Iff.rfl⟩

/-- A group with a remark, over a condition whose property is empty and whose operand
looks like a filter. -/
def remarkedGroup : Json :=
  .object
    [("or", .array [.object
        [("property", .string ""),
          ("select", .object [("equals", .object [("and", .array []), ("x", .null)])])]]),
      ("remark", .bool true)]

/-- The remark and the empty property go, the operand stays. -/
theorem reading_recognises_remarked_group :
    Derivable remarkedGroup ∧
      ∃ filter, ofJson? remarkedGroup = .ok (some filter) ∧
        filter.toJson =
          .object
            [("or", .array [.object [("select", .object
              [("equals", .object [("and", .array []), ("x", .null)])])]])] ∧
        filter.toJson ≠ remarkedGroup := by
  obtain ⟨hderivable, -, -, htidied⟩ := reading_recognises_grammar remarkedGroup
  have hsettled : remarkedGroup.Settled := by
    simp only [remarkedGroup, Json.Settled, Json.MembersSettled, Json.ItemsSettled]
    decide
  have hread : ofJson? remarkedGroup = .ok (some (.group .or [.condition
      ⟨none, "select", "equals", .object [("and", .array []), ("x", .null)]⟩])) := rfl
  obtain ⟨hform, -⟩ := htidied hsettled _ hread
  refine ⟨(hderivable.mp ⟨_, hread⟩).resolve_left Json.noConfusion, _, hread,
    hform.trans rfl, ?_⟩
  rw [hform]
  decide

end Filter

end NestedQuery
