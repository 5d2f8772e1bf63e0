import NestedQuery.Json.Decode
import NestedQuery.Proofs.Gathering
import NestedQuery.Proofs.Json.Settled

/-!
# Structures and their sources

A structure whose fields may all be left out is read from every object whose members
of declared names can be read, each of them once, and from every array that is short
enough and whose items can be read.  What is read for a field depends on its own part
of the source alone: on the member of its name, or on the item in its place.
-/

namespace NestedQuery

namespace Json

namespace FieldReader

variable {A B C : Type}

/-- A field can be read from a source. -/
def Accepts (field : FieldReader A) (source : Source) : Prop :=
  ∃ partly value, field.read source partly = .ok value

/-- A field that may be left out and can be read whatever was read before it. -/
structure Free (field : FieldReader A) : Prop where
  required : field.required = false
  reads : ∀ {source}, field.Accepts source →
    ∀ partly, ∃ value, field.read source partly = .ok value

/-- A part of the structure is told by the field of its name and by no other. -/
structure Sees (field : FieldReader A) (name : String) (decode : Source → Decoded B)
    (get : A → B) : Prop where
  own : field.name = name → ∀ {source partly value},
    field.read source partly = .ok value → decode source = .ok (get value)
  other : field.name ≠ name → ∀ {source partly value},
    field.read source partly = .ok value → get value = get partly

section Optional

variable {name other : String} {decode : Source → Decoded B} {decode' : Source → Decoded C}
  {set : A → B → A} {set' : A → C → A} {get : A → B}

theorem accepts_optional_iff (start : A) {source : Source} :
    (optional name decode set).Accepts source ↔ ∃ value, decode source = .ok value := by
  constructor
  · rintro ⟨partly, value, hread⟩
    obtain ⟨part, hpart, -⟩ := map_eq_ok_iff.mp hread
    exact ⟨part, hpart⟩
  · rintro ⟨part, hpart⟩
    exact ⟨start, set start part, map_eq_ok_iff.mpr ⟨part, hpart, rfl⟩⟩

@[simp]
theorem free_optional : (optional name decode set).Free where
  required := rfl
  reads haccepts partly := by
    obtain ⟨part, hpart⟩ := (accepts_optional_iff partly).mp haccepts
    exact ⟨set partly part, map_eq_ok_iff.mpr ⟨part, hpart, rfl⟩⟩

@[simp]
theorem sees_own (hget : ∀ partly part, get (set partly part) = part) :
    (optional name decode set).Sees name decode get where
  own := by
    intro _ source partly value hread
    obtain ⟨part, hpart, rfl⟩ := map_eq_ok_iff.mp hread
    rw [hpart, hget]
  other hname := absurd rfl hname

@[simp]
theorem sees_other (hname : other ≠ name)
    (hget : ∀ partly part, get (set' partly part) = get partly) :
    (optional other decode' set').Sees name decode get where
  own heq := absurd heq hname
  other := by
    intro _ source partly value hread
    obtain ⟨part, -, rfl⟩ := map_eq_ok_iff.mp hread
    rw [hget]

/-- A field tells the same whether it has to be given or not. -/
@[simp]
theorem sees_mandatory_iff :
    (mandatory other decode' set').Sees name decode get ↔
      (optional other decode' set').Sees name decode get :=
  ⟨fun hsees => ⟨hsees.own, hsees.other⟩, fun hsees => ⟨hsees.own, hsees.other⟩⟩

end Optional

end FieldReader

namespace Source

variable {A B : Type} {fields : List (FieldReader A)}

/-! ## Sources that hold a structure -/

/-- The names of declared fields among the keys of members. -/
def declared (fields : List (FieldReader A)) (members : List (Option String × Source)) :
    List String :=
  (members.filterMap Prod.fst).filter fun key => fields.any (·.name == key)

/-- A member that may stand in an object: one that tells a declared field, or any
other whose value is JSON. -/
def Admits (fields : List (FieldReader A)) : Option String × Source → Prop
  | (none, _) => False
  | (some key, source) =>
      match fields.find? (·.name == key) with
      | none => source.intact = true
      | some field => field.Accepts source

/-- A source that holds a structure of the given fields. -/
inductive Holds (fields : List (FieldReader A)) : Source → Prop
  | object {members : List (Option String × Source)}
      (admits : ∀ member ∈ members, Admits fields member)
      (once : (declared fields members).Nodup) : Holds fields (.object members)
  | array {items : List Source} (short : items.length ≤ fields.length)
      (accepts : ∀ pair ∈ fields.zip items, pair.1.Accepts pair.2) :
      Holds fields (.array items)

section Members

variable {seen : List String} {partly value : A} {key : String} {source : Source}
  {members : List (Option String × Source)}

theorem declared_cons_of_none (hfind : fields.find? (·.name == key) = none) :
    declared fields ((some key, source) :: members) = declared fields members := by
  have hany : fields.any (·.name == key) = false := by
    simpa [List.find?_eq_none] using hfind
  simp [declared, hany]

theorem declared_cons_of_some {field : FieldReader A}
    (hfind : fields.find? (·.name == key) = some field) :
    declared fields ((some key, source) :: members) = key :: declared fields members := by
  have hname := List.find?_some hfind
  have hany : fields.any (·.name == key) = true :=
    List.any_eq_true.mpr ⟨field, List.mem_of_find?_eq_some hfind, hname⟩
  simp [declared, hany]

theorem decodeMembers_nil (hfree : ∀ field ∈ fields, field.Free) :
    decodeMembers fields seen partly [] = .ok partly := by
  have hall : (fields.all fun field => !field.required || seen.contains field.name) =
      true := by
    rw [List.all_eq_true]
    intro field hmem
    rw [(hfree field hmem).required]
    rfl
  rw [decodeMembers, if_pos hall]

theorem decodeMembers_cons_of_none (hfind : fields.find? (·.name == key) = none) :
    decodeMembers fields seen partly ((some key, source) :: members) = .ok value ↔
      source.intact = true ∧ decodeMembers fields seen partly members = .ok value := by
  rw [decodeMembers]
  simp only [hfind]
  split
  · rename_i hintact
    simp [hintact]
  · rename_i hbroken
    simp [hbroken]

theorem decodeMembers_cons_of_some {field : FieldReader A}
    (hfind : fields.find? (·.name == key) = some field) :
    decodeMembers fields seen partly ((some key, source) :: members) = .ok value ↔
      key ∉ seen ∧ ∃ next, field.read source partly = .ok next ∧
        decodeMembers fields (key :: seen) next members = .ok value := by
  rw [decodeMembers]
  simp only [hfind, List.contains_eq_mem, decide_eq_true_eq]
  split
  · rename_i hseen
    simp [hseen]
  · rename_i hseen
    rw [and_iff_right hseen]
    exact bind_eq_ok_iff

end Members

/-- Whether a member is one the structure looks at. -/
def isDeclared (fields : List (FieldReader A)) (member : Option String × Source) : Bool :=
  member.1.elim true fun key => fields.any (·.name == key)

/-- Members of other names have to be JSON and count for nothing. -/
theorem decodeMembers_eq_ok_iff_filter {seen : List String} {partly value : A}
    {members : List (Option String × Source)} :
    decodeMembers fields seen partly members = .ok value ↔
      (∀ member ∈ members, isDeclared fields member = false → member.2.intact = true) ∧
        decodeMembers fields seen partly (members.filter (isDeclared fields)) =
          .ok value := by
  induction members generalizing seen partly with
  | nil => simp
  | cons member members ih =>
      obtain ⟨key?, source⟩ := member
      rw [List.forall_mem_cons]
      cases key? with
      | none =>
          rw [List.filter_cons_of_pos rfl]
          simp [decodeMembers]
      | some key =>
          cases hfind : fields.find? (·.name == key) with
          | none =>
              have hother : isDeclared fields (some key, source) = false := by
                simpa [isDeclared, List.find?_eq_none] using hfind
              rw [List.filter_cons_of_neg (by simp [hother]),
                decodeMembers_cons_of_none hfind, ih]
              simp [hother, and_assoc]
          | some field =>
              have hname := List.find?_some hfind
              have hown : isDeclared fields (some key, source) = true :=
                List.any_eq_true.mpr ⟨field, List.mem_of_find?_eq_some hfind, hname⟩
              rw [List.filter_cons_of_pos hown, decodeMembers_cons_of_some hfind,
                decodeMembers_cons_of_some hfind]
              simp only [ih, hown, Bool.true_eq_false, false_implies, true_and]
              constructor
              · rintro ⟨hseen, next, hread, hothers, hrest⟩
                exact ⟨hothers, hseen, next, hread, hrest⟩
              · rintro ⟨hothers, hseen, next, hread, hrest⟩
                exact ⟨hseen, next, hread, hothers, hrest⟩

theorem exists_decodeMembers_iff (hfree : ∀ field ∈ fields, field.Free)
    (seen : List String) (partly : A) (members : List (Option String × Source)) :
    (∃ value, decodeMembers fields seen partly members = .ok value) ↔
      (∀ member ∈ members, Admits fields member) ∧ (declared fields members).Nodup ∧
        ∀ key ∈ declared fields members, key ∉ seen := by
  induction members generalizing seen partly with
  | nil => simp [decodeMembers_nil hfree, declared]
  | cons member members ih =>
      obtain ⟨key?, source⟩ := member
      cases key? with
      | none => simp [decodeMembers, Admits]
      | some key =>
          rw [List.forall_mem_cons, Admits]
          cases hfind : fields.find? (·.name == key) with
          | none =>
              simp only [decodeMembers_cons_of_none hfind, declared_cons_of_none hfind,
                exists_and_left, ih seen partly, and_assoc]
          | some field =>
              have hfield := hfree field (List.mem_of_find?_eq_some hfind)
              simp only [decodeMembers_cons_of_some hfind, declared_cons_of_some hfind,
                List.nodup_cons, List.forall_mem_cons]
              constructor
              · rintro ⟨value, hseen, next, hread, hrest⟩
                obtain ⟨hadmits, honce, hnew⟩ := (ih (key :: seen) next).mp ⟨value, hrest⟩
                have hkey : key ∉ declared fields members :=
                  fun hmem => hnew key hmem List.mem_cons_self
                exact ⟨⟨⟨partly, next, hread⟩, hadmits⟩, ⟨hkey, honce⟩, hseen,
                  fun other hmem hother => hnew other hmem (List.mem_cons_of_mem _ hother)⟩
              · rintro ⟨⟨haccepts, hadmits⟩, ⟨hkey, honce⟩, hseen, hnew⟩
                obtain ⟨next, hread⟩ := hfield.reads haccepts partly
                have hnew' : ∀ other ∈ declared fields members, other ∉ key :: seen := by
                  intro other hmem hother
                  rcases List.mem_cons.mp hother with rfl | hother
                  · exact hkey hmem
                  · exact hnew other hmem hother
                obtain ⟨value, hrest⟩ := (ih (key :: seen) next).mpr ⟨hadmits, honce, hnew'⟩
                exact ⟨value, hseen, next, hread, hrest⟩

theorem exists_decodeItems_iff (hfree : ∀ field ∈ fields, field.Free) (partly : A)
    (items : List Source) :
    (∃ value, decodeItems fields partly items = .ok value) ↔
      items.length ≤ fields.length ∧
        ∀ pair ∈ fields.zip items, pair.1.Accepts pair.2 := by
  induction fields generalizing partly items with
  | nil => cases items <;> simp [decodeItems]
  | cons field fields ih =>
      have hfield := hfree field List.mem_cons_self
      have hothers := fun other hmem => hfree other (List.mem_cons_of_mem _ hmem)
      cases items with
      | nil =>
          have hall : ((field :: fields).all (!·.required)) = true := by
            rw [List.all_eq_true]
            intro other hmem
            rw [(hfree other hmem).required]
            rfl
          simp [decodeItems, hall]
      | cons item items =>
          rw [List.zip_cons_cons, List.forall_mem_cons, List.length_cons, List.length_cons,
            Nat.add_le_add_iff_right, and_left_comm]
          constructor
          · rintro ⟨value, hvalue⟩
            obtain ⟨next, hread, hrest⟩ := bind_eq_ok_iff.mp hvalue
            exact ⟨⟨partly, next, hread⟩, (ih hothers next items).mp ⟨value, hrest⟩⟩
          · rintro ⟨haccepts, hrest⟩
            obtain ⟨next, hread⟩ := hfield.reads haccepts partly
            obtain ⟨value, hvalue⟩ := (ih hothers next items).mpr hrest
            exact ⟨value, bind_eq_ok_iff.mpr ⟨next, hread, hvalue⟩⟩

/-- A structure is read from the sources that hold one and from no others. -/
theorem exists_decodeStructure_iff (hfree : ∀ field ∈ fields, field.Free) (start : A)
    (source : Source) :
    (∃ value, decodeStructure fields start source = .ok value) ↔ Holds fields source := by
  cases source with
  | object members =>
      rw [decodeStructure, exists_decodeMembers_iff hfree]
      constructor
      · rintro ⟨hadmits, honce, -⟩
        exact .object hadmits honce
      · rintro ⟨hadmits, honce⟩
        exact ⟨hadmits, honce, fun _ _ => List.not_mem_nil⟩
  | array items =>
      rw [decodeStructure, exists_decodeItems_iff hfree]
      constructor
      · rintro ⟨hshort, haccepts⟩
        exact .array hshort haccepts
      · intro hholds
        cases hholds with
        | array hshort haccepts => exact ⟨hshort, haccepts⟩
  | _ =>
      constructor
      · rintro ⟨value, hvalue⟩
        cases hvalue
      · rintro ⟨⟩

/-! ## What is read for a field -/

/-- The part of a source that tells one of the named fields: the member of its name, or
the item in its place. -/
def part? (names : List String) (name : String) : Source → Option Source
  | .object members => members.lookup (some name)
  | .array items => (names.zip items).lookup name
  | _ => none

/-- What a part tells of a field: what is read from it, or the default without it. -/
def Tells (decode : Source → Decoded B) (default : B) : Option Source → B → Prop
  | none, value => value = default
  | some part, value => decode part = .ok value

variable {name : String} {decode : Source → Decoded B} {get : A → B}

theorem Tells.unique {default value other : B} {part : Option Source}
    (hvalue : Tells decode default part value) (hother : Tells decode default part other) :
    value = other := by
  cases part with
  | none => exact hvalue.trans hother.symm
  | some part => exact Except.ok.inj (hvalue.symm.trans hother)

theorem tells_of_decodeMembers (hsees : ∀ field ∈ fields, field.Sees name decode get)
    (hname : name ∈ fields.map (·.name)) {seen : List String} {partly value : A}
    {members : List (Option String × Source)}
    (hvalue : decodeMembers fields seen partly members = .ok value) :
    (name ∈ seen → members.lookup (some name) = none) ∧
      Tells decode (get partly) (members.lookup (some name)) (get value) := by
  induction members generalizing seen partly with
  | nil =>
      rw [decodeMembers] at hvalue
      split at hvalue
      · cases hvalue
        exact ⟨fun _ => rfl, rfl⟩
      · cases hvalue
  | cons member members ih =>
      obtain ⟨key?, source⟩ := member
      cases key? with
      | none => cases hvalue
      | some key =>
          cases hfind : fields.find? (·.name == key) with
          | none =>
              have hkey : name ≠ key := by
                rintro rfl
                obtain ⟨field, hmem, hfield⟩ := List.mem_map.mp hname
                exact absurd (beq_iff_eq.mpr hfield) (List.find?_eq_none.mp hfind field hmem)
              obtain ⟨-, hrest⟩ := (decodeMembers_cons_of_none hfind).mp hvalue
              rw [List.lookup_cons, beq_false_of_ne (by simpa using hkey)]
              exact ih hrest
          | some field =>
              have hmem := List.mem_of_find?_eq_some hfind
              have hfield : field.name = key := by
                have hbeq := List.find?_some hfind
                exact beq_iff_eq.mp hbeq
              obtain ⟨hseen, next, hread, hrest⟩ := (decodeMembers_cons_of_some hfind).mp hvalue
              obtain ⟨habsent, htells⟩ := ih hrest
              by_cases hkey : name = key
              · subst hkey
                rw [habsent List.mem_cons_self] at htells
                rw [List.lookup_cons_self]
                refine ⟨fun hmem => absurd hmem hseen, ?_⟩
                rw [Tells, htells]
                exact (hsees field hmem).own hfield hread
              · rw [List.lookup_cons, beq_false_of_ne (by simpa using hkey)]
                refine ⟨fun hmem => habsent (List.mem_cons_of_mem _ hmem), ?_⟩
                have hkeep := (hsees field hmem).other
                  (fun heq => hkey (heq.symm.trans hfield)) hread
                rwa [hkeep] at htells

theorem tells_of_decodeItems (hsees : ∀ field ∈ fields, field.Sees name decode get)
    (hdistinct : (fields.map (·.name)).Nodup) {partly value : A} {items : List Source}
    (hvalue : decodeItems fields partly items = .ok value) :
    Tells decode (get partly) (((fields.map (·.name)).zip items).lookup name) (get value) := by
  induction fields generalizing partly items with
  | nil =>
      cases items with
      | nil =>
          cases hvalue
          rfl
      | cons item items => cases hvalue
  | cons field fields ih =>
      cases items with
      | nil =>
          rw [decodeItems] at hvalue
          split at hvalue
          · cases hvalue
            rfl
          · cases hvalue
          · simp
      | cons item items =>
          rw [List.map_cons, List.nodup_cons] at hdistinct
          obtain ⟨next, hread, hrest⟩ := bind_eq_ok_iff.mp hvalue
          have htells := ih (fun other hmem => hsees other (List.mem_cons_of_mem _ hmem))
            hdistinct.2 hrest
          have hfield := hsees field List.mem_cons_self
          rw [List.map_cons, List.zip_cons_cons]
          by_cases hown : field.name = name
          · have hnone : ((fields.map (·.name)).zip items).lookup name = none := by
              rw [List.lookup_eq_none_iff]
              rintro ⟨other, source⟩ hmem
              have hother := (List.of_mem_zip hmem).1
              rw [bne_iff_ne]
              rintro rfl
              exact hdistinct.1 (hown ▸ hother)
            rw [hnone] at htells
            rw [hown, List.lookup_cons_self, Tells, htells]
            exact hfield.own hown hread
          · rw [List.lookup_cons, beq_false_of_ne (Ne.symm hown), ← hfield.other hown hread]
            exact htells

/-- What a structure holds for a field is told by the part of the field. -/
theorem tells_of_decodeStructure (hsees : ∀ field ∈ fields, field.Sees name decode get)
    (hname : name ∈ fields.map (·.name)) (hdistinct : (fields.map (·.name)).Nodup)
    {start value : A} {source : Source}
    (hvalue : decodeStructure fields start source = .ok value) :
    Tells decode (get start) (source.part? (fields.map (·.name)) name) (get value) := by
  cases source with
  | object members => exact (tells_of_decodeMembers hsees hname hvalue).2
  | array items => exact tells_of_decodeItems hsees hdistinct hvalue
  | _ => cases hvalue

end Source

/-! ## Values as sources -/

mutual

theorem intact_ofJson : ∀ value : Json, (Source.ofJson value).intact = true
  | .null => rfl
  | .bool _ => rfl
  | .number _ => rfl
  | .string _ => rfl
  | .array items => itemsIntact_ofItems items
  | .object members => membersIntact_ofMembers members

theorem itemsIntact_ofItems : ∀ items : List Json,
    Source.itemsIntact (Source.ofItems items) = true
  | [] => rfl
  | item :: items => by
      rw [Source.ofItems, Source.itemsIntact, intact_ofJson item, itemsIntact_ofItems items]
      rfl

theorem membersIntact_ofMembers : ∀ members : List (String × Json),
    Source.membersIntact (Source.ofMembers members) = true
  | [] => rfl
  | (key, value) :: members => by
      rw [Source.ofMembers, Source.membersIntact, intact_ofJson value,
        membersIntact_ofMembers members]
      rfl

end

theorem ofMembers_eq_map (members : List (String × Json)) :
    Source.ofMembers members =
      members.map fun member => (some member.1, Source.ofJson member.2) := by
  induction members with
  | nil => rfl
  | cons member members ih => rw [Source.ofMembers, ih, List.map_cons]

theorem lookup_ofMembers (members : List (String × Json)) (name : String) :
    (Source.ofMembers members).lookup (some name) =
      (members.lookup name).map Source.ofJson := by
  induction members with
  | nil => rfl
  | cons member members ih =>
      obtain ⟨key, value⟩ := member
      rw [Source.ofMembers, lookup_cons_eq_ite, List.lookup_cons]
      by_cases hkey : name = key
      · subst hkey
        simp
      · rw [beq_false_of_ne (by simpa using hkey), if_neg hkey, ih]

theorem part?_ofJson (names : List String) (members : List (String × Json))
    (name : String) :
    (Source.ofJson (.object members)).part? names name =
      (members.lookup name).map Source.ofJson :=
  lookup_ofMembers members name

/-- An object holds a structure if its members of declared names can be read. -/
theorem holds_ofJson {A : Type} {fields : List (FieldReader A)}
    {members : List (String × Json)} (hdistinct : (members.map Prod.fst).Nodup)
    (haccepts : ∀ field ∈ fields, ∀ value, members.lookup field.name = some value →
      field.Accepts (Source.ofJson value)) :
    Source.Holds fields (Source.ofJson (.object members)) := by
  rw [Source.ofJson]
  constructor
  · rw [ofMembers_eq_map]
    intro member hmem
    obtain ⟨⟨key, value⟩, hlisted, rfl⟩ := List.mem_map.mp hmem
    rw [Source.Admits]
    split
    · exact intact_ofJson value
    · rename_i field hfind
      have hname : field.name = key := by
        have hbeq := List.find?_some hfind
        exact beq_iff_eq.mp hbeq
      apply haccepts field (List.mem_of_find?_eq_some hfind) value
      rw [hname]
      exact lookup_of_mem hdistinct hlisted
  · have hkeys : (Source.ofMembers members).filterMap Prod.fst = members.map Prod.fst := by
      rw [ofMembers_eq_map, List.filterMap_map]
      exact congrFun List.filterMap_eq_map members
    rw [Source.declared, hkeys]
    exact hdistinct.filter _

theorem accepts_of_tells {A B : Type} {name : String} {decode : Source → Decoded B}
    {set : A → B → A} {default value : B} (start : A) {member : Option Json} {part : Json}
    (hpart : member = some part)
    (htells : Source.Tells decode default (member.map Source.ofJson) value) :
    (FieldReader.optional name decode set).Accepts (Source.ofJson part) := by
  subst hpart
  exact (FieldReader.accepts_optional_iff start).mpr ⟨value, htells⟩

end Json

end NestedQuery
