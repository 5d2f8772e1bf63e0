import NestedQuery.Proofs.Json.Structures
import NestedQuery.Resolution.Request

/-!
# The wire form of requests

A request is read from its wire form as it was.  Which objects are requests depends on
two members alone, a sort that is an object and the limit, and what is read of the
others is told by the member of its name.  The filter is any value and passes through
untouched.
-/

namespace NestedQuery

open Json (Source Decoded)

/-! ## What members tell -/

/-- What a member tells of a value that may be left out: nothing where the member is
absent or null, and else the value it is the form of. -/
inductive OptionTold {B : Type} (encode : B → Json) : Option Json → Option B → Prop
  | absent : OptionTold encode none none
  | null : OptionTold encode (some .null) none
  | given (value : B) : OptionTold encode (some (encode value)) (some value)

/-- What the members of an object tell of a sort request. -/
structure SortRequest.Told (members : List (String × Json)) (sort : SortRequest) : Prop where
  property : OptionTold .string (members.lookup "property") sort.property
  direction : OptionTold .string (members.lookup "direction") sort.direction

/-- What a member tells of the sort: an object tells one, whatever else stands there
tells none. -/
inductive SortTold : Option Json → Option SortRequest → Prop
  | absent : SortTold none none
  | other {value : Json} (hvalue : ∀ members, value ≠ .object members) :
      SortTold (some value) none
  | sort {members : List (String × Json)} {sort : SortRequest}
      (htold : SortRequest.Told members sort) : SortTold (some (.object members)) (some sort)

/-- What the members of an object tell of a request. -/
structure ResolveRequest.Told (members : List (String × Json)) (request : ResolveRequest) :
    Prop where
  filter : request.filter = (members.lookup "filter").getD .null
  sort : SortTold (members.lookup "sort") request.sort
  limit : OptionTold .ofNat (members.lookup "maxNestingLevel") request.maxNestingLevel

/-! ## Optional members -/

section Optional

variable {B : Type} {encode : B → Json} {decode : Source → Decoded B} {member : Option Json}

theorem decodeOption_ofJson {form : Json} (hform : form ≠ .null) :
    Source.decodeOption decode (.ofJson form) = (decode (.ofJson form)).map some := by
  cases form with
  | null => exact absurd rfl hform
  | _ => rfl

/-- Reading an optional member gives what it tells, provided that of the values
themselves. -/
theorem tells_option_iff (hnull : ∀ value, encode value ≠ .null)
    (hdecode : ∀ form value, decode (.ofJson form) = .ok value ↔ form = encode value)
    {value : Option B} :
    Source.Tells (Source.decodeOption decode) none (member.map .ofJson) value ↔
      OptionTold encode member value := by
  cases member with
  | none =>
      constructor
      · rintro rfl
        exact .absent
      · rintro ⟨⟩
        rfl
  | some form =>
      by_cases hform : form = .null
      · subst hform
        constructor
        · intro htells
          cases htells
          exact .null
        · generalize hmember : some Json.null = member
          rintro (_ | _ | given)
          · cases hmember
          · rfl
          · exact absurd (Option.some.inj hmember).symm (hnull given)
      · rw [Option.map_some, Source.Tells, decodeOption_ofJson hform, map_eq_ok_iff]
        constructor
        · rintro ⟨given, hgiven, rfl⟩
          rw [(hdecode form given).mp hgiven]
          exact .given given
        · generalize hmember : some form = member
          rintro (_ | _ | given)
          · cases hmember
          · exact absurd (Option.some.inj hmember) hform
          · exact ⟨given, (hdecode form given).mpr (Option.some.inj hmember), rfl⟩

/-- A member that is absent, null or the form of a value. -/
def FitsOption (encode : B → Json) (member : Option Json) : Prop :=
  ∀ form, member = some form → form = .null ∨ ∃ value, form = encode value

theorem exists_optionTold_iff :
    (∃ value, OptionTold encode member value) ↔ FitsOption encode member := by
  constructor
  · rintro ⟨value, _ | _ | value⟩ form hform
    · cases hform
    · exact Or.inl (Option.some.inj hform).symm
    · exact Or.inr ⟨value, (Option.some.inj hform).symm⟩
  · intro hfits
    cases member with
    | none => exact ⟨none, .absent⟩
    | some form =>
        rcases hfits form rfl with rfl | ⟨value, rfl⟩
        · exact ⟨none, .null⟩
        · exact ⟨some value, .given value⟩

theorem optionTold_ofOption (value : Option B) :
    OptionTold encode (some (.ofOption encode value)) value := by
  cases value with
  | none => exact .null
  | some value => exact .given value

end Optional

theorem decodeString_eq_ok_iff (form : Json) (text : String) :
    Source.decodeString (.ofJson form) = .ok text ↔ form = .string text := by
  cases form <;> simp [Source.ofJson, Source.decodeString]

theorem decodeLimit_eq_ok_iff (form : Json) (limit : UInt64) :
    ResolveRequest.decodeLimit (.ofJson form) = .ok limit ↔ form = .ofNat limit := by
  unfold ResolveRequest.decodeLimit
  rw [map_eq_ok_iff]
  cases form with
  | number number =>
      cases number with
      | integer value word =>
          have hform : Json.number (.integer value word) = .ofNat limit ↔
              value = limit.toNat := by
            constructor
            · intro hsame
              cases hsame
              rfl
            · rintro rfl
              rfl
          rw [hform, Source.ofJson, Source.decodeNatural]
          constructor
          · rintro ⟨natural, hnatural, rfl⟩
            split at hnatural
            · rename_i hrange
              cases hnatural
              have hlt : value.toNat < 2 ^ 64 := by
                have hsize : (UInt64.size : Int) = 2 ^ 64 := rfl
                omega
              rw [Nat.toUInt64, UInt64.toNat_ofNat', Nat.mod_eq_of_lt hlt]
              omega
            · cases hnatural
          · rintro rfl
            have hlt := limit.toNat_lt
            have hrange : (0 : Int) ≤ limit.toNat ∧ (limit.toNat : Int) < UInt64.size := by
              have hsize : (UInt64.size : Int) = 2 ^ 64 := rfl
              omega
            exact ⟨limit.toNat, if_pos hrange, UInt64.ofNat_toNat⟩
      | real value => simp [Source.ofJson, Source.decodeNatural, Json.ofNat]
  | _ => simp [Source.ofJson, Source.decodeNatural, Json.ofNat]

/-! ## Sorts -/

theorem tells_text_iff {member : Option Json} {text : Option String} :
    Source.Tells (Source.decodeOption Source.decodeString) none (member.map .ofJson) text ↔
      OptionTold .string member text := by
  apply tells_option_iff
  · simp
  · exact decodeString_eq_ok_iff

theorem OptionTold.unique_text {member : Option Json} {text other : Option String}
    (htext : OptionTold .string member text) (hother : OptionTold .string member other) :
    text = other :=
  (tells_text_iff.mpr htext).unique (tells_text_iff.mpr hother)

namespace SortRequest

variable {members : List (String × Json)} {sort other : SortRequest}

theorem Told.unique (htold : Told members sort) (hother : Told members other) :
    sort = other := by
  obtain ⟨property, direction⟩ := sort
  obtain ⟨property', direction'⟩ := other
  rw [mk.injEq]
  exact ⟨htold.property.unique_text hother.property,
    htold.direction.unique_text hother.direction⟩

theorem told_of_decode (hdecode : decode (.ofJson (.object members)) = .ok sort) :
    Told members sort where
  property := by
    have hsees : ∀ field ∈ fields, field.Sees "property"
        (Source.decodeOption Source.decodeString) property := by
      simp [fields]
    rw [← tells_text_iff, ← Json.part?_ofJson]
    exact Source.tells_of_decodeStructure hsees (by decide) (by decide) hdecode
  direction := by
    have hsees : ∀ field ∈ fields, field.Sees "direction"
        (Source.decodeOption Source.decodeString) direction := by
      simp [fields]
    rw [← tells_text_iff, ← Json.part?_ofJson]
    exact Source.tells_of_decodeStructure hsees (by decide) (by decide) hdecode

theorem decode_eq_ok_iff (hdistinct : (members.map Prod.fst).Nodup) :
    decode (.ofJson (.object members)) = .ok sort ↔ Told members sort := by
  constructor
  · exact told_of_decode
  · intro htold
    have hholds : Source.Holds fields (.ofJson (.object members)) := by
      apply Json.holds_ofJson hdistinct
      simp only [fields, List.forall_mem_cons, List.not_mem_nil, false_implies, implies_true,
        and_true]
      exact ⟨fun _ hpart => Json.accepts_of_tells {} hpart (tells_text_iff.mpr htold.property),
        fun _ hpart => Json.accepts_of_tells {} hpart (tells_text_iff.mpr htold.direction)⟩
    obtain ⟨other, hother⟩ :=
      (Source.exists_decodeStructure_iff (by simp [fields]) {} _).mpr hholds
    rw [(told_of_decode hother).unique htold] at hother
    exact hother

theorem Told.of_lookup {others : List (String × Json)}
    (hsame : ∀ name, members.lookup name = others.lookup name) (htold : Told members sort) :
    Told others sort := by
  obtain ⟨hproperty, hdirection⟩ := htold
  rw [hsame] at hproperty hdirection
  exact ⟨hproperty, hdirection⟩

theorem told_settled_iff (hdistinct : (members.map Prod.fst).Nodup) :
    Told (Dictionary.ofList members).entries sort ↔ Told members sort := by
  have hlookup := Json.lookup_ofList hdistinct
  exact ⟨Told.of_lookup hlookup, Told.of_lookup fun name => (hlookup name).symm⟩

end SortRequest

/-- A settled value, but that the keys of an outermost object may come in any order. -/
def Json.Loose : Json → Prop
  | .object members => (members.map Prod.fst).Nodup ∧ MembersSettled members
  | value => value.Settled

theorem Json.Settled.loose {value : Json} (hsettled : value.Settled) : value.Loose := by
  cases value with
  | object members => exact ⟨hsettled.1.imp String.ne_of_lt, hsettled.2⟩
  | _ => exact hsettled

namespace ResolveRequest

variable {member : Option Json} {members : List (String × Json)}
  {request other : ResolveRequest}

theorem decodeJson_ofJson {value : Json} (hsettled : value.Settled) :
    Source.decodeJson (.ofJson value) = .ok value := by
  rw [Source.decodeJson, Json.json?_ofJson hsettled]

theorem tells_filter_iff (hsettled : ∀ value ∈ member, value.Settled) {filter : Json} :
    Source.Tells Source.decodeJson .null (member.map .ofJson) filter ↔
      filter = member.getD .null := by
  cases member with
  | none => rfl
  | some value =>
      rw [Option.map_some, Source.Tells, decodeJson_ofJson (hsettled value rfl)]
      simp [eq_comm]

theorem decodeSort_of_object {sort : Option SortRequest}
    (hloose : (Json.object members).Loose) :
    decodeSort (.ofJson (.object members)) = .ok sort ↔
      ∃ inner, SortRequest.Told members inner ∧ some inner = sort := by
  have hdistinct : ((Dictionary.ofList members).entries.map Prod.fst).Nodup :=
    (Dictionary.ofList members).ordered.imp String.ne_of_lt
  have hdecode : decodeSort (.ofJson (.object members)) =
      (SortRequest.decode (.ofJson (.ofMembers members))).map some := by
    rw [decodeSort, Source.decodeJson, Json.json?_ofJson_object hloose.2]
    rfl
  rw [hdecode, map_eq_ok_iff]
  simp only [Json.ofMembers, SortRequest.decode_eq_ok_iff hdistinct,
    SortRequest.told_settled_iff hloose.1]

theorem decodeSort_of_other {value : Json} (hvalue : ∀ members, value ≠ .object members)
    (hsettled : value.Settled) : decodeSort (.ofJson value) = .ok none := by
  rw [decodeSort, decodeJson_ofJson hsettled]
  cases value with
  | object members => exact absurd rfl (hvalue members)
  | _ => rfl

theorem tells_sort_iff (hloose : ∀ value ∈ member, value.Loose) {sort : Option SortRequest} :
    Source.Tells decodeSort none (member.map .ofJson) sort ↔ SortTold member sort := by
  cases member with
  | none =>
      constructor
      · rintro rfl
        exact .absent
      · rintro ⟨⟩
        rfl
  | some value =>
      by_cases hobject : ∃ members, value = .object members
      · obtain ⟨members, rfl⟩ := hobject
        rw [Option.map_some, Source.Tells, decodeSort_of_object (hloose _ rfl)]
        constructor
        · rintro ⟨inner, htold, rfl⟩
          exact .sort htold
        · rintro (_ | hvalue | htold)
          · exact absurd rfl (hvalue members)
          · exact ⟨_, htold, rfl⟩
      · have hvalue : ∀ members, value ≠ .object members :=
          fun members hsame => hobject ⟨members, hsame⟩
        have hsettled : value.Settled := by
          have hvalue' := hloose value rfl
          cases value with
          | object members => exact absurd rfl (hvalue members)
          | _ => exact hvalue'
        rw [Option.map_some, Source.Tells, decodeSort_of_other hvalue hsettled]
        constructor
        · intro hsort
          cases hsort
          exact .other hvalue
        · rintro (_ | _ | _)
          · rfl
          · exact absurd rfl (hvalue _)

theorem tells_limit_iff {limit : Option UInt64} :
    Source.Tells (Source.decodeOption decodeLimit) none (member.map .ofJson) limit ↔
      OptionTold .ofNat member limit := by
  apply tells_option_iff
  · simp [Json.ofNat]
  · exact decodeLimit_eq_ok_iff

/-! ## Requests -/

theorem Told.unique (hsort : ∀ value ∈ members.lookup "sort", value.Loose)
    (htold : Told members request) (hother : Told members other) : request = other := by
  obtain ⟨filter, sort, limit⟩ := request
  obtain ⟨filter', sort', limit'⟩ := other
  rw [mk.injEq]
  exact ⟨htold.filter.trans hother.filter.symm,
    ((tells_sort_iff hsort).mpr htold.sort).unique ((tells_sort_iff hsort).mpr hother.sort),
    (tells_limit_iff.mpr htold.limit).unique (tells_limit_iff.mpr hother.limit)⟩

/-- Members of other names count for nothing. -/
theorem Told.of_agree {others : List (String × Json)}
    (hsame : ∀ name ∈ ["filter", "sort", "maxNestingLevel"],
      members.lookup name = others.lookup name) (htold : Told members request) :
    Told others request := by
  obtain ⟨hfilter, hsort, hlimit⟩ := htold
  rw [hsame _ (by simp)] at hfilter hsort hlimit
  exact ⟨hfilter, hsort, hlimit⟩

section Object

variable (hfilter : ∀ value ∈ members.lookup "filter", value.Settled)
  (hsort : ∀ value ∈ members.lookup "sort", value.Loose)

include hfilter hsort

theorem told_of_decode (hdecode : decode (.ofJson (.object members)) = .ok request) :
    Told members request where
  filter := by
    have hsees : ∀ field ∈ fields, field.Sees "filter" Source.decodeJson filter := by
      simp [fields]
    rw [← tells_filter_iff hfilter, ← Json.part?_ofJson]
    exact Source.tells_of_decodeStructure hsees (by decide) (by decide) hdecode
  sort := by
    have hsees : ∀ field ∈ fields, field.Sees "sort" decodeSort sort := by
      simp [fields]
    rw [← tells_sort_iff hsort, ← Json.part?_ofJson]
    exact Source.tells_of_decodeStructure hsees (by decide) (by decide) hdecode
  limit := by
    have hsees : ∀ field ∈ fields, field.Sees "maxNestingLevel"
        (Source.decodeOption decodeLimit) maxNestingLevel := by
      simp [fields]
    rw [← tells_limit_iff, ← Json.part?_ofJson]
    exact Source.tells_of_decodeStructure hsees (by decide) (by decide) hdecode

theorem decode_eq_ok_iff (hdistinct : (members.map Prod.fst).Nodup) :
    decode (.ofJson (.object members)) = .ok request ↔ Told members request := by
  constructor
  · exact told_of_decode hfilter hsort
  · intro htold
    have hholds : Source.Holds fields (.ofJson (.object members)) := by
      apply Json.holds_ofJson hdistinct
      simp only [fields, List.forall_mem_cons, List.not_mem_nil, false_implies, implies_true,
        and_true]
      exact ⟨fun _ hpart => Json.accepts_of_tells {} hpart
          ((tells_filter_iff hfilter).mpr htold.filter),
        fun _ hpart => Json.accepts_of_tells {} hpart
          ((tells_sort_iff hsort).mpr htold.sort),
        fun _ hpart => Json.accepts_of_tells {} hpart (tells_limit_iff.mpr htold.limit)⟩
    obtain ⟨other, hother⟩ :=
      (Source.exists_decodeStructure_iff (by simp [fields]) {} _).mpr hholds
    rw [(told_of_decode hfilter hsort hother).unique hsort htold] at hother
    exact hother

end Object

/-! ## Which objects are requests -/

/-- The objects that are requests: a sort that is an object has texts for a property and
a direction, if any, and the limit is a number of 64 bits, if any. -/
def Fits (members : List (String × Json)) : Prop :=
  (∀ sort, members.lookup "sort" = some (.object sort) →
      FitsOption Json.string (sort.lookup "property") ∧
        FitsOption Json.string (sort.lookup "direction")) ∧
    FitsOption Json.ofNat (members.lookup "maxNestingLevel")

theorem exists_sortTold_iff :
    (∃ sort, SortTold member sort) ↔
      ∀ sort, member = some (.object sort) →
        FitsOption Json.string (sort.lookup "property") ∧
          FitsOption Json.string (sort.lookup "direction") := by
  simp only [← exists_optionTold_iff]
  constructor
  · rintro ⟨sort, _ | hvalue | htold⟩ members hmember
    · cases hmember
    · exact absurd (Option.some.inj hmember) (hvalue members)
    · cases hmember
      exact ⟨⟨_, htold.property⟩, ⟨_, htold.direction⟩⟩
  · intro hfits
    cases member with
    | none => exact ⟨none, .absent⟩
    | some value =>
        by_cases hobject : ∃ members, value = .object members
        · obtain ⟨members, rfl⟩ := hobject
          obtain ⟨⟨property, hproperty⟩, direction, hdirection⟩ := hfits members rfl
          exact ⟨some ⟨property, direction⟩, .sort ⟨hproperty, hdirection⟩⟩
        · exact ⟨none, .other fun members hsame => hobject ⟨members, hsame⟩⟩

theorem exists_told_iff : (∃ request, Told members request) ↔ Fits members := by
  rw [Fits, ← exists_sortTold_iff, ← exists_optionTold_iff]
  constructor
  · rintro ⟨request, htold⟩
    exact ⟨⟨_, htold.sort⟩, ⟨_, htold.limit⟩⟩
  · rintro ⟨⟨sort, hsort⟩, limit, hlimit⟩
    exact ⟨⟨_, sort, limit⟩, rfl, hsort, hlimit⟩

theorem isSome_iff_of_sortTold {sort : Option SortRequest} (htold : SortTold member sort) :
    sort.isSome ↔ ∃ members, member = some (.object members) := by
  cases htold with
  | absent => simp
  | other hvalue => simp [hvalue]
  | sort _ => simp

/-! ## Round trips -/

theorem sortTold_ofOption (sort : Option SortRequest) :
    SortTold (some (.ofOption SortRequest.toJson sort)) sort := by
  cases sort with
  | none => exact .other fun members hsame => nomatch hsame
  | some sort =>
      exact .sort ⟨optionTold_ofOption sort.property, optionTold_ofOption sort.direction⟩

theorem settled_ofOption_string (text : Option String) :
    (Json.ofOption Json.string text).Settled := by
  cases text <;> trivial

theorem loose_ofOption (sort : Option SortRequest) :
    (Json.ofOption SortRequest.toJson sort).Loose := by
  cases sort with
  | none => trivial
  | some sort =>
      exact ⟨by simp, settled_ofOption_string sort.property,
        settled_ofOption_string sort.direction, trivial⟩

theorem settled_ofOption_ofNat (limit : Option UInt64) :
    (Json.ofOption Json.ofNat limit).Settled := by
  cases limit <;> trivial

theorem decode_toJson (hsettled : request.filter.Settled) :
    decode (.ofJson request.toJson) = .ok request := by
  apply (decode_eq_ok_iff _ _ _).mpr
  · exact ⟨rfl, sortTold_ofOption request.sort, optionTold_ofOption request.maxNestingLevel⟩
  · rintro value ⟨⟩
    exact hsettled
  · rintro value ⟨⟩
    exact loose_ofOption request.sort
  · simp

/-- The value of a sort, settled, tells the sort too. -/
theorem exists_settled_sort (sort : Option SortRequest) :
    ∃ value, (Source.ofJson (.ofOption SortRequest.toJson sort)).json? = some value ∧
      SortTold (some value) sort := by
  have hloose := loose_ofOption sort
  have htold := sortTold_ofOption sort
  cases sort with
  | none => exact ⟨.null, rfl, htold⟩
  | some sort =>
      refine ⟨_, Json.json?_ofJson_object hloose.2, .sort ?_⟩
      exact (SortRequest.told_settled_iff hloose.1).mpr
        ⟨optionTold_ofOption sort.property, optionTold_ofOption sort.direction⟩

theorem exists_settled_toJson (hsettled : request.filter.Settled) :
    ∃ value, (Source.ofJson request.toJson).json? = some value ∧
      decode (.ofJson value) = .ok request := by
  obtain ⟨sort, hsort, htold⟩ := exists_settled_sort request.sort
  have hlimit := Json.json?_ofJson (settled_ofOption_ofNat request.maxNestingLevel)
  have hjson : (Source.ofJson request.toJson).json? =
      some (.ofMembers [("filter", request.filter), ("sort", sort),
        ("maxNestingLevel", .ofOption .ofNat request.maxNestingLevel)]) := by
    simp [toJson, Source.ofJson, Source.ofMembers, Source.json?, Source.members?,
      Json.json?_ofJson hsettled, hsort, hlimit]
  have hlookup : ∀ name, (Dictionary.ofList [("filter", request.filter), ("sort", sort),
      ("maxNestingLevel", .ofOption .ofNat request.maxNestingLevel)]).entries.lookup name =
        [("filter", request.filter), ("sort", sort),
          ("maxNestingLevel", .ofOption .ofNat request.maxNestingLevel)].lookup name :=
    Json.lookup_ofList (by simp)
  refine ⟨_, hjson, (decode_eq_ok_iff ?_ ?_ ?_).mpr ⟨?_, ?_, ?_⟩⟩
  · rw [hlookup]
    rintro value ⟨⟩
    exact hsettled
  · rw [hlookup]
    rintro value ⟨⟩
    exact (Json.settled_of_json? hsort).loose
  · exact (Dictionary.ordered _).imp String.ne_of_lt
  · rw [hlookup]
    rfl
  · rw [hlookup]
    exact htold
  · rw [hlookup]
    exact optionTold_ofOption request.maxNestingLevel

/-! ## The wire form -/

/-- A request is read from its wire form as it was, also from the settled value of the
form.  An object is a request exactly if it fits, and the request is the one its members
tell: the filter is the member of that name, there is a sort where that member is an
object, and members of other names count for nothing.  What is read is written and read
again as the same. -/
theorem wire_form_round_trips :
    (∀ request : ResolveRequest, request.filter.Settled →
      decode (.ofJson request.toJson) = .ok request ∧
        ∃ value, (Source.ofJson request.toJson).json? = some value ∧
          decode (.ofJson value) = .ok request) ∧
    ∀ members, (Json.object members).Settled →
      ((∃ request, decode (.ofJson (.object members)) = .ok request) ↔ Fits members) ∧
      (∀ request, decode (.ofJson (.object members)) = .ok request ↔
        Told members request) ∧
      (∀ request, decode (.ofJson (.object members)) = .ok request →
        request.filter = (members.lookup "filter").getD .null ∧
        (request.sort.isSome ↔ ∃ sort, members.lookup "sort" = some (.object sort)) ∧
        decode (.ofJson request.toJson) = .ok request) ∧
      ∀ others, (Json.object others).Settled →
        (∀ name ∈ ["filter", "sort", "maxNestingLevel"],
          members.lookup name = others.lookup name) →
        ∀ request, decode (.ofJson (.object members)) = .ok request ↔
          decode (.ofJson (.object others)) = .ok request := by
  have hdecode : ∀ members, (Json.object members).Settled → ∀ request,
      decode (.ofJson (.object members)) = .ok request ↔ Told members request := by
    intro members hsettled request
    apply decode_eq_ok_iff
    · exact fun value hmember => Json.settled_of_lookup hsettled.2 hmember
    · exact fun value hmember => (Json.settled_of_lookup hsettled.2 hmember).loose
    · exact hsettled.1.imp String.ne_of_lt
  refine ⟨fun request hsettled => ⟨decode_toJson hsettled, exists_settled_toJson hsettled⟩, ?_⟩
  intro members hsettled
  refine ⟨?_, hdecode members hsettled, ?_, ?_⟩
  · simp only [hdecode members hsettled]
    exact exists_told_iff
  · intro request hrequest
    have htold := (hdecode members hsettled request).mp hrequest
    refine ⟨htold.filter, isSome_iff_of_sortTold htold.sort, decode_toJson ?_⟩
    rw [htold.filter]
    cases hfilter : members.lookup "filter" with
    | none => trivial
    | some value => exact Json.settled_of_lookup hsettled.2 hfilter
  · intro others hothers hsame request
    rw [hdecode members hsettled, hdecode others hothers]
    exact ⟨Told.of_agree hsame, Told.of_agree fun name hmem => (hsame name hmem).symm⟩

/-- A form with a sort that is no object and a member of another name. -/
def laxForm : List (String × Json) :=
  [("filter", .array [.null]), ("note", .bool true), ("sort", .string "Name")]

def plainForm : List (String × Json) := [("filter", .array [.null]), ("sort", .string "Name")]

/-- Both forms are of the request that has the filter and nothing else. -/
theorem wire_form_round_trips_lax :
    (Json.object laxForm).Settled ∧ (Json.object plainForm).Settled ∧
      (∀ name ∈ ["filter", "sort", "maxNestingLevel"],
        laxForm.lookup name = plainForm.lookup name) ∧
      decode (.ofJson (.object laxForm)) = .ok { filter := .array [.null] } ∧
      decode (.ofJson (.object plainForm)) = .ok { filter := .array [.null] } ∧
      decode (.ofJson (toJson { filter := .array [.null] })) =
        .ok { filter := .array [.null] } := by
  have hlax : (Json.object laxForm).Settled :=
    ⟨by decide, ⟨trivial, trivial⟩, trivial, trivial, trivial⟩
  have hplain : (Json.object plainForm).Settled :=
    ⟨by decide, ⟨trivial, trivial⟩, trivial, trivial⟩
  have hsame : ∀ name ∈ ["filter", "sort", "maxNestingLevel"],
      laxForm.lookup name = plainForm.lookup name := by decide
  have hdecode : decode (.ofJson (.object laxForm)) = .ok { filter := .array [.null] } := rfl
  obtain ⟨hforms, hobjects⟩ := wire_form_round_trips
  obtain ⟨-, -, -, hothers⟩ := hobjects laxForm hlax
  exact ⟨hlax, hplain, hsame, hdecode, (hothers plainForm hplain hsame _).mp hdecode,
    (hforms { filter := .array [.null] } ⟨trivial, trivial⟩).1⟩

end ResolveRequest

end NestedQuery
