import NestedQuery.Proofs.Json.Nesting
import NestedQuery.Proofs.Json.Structures
import NestedQuery.Proofs.Json.Writing
import NestedQuery.Query.Record

/-!
# The wire form of records

A record shares one object between its identifier and its payload, so it survives the
wire as long as its payload has no member of the name under which the identifier is
written.  A record that was read never has: that name is taken from the payload on the
way in.  A payload that was put together may, and then its object names the identifier
twice and is refused.
-/

namespace NestedQuery

open Json (Source Decoded)

namespace Record

variable {record : Record}

/-! ## Reading what was written -/

theorem decodeMembers_cons (id : Option String) (payload : Dictionary Json) (key : String)
    (source : Source) (members : List (Option String × Source)) :
    decodeMembers id payload ((some key, source) :: members) =
      if key = "id" then
        match id with
        | some _ => .error .mismatched
        | none => source.decodeString.bind fun id => decodeMembers (some id) payload members
      else
        source.decodeJson.bind fun value =>
          decodeMembers id (payload.insert key value) members := by
  cases id <;> rfl

theorem decodeMembers_of_shadowed {id : String} {payload : Dictionary Json}
    {entries : List (String × Json)} (hsettled : Json.MembersSettled entries)
    (hshadowed : "id" ∈ entries.map Prod.fst) :
    decodeMembers (some id) payload (Source.ofMembers entries) = .error .mismatched := by
  induction entries generalizing payload with
  | nil => cases hshadowed
  | cons entry entries ih =>
      obtain ⟨key, value⟩ := entry
      rw [Source.ofMembers, decodeMembers_cons]
      by_cases hkey : key = "id"
      · rw [if_pos hkey]
      · have hrest : "id" ∈ entries.map Prod.fst :=
          (List.mem_cons.mp hshadowed).resolve_left (Ne.symm hkey)
        rw [if_neg hkey, Source.decodeJson, Json.json?_ofJson hsettled.1]
        exact ih hsettled.2 hrest

theorem decodeMembers_of_unshadowed {id : String} {payload : Dictionary Json}
    {entries : List (String × Json)} (hsettled : Json.MembersSettled entries)
    (hplain : "id" ∉ entries.map Prod.fst) :
    decodeMembers (some id) payload (Source.ofMembers entries) =
      .ok ⟨id, entries.foldl (fun table entry => table.insert entry.1 entry.2) payload⟩ := by
  induction entries generalizing payload with
  | nil => rfl
  | cons entry entries ih =>
      obtain ⟨key, value⟩ := entry
      rw [List.map_cons, List.mem_cons, not_or] at hplain
      rw [Source.ofMembers, decodeMembers_cons, if_neg (Ne.symm hplain.1), Source.decodeJson,
        Json.json?_ofJson hsettled.1]
      exact ih hsettled.2 hplain.2

theorem decode_toJson_eq (record : Record) :
    decode (.ofJson record.toJson) =
      decodeMembers (some record.id) .empty (Source.ofMembers record.payload.entries) := rfl

theorem ofList_entries (table : Dictionary Json) : Dictionary.ofList table.entries = table := by
  have hentries := Json.entries_ofList table.ordered
  generalize Dictionary.ofList table.entries = other at hentries
  obtain ⟨entries, hordered⟩ := table
  obtain ⟨others, hothers⟩ := other
  cases hentries
  rfl

theorem get?_id_eq_none_iff :
    record.payload.get? "id" = none ↔ "id" ∉ record.payload.entries.map Prod.fst := by
  constructor
  · intro hnone hmem
    obtain ⟨entry, hentry, hkey⟩ := List.mem_map.mp hmem
    have hlookup := List.lookup_eq_none_iff.mp hnone entry hentry
    rw [hkey] at hlookup
    exact absurd hlookup (by decide)
  · exact Json.lookup_eq_none_of_not_mem

/-- A record is read from its wire form as it was, unless its payload names an
identifier of its own. -/
theorem decode_toJson (hsettled : Json.MembersSettled record.payload.entries) :
    decode (.ofJson record.toJson) =
      if record.payload.get? "id" = none then .ok record else .error .mismatched := by
  rw [decode_toJson_eq]
  split
  · rename_i hnone
    rw [decodeMembers_of_unshadowed hsettled (get?_id_eq_none_iff.mp hnone)]
    exact congrArg (fun payload => Except.ok (Record.mk record.id payload))
      (ofList_entries record.payload)
  · rename_i hsome
    apply decodeMembers_of_shadowed hsettled
    by_contra hplain
    exact hsome (get?_id_eq_none_iff.mpr hplain)

/-! ## What is read -/

/-- Whatever holds of the members but the identifier holds of the payload. -/
theorem forall_mem_payload_of_decodeMembers {P : String × Json → Prop} {id : Option String}
    {payload : Dictionary Json} {members : List (Option String × Source)}
    (hstart : ∀ entry ∈ payload.entries, P entry)
    (hmembers : ∀ key source value, (some key, source) ∈ members → key ≠ "id" →
      source.json? = some value → P (key, value))
    (hdecode : decodeMembers id payload members = .ok record) :
    ∀ entry ∈ record.payload.entries, P entry := by
  induction members generalizing id payload with
  | nil =>
      cases id with
      | none => cases hdecode
      | some id =>
          cases hdecode
          exact hstart
  | cons member members ih =>
      obtain ⟨key?, source⟩ := member
      have hrest : ∀ key source value, (some key, source) ∈ members → key ≠ "id" →
          source.json? = some value → P (key, value) :=
        fun key source value hmem => hmembers key source value (List.mem_cons_of_mem _ hmem)
      cases key? with
      | none => cases id <;> cases hdecode
      | some key =>
          rw [decodeMembers_cons] at hdecode
          split at hdecode
          · cases id with
            | some id => cases hdecode
            | none =>
                obtain ⟨id, -, hdecode⟩ := bind_eq_ok_iff.mp hdecode
                exact ih hstart hrest hdecode
          · rename_i hkey
            obtain ⟨value, hvalue, hdecode⟩ := bind_eq_ok_iff.mp hdecode
            rw [Source.decodeJson] at hvalue
            split at hvalue
            · rename_i given hgiven
              cases hvalue
              refine ih ?_ hrest hdecode
              intro entry hmem
              rcases Json.mem_insertEntry hmem with rfl | hmem
              · exact hmembers key source value List.mem_cons_self hkey hgiven
              · exact hstart entry hmem
            · cases hvalue

/-- What is read as a record: settled, no identifier in the payload, and nested no deeper
than the source. -/
structure ReadFrom (source : Source) (record : Record) : Prop where
  settled : Json.MembersSettled record.payload.entries
  plain : record.payload.get? "id" = none
  depth_le : record.toJson.depth ≤ source.depth

theorem readFrom_of_decode {source : Source} (hdecode : decode source = .ok record) :
    ReadFrom source record := by
  cases source with
  | object members =>
      have hentries : ∀ entry ∈ record.payload.entries,
          entry.2.Settled ∧ entry.1 ≠ "id" ∧ entry.2.depth ≤ Source.membersDepth members := by
        refine forall_mem_payload_of_decodeMembers (P := fun entry => entry.2.Settled ∧
          entry.1 ≠ "id" ∧ entry.2.depth ≤ Source.membersDepth members)
          (fun _ hmem => absurd hmem List.not_mem_nil) ?_ hdecode
        intro key source value hmem hkey hvalue
        exact ⟨Json.settled_of_json? hvalue, hkey,
          Nat.le_trans (Source.depth_le_of_json? hvalue)
            (Source.membersDepth_le_iff.mp (Nat.le_refl _) _ hmem)⟩
      refine ⟨?_, ?_, ?_⟩
      · exact Json.membersSettled_iff.mpr fun entry hmem => (hentries entry hmem).1
      · rw [get?_id_eq_none_iff]
        intro hmem
        obtain ⟨entry, hentry, hkey⟩ := List.mem_map.mp hmem
        exact (hentries entry hentry).2.1 hkey
      · have hpayload : Json.membersDepth record.payload.entries ≤
            Source.membersDepth members :=
          Json.membersDepth_le_iff.mpr fun entry hmem => (hentries entry hmem).2.2
        rw [toJson, Json.depth, Json.membersDepth, Source.depth]
        exact Nat.succ_le_succ (Nat.max_le.mpr ⟨Nat.zero_le _, hpayload⟩)
  | _ => cases hdecode

end Record

namespace Page

variable {page : Page}

/-- The payloads hold settled values, as all values that were read are. -/
def Settled (page : Page) : Prop :=
  ∀ record ∈ page.records, Json.MembersSettled record.payload.entries

/-- The numbers of the payloads are integers. -/
def Integral (page : Page) : Prop :=
  ∀ record ∈ page.records, Json.MembersIntegral record.payload.entries

/-- No payload has a member of the name under which the identifier is written. -/
def Unshadowed (page : Page) : Prop :=
  ∀ record ∈ page.records, record.payload.get? "id" = none

/-! ## Reading what was written -/

theorem decodeList_ofItems {A : Type} (decode : Source → Decoded A) (items : List Json) :
    Source.decodeList decode (.ofJson (.array items)) =
      gather (items.map fun item => decode (.ofJson item)) := by
  have hitems : Source.ofItems items = items.map Source.ofJson := by
    induction items with
    | nil => rfl
    | cons item items ih => rw [Source.ofItems, ih, List.map_cons]
  rw [Source.ofJson, Source.decodeList, hitems, mapM_eq_gather, List.map_map]
  rfl

/-- The members of a page are read in turn, and only the records can be refused. -/
theorem decode_members (source : Source) (hasMore : Bool) (nextCursor : Option String) :
    decode (.object [(some "results", source), (some "has_more", .bool hasMore),
        (some "next_cursor", .ofJson (.ofOption .string nextCursor))]) =
      (Source.decodeList Record.decode source).map fun records =>
        ⟨records, hasMore, nextCursor⟩ := by
  have hfirst : decode (.object [(some "results", source), (some "has_more", .bool hasMore),
        (some "next_cursor", .ofJson (.ofOption .string nextCursor))]) =
      ((Source.decodeList Record.decode source).map fun records => ⟨records, false, none⟩).bind
        fun partly => Source.decodeMembers fields ["results"] partly
          [(some "has_more", .bool hasMore),
            (some "next_cursor", .ofJson (.ofOption .string nextCursor))] := rfl
  rw [hfirst]
  cases Source.decodeList Record.decode source with
  | error fault => rfl
  | ok records => cases nextCursor <;> rfl

theorem decode_toJson_eq (page : Page) :
    decode (.ofJson page.toJson) =
      (gather (page.records.map fun record => Record.decode (.ofJson record.toJson))).map
        fun records => { page with records } := by
  have hrecords := decodeList_ofItems Record.decode (page.records.map Record.toJson)
  rw [List.map_map] at hrecords
  exact (decode_members _ page.hasMore page.nextCursor).trans
    (congrArg (Except.map _) hrecords)

theorem decode_toJson_iff (hsettled : page.Settled) :
    decode (.ofJson page.toJson) = .ok page ↔ page.Unshadowed := by
  rw [decode_toJson_eq, map_eq_ok_iff]
  constructor
  · rintro ⟨records, hrecords, -⟩ record hmem
    obtain ⟨other, hother⟩ := exists_of_gather hrecords record hmem
    rw [Record.decode_toJson (hsettled record hmem)] at hother
    split at hother
    · rename_i hplain
      exact hplain
    · cases hother
  · intro hplain
    refine ⟨page.records, ?_, rfl⟩
    have heach : ∀ record ∈ page.records,
        Record.decode (.ofJson record.toJson) = .ok record := by
      intro record hmem
      rw [Record.decode_toJson (hsettled record hmem), if_pos (hplain record hmem)]
    have hgather := gather_map_eq_ok heach
    rwa [List.map_id'] at hgather

theorem integral_toJson (hintegral : page.Integral) : page.toJson.Integral := by
  have hrecords : Json.ItemsIntegral (page.records.map Record.toJson) := by
    rw [Json.itemsIntegral_iff]
    intro item hmem
    obtain ⟨record, hrecord, rfl⟩ := List.mem_map.mp hmem
    exact ⟨trivial, hintegral record hrecord⟩
  have hcursor : (Json.ofOption Json.string page.nextCursor).Integral := by
    cases page.nextCursor <;> trivial
  exact ⟨hrecords, trivial, hcursor, trivial⟩

theorem read_written_iff (hsettled : page.Settled) (hintegral : page.Integral)
    (hdepth : page.toJson.depth ≤ Json.depthLimit) :
    decode (Json.read page.toJson.render) = .ok page ↔ page.Unshadowed := by
  rw [Json.read_render (integral_toJson hintegral) hdepth]
  exact decode_toJson_iff hsettled

/-! ## What is read -/

theorem depth_lt_of_part? {names : List String} {name : String} {source part : Source}
    (hpart : source.part? names name = some part) : part.depth < source.depth := by
  cases source with
  | object members =>
      obtain ⟨before, after, rfl, -⟩ := List.lookup_eq_some_iff.mp hpart
      exact Nat.lt_succ_of_le
        (Source.membersDepth_le_iff.mp (Nat.le_refl _) (some name, part) (by simp))
  | array items =>
      obtain ⟨before, after, hzip, -⟩ := List.lookup_eq_some_iff.mp hpart
      have hmem : (name, part) ∈ names.zip items := by simp [hzip]
      exact Nat.lt_succ_of_le
        (Source.itemsDepth_le_iff.mp (Nat.le_refl _) part (List.of_mem_zip hmem).2)
  | _ => cases hpart

theorem exists_readFrom_of_decodeList {items : List Source} {records : List Record}
    (hdecode : Source.decodeList Record.decode (.array items) = .ok records) :
    ∀ record ∈ records, ∃ source ∈ items, Record.ReadFrom source record := by
  intro record hmem
  rw [Source.decodeList, mapM_eq_gather] at hdecode
  have hresult : Except.ok record ∈ items.map Record.decode := by
    rw [eq_map_ok_of_gather hdecode]
    exact List.mem_map_of_mem hmem
  obtain ⟨source, hsource, hrecord⟩ := List.mem_map.mp hresult
  exact ⟨source, hsource, Record.readFrom_of_decode hrecord⟩

theorem depth_toJson (page : Page) :
    page.toJson.depth = Json.itemsDepth (page.records.map Record.toJson) + 2 := by
  obtain ⟨records, hasMore, nextCursor⟩ := page
  cases nextCursor <;> simp [toJson, Json.depth, Json.membersDepth, Json.ofOption]

/-- What is read as a page: no identifier in a payload, and nested no deeper than the
source, if it has records at all. -/
structure ReadFrom (source : Source) (page : Page) : Prop where
  settled : page.Settled
  plain : page.Unshadowed
  depth_le : page.toJson.depth ≤ max 2 source.depth

theorem readFrom_of_decode {source : Source} (hdecode : decode source = .ok page) :
    ReadFrom source page := by
  have hsees : ∀ field ∈ fields, field.Sees "results" (Source.decodeList Record.decode)
      records := by
    simp [fields]
  have htells := Source.tells_of_decodeStructure hsees (by decide) (by decide) hdecode
  cases hpart : source.part? (fields.map (·.name)) "results" with
  | none =>
      rw [hpart, Source.Tells] at htells
      refine ⟨?_, ?_, ?_⟩
      · rw [Settled, htells]
        exact fun _ hmem => absurd hmem List.not_mem_nil
      · rw [Unshadowed, htells]
        exact fun _ hmem => absurd hmem List.not_mem_nil
      · rw [depth_toJson, htells]
        exact Nat.le_max_left _ _
  | some part =>
      rw [hpart, Source.Tells] at htells
      have hlt := depth_lt_of_part? hpart
      cases part with
      | array items =>
          have hread := exists_readFrom_of_decodeList htells
          refine ⟨?_, ?_, ?_⟩
          · intro record hmem
            obtain ⟨source, -, hrecord⟩ := hread record hmem
            exact hrecord.settled
          · intro record hmem
            obtain ⟨source, -, hrecord⟩ := hread record hmem
            exact hrecord.plain
          · have hitems : Json.itemsDepth (page.records.map Record.toJson) ≤
                Source.itemsDepth items := by
              rw [Json.itemsDepth_le_iff]
              intro item hmem
              obtain ⟨record, hrecord, rfl⟩ := List.mem_map.mp hmem
              obtain ⟨source, hsource, hfrom⟩ := hread record hrecord
              exact Nat.le_trans hfrom.depth_le
                (Source.itemsDepth_le_iff.mp (Nat.le_refl _) source hsource)
            rw [Source.depth] at hlt
            rw [depth_toJson]
            omega
      | _ => cases htells

/-! ## The round trip -/

/-- A page whose numbers are integers and that is not nested too deeply is read from its
text as it was exactly if no payload names an identifier of its own.  No record that was
read has such a payload, so what is read from a text is written and read again as the
same.  Members of the page that have other names are dropped, and only have to be JSON. -/
theorem written_page_reads_back :
    (∀ page : Page, page.Settled → page.Integral → page.toJson.depth ≤ Json.depthLimit →
      (decode (Json.read page.toJson.render) = .ok page ↔ page.Unshadowed)) ∧
    (∀ source record, Record.decode source = .ok record →
      record.payload.get? "id" = none) ∧
    (∀ source page, decode source = .ok page → page.Unshadowed) ∧
    (∀ text page, decode (Json.read text) = .ok page → page.Integral →
      decode (Json.read page.toJson.render) = .ok page) ∧
    ∀ members page, decode (.object members) = .ok page ↔
      (∀ member ∈ members, Source.isDeclared fields member = false →
          member.2.intact = true) ∧
        decode (.object (members.filter (Source.isDeclared fields))) = .ok page := by
  refine ⟨fun page => read_written_iff, ?_, ?_, ?_, ?_⟩
  · intro source record hdecode
    exact (Record.readFrom_of_decode hdecode).plain
  · intro source page hdecode
    exact (readFrom_of_decode hdecode).plain
  · intro text page hdecode hintegral
    have hread := readFrom_of_decode hdecode
    have hdepth : page.toJson.depth ≤ Json.depthLimit :=
      Nat.le_trans hread.depth_le
        (Nat.max_le.mpr ⟨by decide, Json.depth_read_le text⟩)
    exact (read_written_iff hread.settled hintegral hdepth).mpr hread.plain
  · intro members page
    exact Source.decodeMembers_eq_ok_iff_filter

/-- A page of two records, one with a payload. -/
def plainPage : Page where
  records := [⟨"b", .empty⟩,
    (Record.mk "a" .empty).withField "properties"
      (.object [("Notes", .array [.null]), ("Size", .ofNat 7)])]
  nextCursor := some "c"

/-- A page with a record whose payload names an identifier. -/
def shadowedPage : Page where
  records := [(Record.mk "a" .empty).withField "id" (.string "b")]

theorem written_page_reads_back_plain :
    (plainPage.Settled ∧ plainPage.Integral ∧
      plainPage.toJson.depth ≤ Json.depthLimit ∧
      decode (Json.read plainPage.toJson.render) = .ok plainPage) ∧
    shadowedPage.Settled ∧ shadowedPage.Integral ∧
      shadowedPage.toJson.depth ≤ Json.depthLimit ∧
      decode (Json.read shadowedPage.toJson.render) ≠ .ok shadowedPage := by
  have hsettled : plainPage.Settled ∧ shadowedPage.Settled := by
    constructor
    · rintro record (_ | ⟨_, _ | ⟨_, ⟨⟩⟩⟩)
      · trivial
      · exact ⟨⟨by decide, ⟨trivial, trivial⟩, trivial, trivial⟩, trivial⟩
    · rintro record (_ | ⟨_, ⟨⟩⟩)
      exact ⟨trivial, trivial⟩
  have hintegral : plainPage.Integral ∧ shadowedPage.Integral := by
    constructor
    · rintro record (_ | ⟨_, _ | ⟨_, ⟨⟩⟩⟩)
      · trivial
      · exact ⟨⟨⟨trivial, trivial⟩, trivial, trivial⟩, trivial⟩
    · rintro record (_ | ⟨_, ⟨⟩⟩)
      exact ⟨trivial, trivial⟩
  have hdepth : plainPage.toJson.depth ≤ Json.depthLimit ∧
      shadowedPage.toJson.depth ≤ Json.depthLimit := by decide
  have hunshadowed : plainPage.Unshadowed := by
    rintro record (_ | ⟨_, _ | ⟨_, ⟨⟩⟩⟩) <;> rfl
  obtain ⟨hwritten, -, -, hagain, -⟩ := written_page_reads_back
  have hplain := (hwritten plainPage hsettled.1 hintegral.1 hdepth.1).mpr hunshadowed
  refine ⟨⟨hsettled.1, hintegral.1, hdepth.1, hagain _ _ hplain hintegral.1⟩, hsettled.2,
    hintegral.2, hdepth.2, ?_⟩
  intro hread
  have hnone := (hwritten shadowedPage hsettled.2 hintegral.2 hdepth.2).mp hread _
    List.mem_cons_self
  exact absurd hnone (by decide)

end Page

end NestedQuery
