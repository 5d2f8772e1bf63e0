import NestedQuery.Proofs.Json.Settled
import NestedQuery.Sales

/-!
# Sales rows of records

A row is taken from six cells, and all of them have to be there with a type that their
columns admit; else the row is the placeholder as a whole.  What stands under the type of
a cell only matters to its own column, which stays empty if it holds nothing of use.  So
no row shows some cells of its record and the placeholder in place of others.
-/

namespace NestedQuery

namespace SalesRow

inductive Column
  | name
  | company
  | status
  | priority
  | value
  | owner

namespace Column

def title : Column → String
  | .name => "Name"
  | .company => "Company"
  | .status => "Status"
  | .priority => "Priority"
  | .value => "Estimated Value"
  | .owner => "Account Owner"

/-- The types of cells a column admits. -/
def types : Column → List String
  | .name => ["title"]
  | .company => ["rich_text"]
  | .status => ["select", "status"]
  | .priority => ["select"]
  | .value => ["number"]
  | .owner => ["people"]

end Column

/-! ## Cells -/

/-- Whatever a record has in a column. -/
def cellAt? (record : Record) (column : Column) : Option Json :=
  (record.payload.get? "properties").bind (Json.member? column.title)

/-- A record has a cell in a column, of a type that the column admits, and this stands
under the name of the type, if anything does. -/
inductive Holds (record : Record) (column : Column) : Option Json → Prop
  | mk {properties cell : List (String × Json)} {type : String}
      (hproperties : record.payload.get? "properties" = some (.object properties))
      (hcell : properties.lookup column.title = some (.object cell))
      (htype : cell.lookup "type" = some (.string type)) (hadmitted : type ∈ column.types) :
      Holds record column (cell.lookup type)

/-- The record has a cell of an admitted type in a column. -/
def Fills (record : Record) (column : Column) : Prop :=
  ∃ content, Holds record column content

/-- A text is told by a member of an object; anything else tells the empty text. -/
inductive MemberTold (key : String) : Option Json → String → Prop
  | text {members : List (String × Json)} {text : String}
      (htext : members.lookup key = some (.string text)) :
      MemberTold key (some (.object members)) text
  | other {place : Option Json}
      (hother : ∀ members text, place = some (.object members) →
        members.lookup key ≠ some (.string text)) : MemberTold key place ""

/-- The first item of an array tells what its member tells. -/
def FirstTold (key : String) (content : Option Json) (text : String) : Prop :=
  MemberTold key (content.bind Json.first?) text

/-- A number tells its double; anything else tells zero. -/
inductive NumberTold : Option Json → Float → Prop
  | number (number : Number) : NumberTold (some (.number number)) number.toFloat
  | other {content : Option Json} (hother : ∀ number, content ≠ some (.number number)) :
      NumberTold content 0

/-- A row shows what the cells of a record hold, each column by itself. -/
structure Shows (record : Record) (row : SalesRow) : Prop where
  id : row.id = record.id
  name : ∃ content, Holds record .name content ∧ FirstTold "plain_text" content row.name
  company : ∃ content, Holds record .company content ∧
    FirstTold "plain_text" content row.company
  status : ∃ content, Holds record .status content ∧ MemberTold "name" content row.status
  priority : ∃ content, Holds record .priority content ∧
    MemberTold "name" content row.priority
  value : ∃ content, Holds record .value content ∧ NumberTold content row.estimatedValue
  owner : ∃ content, Holds record .owner content ∧ FirstTold "object" content row.accountOwner

/-- The row that stands for a record: the one that shows its cells, or the placeholder if
one of them is not there. -/
inductive StandsFor (record : Record) : SalesRow → Prop
  | shown {row : SalesRow} (hfills : ∀ column, Fills record column)
      (hshows : Shows record row) : StandsFor record row
  | hidden {column : Column} (hnot : ¬Fills record column) :
      StandsFor record
        { id := "", name := "NOT_FOUND", company := "NOT_FOUND", status := "NOT_FOUND"
          priority := "NOT_FOUND", estimatedValue := 0, accountOwner := "NOT_FOUND" }

/-! ## What is told is told once -/

theorem Holds.unique {record : Record} {column : Column} {content other : Option Json}
    (hcontent : Holds record column content) (hother : Holds record column other) :
    content = other := by
  obtain ⟨hproperties, hcell, htype, -⟩ := hcontent
  obtain ⟨hproperties', hcell', htype', -⟩ := hother
  rw [hproperties] at hproperties'
  cases hproperties'
  rw [hcell] at hcell'
  cases hcell'
  rw [htype] at htype'
  cases htype'
  rfl

theorem MemberTold.unique {key : String} {place : Option Json} {text other : String}
    (htext : MemberTold key place text) (hother : MemberTold key place other) :
    text = other := by
  cases htext with
  | text hlookup =>
      cases hother with
      | text hlookup' =>
          rw [hlookup] at hlookup'
          cases hlookup'
          rfl
      | other hnone => exact absurd hlookup (hnone _ _ rfl)
  | other hnone =>
      cases hother with
      | text hlookup => exact absurd hlookup (hnone _ _ rfl)
      | other _ => rfl

theorem NumberTold.unique {content : Option Json} {value other : Float}
    (hvalue : NumberTold content value) (hother : NumberTold content other) :
    value = other := by
  cases hvalue with
  | number number =>
      cases hother with
      | number => rfl
      | other hnone => exact absurd rfl (hnone number)
  | other hnone =>
      cases hother with
      | number number => exact absurd rfl (hnone number)
      | other _ => rfl

/-! ## Reading a record -/

theorem member?_eq_some_iff {key : String} {whole part : Json} :
    whole.member? key = some part ↔
      ∃ members, whole = .object members ∧ members.lookup key = some part := by
  cases whole <;> simp [Json.member?]

theorem string?_eq_some_iff {value : Json} {text : String} :
    value.string? = some text ↔ value = .string text := by
  cases value <;> simp [Json.string?]

/-- What stands under the type of a cell, null if nothing does. -/
def content? (record : Record) (column : Column) : Option Json :=
  (record.payload.get? "properties").bind fun properties =>
    cell? properties column.title column.types

theorem content?_eq (record : Record) (column : Column) :
    content? record column = (cellAt? record column).bind fun cell =>
      ((cell.member? "type").bind Json.string?).bind fun type =>
        if column.types.contains type then some ((cell.member? type).getD .null)
        else none := by
  rw [content?, cellAt?]
  cases record.payload.get? "properties" <;> rfl

theorem content?_eq_some_iff {record : Record} {column : Column} {value : Json} :
    content? record column = some value ↔
      ∃ content, Holds record column content ∧ content.getD .null = value := by
  rw [content?_eq, cellAt?]
  simp only [Option.bind_eq_some_iff, member?_eq_some_iff, string?_eq_some_iff,
    List.contains_iff_mem]
  constructor
  · rintro ⟨_, ⟨_, hproperties, properties, rfl, hcell⟩, type, ⟨_, ⟨cell, rfl, htype⟩, rfl⟩,
      hvalue⟩
    split at hvalue
    · rename_i hadmitted
      exact ⟨_, .mk hproperties hcell htype hadmitted, Option.some.inj hvalue⟩
    · cases hvalue
  · rintro ⟨_, ⟨hproperties, hcell, htype, hadmitted⟩, rfl⟩
    exact ⟨_, ⟨_, hproperties, _, rfl, hcell⟩, _, ⟨_, ⟨_, rfl, htype⟩, rfl⟩, if_pos hadmitted⟩

theorem content?_congr {first second : Record} {column : Column}
    (hsame : cellAt? first column = cellAt? second column) :
    content? first column = content? second column := by
  rw [content?_eq, content?_eq, hsame]

theorem ofRecord?_eq (record : Record) :
    ofRecord? record = do
      let name ← content? record .name
      let company ← content? record .company
      let status ← content? record .status
      let priority ← content? record .priority
      let value ← content? record .value
      let owner ← content? record .owner
      return {
        id := record.id
        name := firstPlainText name
        company := firstPlainText company
        status := optionName status
        priority := optionName priority
        estimatedValue := value.float?.getD 0
        accountOwner := firstPerson owner } := by
  unfold ofRecord? content?
  cases record.payload.get? "properties" <;> rfl

/-! ## What a content tells -/

theorem memberTold_getD (key : String) (place : Option Json) :
    MemberTold key place (((place.bind (Json.member? key)).bind Json.string?).getD "") := by
  cases htext : (place.bind (Json.member? key)).bind Json.string? with
  | none =>
      apply MemberTold.other
      rintro members text rfl hlookup
      simp [Json.member?, hlookup, Json.string?] at htext
  | some text =>
      simp only [Option.bind_eq_some_iff, member?_eq_some_iff, string?_eq_some_iff] at htext
      obtain ⟨_, ⟨_, rfl, members, rfl, hlookup⟩, rfl⟩ := htext
      exact .text hlookup

theorem memberTold_optionName (content : Option Json) :
    MemberTold "name" content (optionName (content.getD .null)) := by
  have htold := memberTold_getD "name" content
  cases content <;> exact htold

theorem firstTold_firstPlainText (content : Option Json) :
    FirstTold "plain_text" content (firstPlainText (content.getD .null)) := by
  have htold := memberTold_getD "plain_text" (content.bind Json.first?)
  cases content <;> exact htold

theorem firstTold_firstPerson (content : Option Json) :
    FirstTold "object" content (firstPerson (content.getD .null)) := by
  have htold := memberTold_getD "object" (content.bind Json.first?)
  cases content <;> exact htold

theorem numberTold_getD (content : Option Json) :
    NumberTold content ((content.getD .null).float?.getD 0) := by
  rcases content with _ | value
  · exact .other fun _ hsame => nomatch hsame
  · cases value with
    | number number => exact .number number
    | _ => exact .other fun _ hsame => nomatch hsame

/-! ## Rows -/

theorem shows_of_ofRecord? {record : Record} {row : SalesRow}
    (hrow : ofRecord? record = some row) : Shows record row := by
  rw [ofRecord?_eq] at hrow
  simp only [Option.bind_eq_bind, Option.bind_eq_some_iff, content?_eq_some_iff] at hrow
  obtain ⟨_, ⟨name, hname, rfl⟩, _, ⟨company, hcompany, rfl⟩, _, ⟨status, hstatus, rfl⟩, _,
    ⟨priority, hpriority, rfl⟩, _, ⟨value, hvalue, rfl⟩, _, ⟨owner, howner, rfl⟩, hrow⟩ := hrow
  cases hrow
  exact {
    id := rfl
    name := ⟨name, hname, firstTold_firstPlainText name⟩
    company := ⟨company, hcompany, firstTold_firstPlainText company⟩
    status := ⟨status, hstatus, memberTold_optionName status⟩
    priority := ⟨priority, hpriority, memberTold_optionName priority⟩
    value := ⟨value, hvalue, numberTold_getD value⟩
    owner := ⟨owner, howner, firstTold_firstPerson owner⟩ }

/-- What a cell shows in a column is told once. -/
theorem eq_of_told {A : Type} {Told : Option Json → A → Prop} {record : Record}
    {column : Column} {shown other : A}
    (hunique : ∀ {content}, Told content shown → Told content other → shown = other)
    (hshown : ∃ content, Holds record column content ∧ Told content shown)
    (hother : ∃ content, Holds record column content ∧ Told content other) :
    shown = other := by
  obtain ⟨content, hholds, htold⟩ := hshown
  obtain ⟨content', hholds', htold'⟩ := hother
  rw [hholds'.unique hholds] at htold'
  exact hunique htold htold'

theorem Shows.unique {record : Record} {row other : SalesRow} (hrow : Shows record row)
    (hother : Shows record other) : row = other := by
  obtain ⟨id, name, company, status, priority, value, owner⟩ := row
  obtain ⟨id', name', company', status', priority', value', owner'⟩ := other
  rw [mk.injEq]
  exact ⟨hrow.id.trans hother.id.symm,
    eq_of_told MemberTold.unique hrow.name hother.name,
    eq_of_told MemberTold.unique hrow.company hother.company,
    eq_of_told MemberTold.unique hrow.status hother.status,
    eq_of_told MemberTold.unique hrow.priority hother.priority,
    eq_of_told NumberTold.unique hrow.value hother.value,
    eq_of_told MemberTold.unique hrow.owner hother.owner⟩

theorem Shows.fills {record : Record} {row : SalesRow} (hrow : Shows record row)
    (column : Column) : Fills record column := by
  cases column with
  | name => exact hrow.name.imp fun _ => And.left
  | company => exact hrow.company.imp fun _ => And.left
  | status => exact hrow.status.imp fun _ => And.left
  | priority => exact hrow.priority.imp fun _ => And.left
  | value => exact hrow.value.imp fun _ => And.left
  | owner => exact hrow.owner.imp fun _ => And.left

theorem exists_ofRecord?_of_fills {record : Record} (hfills : ∀ column, Fills record column) :
    ∃ row, ofRecord? record = some row := by
  have hcontent : ∀ column, ∃ value, content? record column = some value := by
    intro column
    obtain ⟨content, hholds⟩ := hfills column
    exact ⟨_, content?_eq_some_iff.mpr ⟨content, hholds, rfl⟩⟩
  obtain ⟨name, hname⟩ := hcontent .name
  obtain ⟨company, hcompany⟩ := hcontent .company
  obtain ⟨status, hstatus⟩ := hcontent .status
  obtain ⟨priority, hpriority⟩ := hcontent .priority
  obtain ⟨value, hvalue⟩ := hcontent .value
  obtain ⟨owner, howner⟩ := hcontent .owner
  rw [ofRecord?_eq, hname, hcompany, hstatus, hpriority, hvalue, howner]
  exact ⟨_, rfl⟩

theorem shows_ofRecord {record : Record} (hfills : ∀ column, Fills record column) :
    Shows record (ofRecord record) := by
  obtain ⟨row, hrow⟩ := exists_ofRecord?_of_fills hfills
  rw [ofRecord, hrow]
  exact shows_of_ofRecord? hrow

theorem ofRecord_of_not_fills {record : Record} {column : Column}
    (hnot : ¬Fills record column) : ofRecord record = placeholder := by
  rw [ofRecord]
  cases hrow : ofRecord? record with
  | none => rfl
  | some row => exact absurd ((shows_of_ofRecord? hrow).fills column) hnot

theorem standsFor_ofRecord (record : Record) : StandsFor record (ofRecord record) := by
  by_cases hfills : ∀ column, Fills record column
  · exact .shown hfills (shows_ofRecord hfills)
  · obtain ⟨column, hnot⟩ := Classical.not_forall.mp hfills
    rw [ofRecord_of_not_fills hnot]
    exact .hidden hnot

theorem ofRecord_congr {first second : Record} (hid : first.id = second.id)
    (hcells : ∀ column, cellAt? first column = cellAt? second column) :
    ofRecord first = ofRecord second := by
  rw [ofRecord, ofRecord, ofRecord?_eq, ofRecord?_eq, hid]
  simp only [content?_congr (hcells _)]

/-- A record with six cells, of which the priority and the owner hold nothing, and what
else it has. -/
def deal (statusType : String) (others : List (String × Json)) : Record :=
  (Record.mk "7" .empty).withField "properties" <| .object <|
    [("Name", .object [("type", .string "title"),
      ("title", .array [.object [("plain_text", .string "Deal")]])]),
    ("Company", .object [("type", .string "rich_text"), ("rich_text", .array [])]),
    ("Status", .object [("type", .string statusType),
      ("status", .object [("name", .string "Open")])]),
    ("Priority", .object [("type", .string "select"), ("select", .null)]),
    ("Estimated Value", .object [("type", .string "number"), ("number", .ofNat 7)]),
    ("Account Owner", .object [("type", .string "people")])] ++ others

end SalesRow

end NestedQuery
