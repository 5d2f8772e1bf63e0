import Mathlib.Data.List.Perm.Subperm
import NestedQuery.Proofs.LogLines

/-!
# Reading lines of the log

What an entry says can be taken from its line: the first member tells the event, the
second the severity, and every other member is a field.  The fields come back in the
order of their keys, and nothing is lost.
-/

namespace NestedQuery

def Severity.ofName? (name : String) : Option Severity :=
  [Severity.trace, .info, .warn, .error, .fatal].find? (·.name == name)

@[simp]
theorem Severity.ofName?_name (severity : Severity) :
    Severity.ofName? severity.name = some severity := by
  cases severity <;> rfl

namespace Log

open Json (Source)

/-- The field that a member tells, if its value is a text. -/
def fieldOf? : Option String × Source → Option (String × String)
  | (some key, .string value) => some (key, value)
  | _ => none

/-- The entry that a line tells. -/
def Entry.ofLine? (line : String) : Option Entry :=
  match Json.read line with
  | .object members =>
      match members.mapM fieldOf? with
      | some ((eventKey, event) :: (severityKey, severity) :: fields) =>
          if eventKey = "event" ∧ severityKey = "severity" then
            (Severity.ofName? severity).map fun severity => ⟨severity, event, fields⟩
          else none
      | _ => none
  | _ => none

theorem mapM_fieldOf? (fields : List (String × String)) :
    (Source.ofMembers (fields.map textMember)).mapM fieldOf? = some fields := by
  induction fields with
  | nil => rfl
  | cons field fields ih =>
      rw [List.map_cons, textMember, Source.ofMembers, List.mapM_cons, ih]
      rfl

namespace Entry

theorem read_line (entry : Entry) :
    Json.read entry.line = .ofJson (entry.said entry.ordered) := by
  apply Json.read_of_spells
  · rw [line, String.toList_ofList]
    exact entry.spells_lineChars
  · rw [entry.depth_said]
    decide

/-- A line tells the entry it was written for, with the fields in order. -/
theorem ofLine?_line (entry : Entry) :
    ofLine? entry.line = some { entry with fields := entry.ordered } := by
  have hfields := mapM_fieldOf?
    (("event", entry.event) :: ("severity", entry.severity.name) :: entry.ordered)
  rw [ofLine?, read_line, said, Source.ofJson]
  simp only [hfields, and_self, if_true, Severity.ofName?_name, Option.map_some]

end Entry

/-- The severity that a line tells. -/
def severityOf? (line : String) : Option Severity :=
  (Entry.ofLine? line).map Entry.severity

@[simp]
theorem severityOf?_line (entry : Entry) : severityOf? entry.line = some entry.severity := by
  rw [severityOf?, Entry.ofLine?_line]
  rfl

/-- A line tells some fields, each as often as it is given. -/
def Carries (line : String) (fields : List (String × String)) : Prop :=
  ∃ entry, Entry.ofLine? line = some entry ∧ fields.Subperm entry.fields

theorem carries_line_iff (entry : Entry) (fields : List (String × String)) :
    Carries entry.line fields ↔ fields.Subperm entry.fields := by
  have hperm := (stablySorted_ordered entry).perm
  rw [Carries, Entry.ofLine?_line]
  constructor
  · rintro ⟨_, ⟨⟩, hsub⟩
    exact hsub.trans hperm.subperm
  · intro hsub
    exact ⟨_, rfl, hsub.trans hperm.symm.subperm⟩

end Log

end NestedQuery
