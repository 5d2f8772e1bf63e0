import NestedQuery.Log.Recorder
import NestedQuery.Proofs.LineReading

/-!
# Scopes

The guard of a scope goes away after everything that its owner does, so dropping is what
every scope ends with, and a scope that was closed must not be closed again by it.  Each
scope is opened once and closed once, whatever is opened and closed around it.

The line that opens a scope tells its fields, and so does the line that closes it by the
will of its owner.  The line of a scope that was dropped does not: it tells a reason, and
no field of the scope.
-/

namespace NestedQuery

namespace Log

/-! ## One scope -/

namespace Scope

/-- What is logged for a scope, from its beginning to the end of its guard. -/
def entries (scope : Scope) (closing : Closing) : List Entry :=
  let (guard, opened) := scope.enter
  opened ++ guard.close closing

end Scope

/-- A guard that is not completed logs one entry from the end of its scope on. -/
theorem Guard.close_of_open {guard : Guard} (hopen : guard.completed = false)
    (closing : Closing) : guard.close closing = [guard.scope.closing closing] := by
  cases closing with
  | drop => simp [close, finish, release, hopen]
  | complete elapsed extra => rfl
  | fail reason caller => rfl

namespace Scope

theorem entries_eq (scope : Scope) (closing : Closing) :
    scope.entries closing = [scope.opening, scope.closing closing] := by
  exact congrArg (scope.opening :: ·) (Guard.close_of_open rfl closing)

/-- The field of a scope that was dropped. -/
def dropField : String × String := ("reason", "scope dropped without completion")

theorem subperm_closing_iff (scope : Scope) (closing : Closing) :
    scope.fields.Subperm (scope.closing closing).fields ↔
      closing ≠ .drop ∨ scope.fields = [] ∨ scope.fields = [dropField] := by
  cases closing with
  | complete elapsed extra =>
      have hfields : scope.fields.Subperm
          (scope.closing (.complete elapsed extra)).fields := by
        rw [closing, List.append_assoc]
        exact (List.prefix_append _ _).sublist.subperm
      exact iff_of_true hfields (Or.inl nofun)
  | fail reason caller =>
      have hfields : scope.fields.Subperm (scope.closing (.fail reason caller)).fields :=
        (List.prefix_append _ _).sublist.subperm
      exact iff_of_true hfields (Or.inl nofun)
  | drop =>
      rw [closing, List.subperm_singleton_iff]
      simp [dropField]

theorem info_le_severity_closing (scope : Scope) (closing : Closing) :
    .info ≤ (scope.closing closing).severity := by
  cases closing with
  | complete elapsed extra => exact Nat.le_refl _
  | fail reason caller => cases caller <;> exact Nat.le_of_ble_eq_true rfl
  | drop => exact Nat.le_of_ble_eq_true rfl

/-- The opening entry goes to the output stream, so it comes first in any case. -/
theorem written_entries (scope : Scope) (closing : Closing) {least : Severity}
    (hleast : least ≤ .info) :
    (written least (scope.entries closing)).out ++
        (written least (scope.entries closing)).err =
      [scope.opening.line, (scope.closing closing).line] := by
  have hopening : least ≤ scope.opening.severity := hleast
  have hcalm : scope.opening.isAlarm = false := rfl
  have hclosing : least ≤ (scope.closing closing).severity :=
    Nat.le_trans hleast (scope.info_le_severity_closing closing)
  rw [entries_eq, written]
  cases halarm : (scope.closing closing).isAlarm with
  | true => simp [hopening, hclosing, hcalm, halarm]
  | false => simp [hopening, hclosing, hcalm, halarm]

end Scope

/-! ## Scopes on a recorder -/

/-- A use of a recorder. -/
inductive Use
  | enter (scope : Scope)
  | finish (closing : Closing)

namespace Use

/-- The scope that a use opens. -/
def scope? : Use → Option Scope
  | .enter scope => some scope
  | .finish _ => none

/-- How a use ends the scope that is open before it. -/
def ending : Use → Closing
  | .enter _ => .drop
  | .finish closing => closing

end Use

/-- The scopes that end in some uses, each with its ending, given the one that is open
before them.  The last one ends with the recorder. -/
def endings : Option Scope → List Use → List (Scope × Closing)
  | scope?, [] => scope?.toList.map (·, .drop)
  | scope?, use :: uses => scope?.toList.map (·, use.ending) ++ endings use.scope? uses

theorem scopes_endings (scope? : Option Scope) (uses : List Use) :
    (endings scope? uses).map Prod.fst = scope?.toList ++ uses.filterMap Use.scope? := by
  induction uses generalizing scope? with
  | nil => cases scope? <;> rfl
  | cons use uses ih =>
      rw [endings, List.map_append, ih, List.map_map, List.filterMap_cons]
      cases scope? <;> cases use <;> rfl

namespace Recorder

def use (recorder : Recorder) : Use → Recorder × List Entry
  | .enter scope => recorder.openScope scope
  | .finish closing => recorder.close closing

/-- What some uses of a recorder log, and then the end of the recorder. -/
def logged (recorder : Recorder) : List Use → List Entry
  | [] => recorder.ending .drop
  | use :: uses =>
      let (next, entries) := recorder.use use
      entries ++ next.logged uses

/-- The recorder holds the guard of an open scope, or none. -/
def Holds (recorder : Recorder) (scope? : Option Scope) : Prop :=
  recorder.scope = scope?.map fun scope => { scope }

variable {recorder : Recorder} {scope? : Option Scope}

theorem Holds.ending_eq (hholds : recorder.Holds scope?) (closing : Closing) :
    recorder.ending closing = scope?.toList.map fun scope => scope.closing closing := by
  rw [ending, hholds]
  cases scope? with
  | none => rfl
  | some scope => exact Guard.close_of_open rfl closing

/-- A use opens its scope, ends the scope before it, and leaves no completed guard. -/
theorem Holds.use (hholds : recorder.Holds scope?) (use : Use) :
    (recorder.use use).1.Holds use.scope? ∧
      (recorder.use use).2 = use.scope?.toList.map Scope.opening ++
        scope?.toList.map fun scope => scope.closing use.ending := by
  rw [← hholds.ending_eq]
  cases use <;> exact ⟨rfl, rfl⟩

theorem Holds.logged_perm (hholds : recorder.Holds scope?) (uses : List Use) :
    (recorder.logged uses).Perm
      ((uses.filterMap Use.scope?).map Scope.opening ++
        (endings scope? uses).map fun ended => ended.1.closing ended.2) := by
  induction uses generalizing recorder scope? with
  | nil =>
      rw [logged, hholds.ending_eq, endings, List.map_map]
      exact List.Perm.refl _
  | cons use uses ih =>
      obtain ⟨hnext, hentries⟩ := hholds.use use
      have hlogged : recorder.logged (use :: uses) =
          (recorder.use use).2 ++ (recorder.use use).1.logged uses := rfl
      have hopenings : ((use :: uses).filterMap Use.scope?).map Scope.opening =
          use.scope?.toList.map Scope.opening ++
            (uses.filterMap Use.scope?).map Scope.opening := by
        rw [List.filterMap_cons]
        cases use.scope? <;> rfl
      have hclosings : (endings scope? (use :: uses)).map
            (fun ended => ended.1.closing ended.2) =
          (scope?.toList.map fun scope => scope.closing use.ending) ++
            (endings use.scope? uses).map fun ended => ended.1.closing ended.2 := by
        rw [endings, List.map_append, List.map_map]
        rfl
      rw [hlogged, hentries, hopenings, hclosings, List.append_assoc, List.append_assoc]
      refine List.Perm.append_left _ (((ih hnext).append_left _).trans ?_)
      exact List.perm_append_comm_assoc _ _ _

end Recorder

/-! ## What the lines of scopes tell -/

/-- A line tells an entry of a severity and an event. -/
def Heads (line : String) (severity : Severity) (event : String) : Prop :=
  ∃ fields, Entry.ofLine? line = some ⟨severity, event, fields⟩

theorem heads_line (entry : Entry) : Heads entry.line entry.severity entry.event :=
  ⟨entry.ordered, entry.ofLine?_line⟩

/-- What the closing line of a scope tells, by the way in which the scope ends. -/
def Scope.Ends (scope : Scope) (line : String) : Closing → Prop
  | .complete _ _ => Heads line .info (scope.name ++ "_COMPLETE")
  | .fail _ caller =>
      Heads line (if caller then .warn else .error) (scope.name ++ "_FAILED")
  | .drop =>
      Entry.ofLine? line =
        some ⟨.warn, scope.name ++ "_INCOMPLETE",
          [("reason", "scope dropped without completion")]⟩

theorem Scope.ends_line (scope : Scope) (closing : Closing) :
    scope.Ends (scope.closing closing).line closing := by
  cases closing with
  | complete elapsed extra => exact heads_line (scope.closing (.complete elapsed extra))
  | fail reason caller => exact heads_line (scope.closing (.fail reason caller))
  | drop =>
      rw [Ends, Entry.ofLine?_line, Entry.ordered, Scope.closing, List.mergeSort_singleton]

/-- A scope that is opened on a recorder logs one entry as it begins and one as it ends,
whatever scopes come before and after it and however they end.  Both are written unless
the recorder leaves out normal operation.  The second line tells by its event and its
severity how the scope has ended.  The first line tells the fields of the scope, and so
does the second, unless the scope was dropped: then it tells a reason alone. -/
theorem scopes_log_two_lines_each (scope : Scope) (closing : Closing) :
    (∀ least uses,
      (({ least } : Recorder).logged uses).Perm
          ((endings none uses).flatMap fun ended => ended.1.entries ended.2) ∧
        (endings none uses).map Prod.fst = uses.filterMap Use.scope?) ∧
      ∃ opening ending : String,
        (∀ least, least ≤ Severity.info →
          (written least (scope.entries closing)).out ++
            (written least (scope.entries closing)).err = [opening, ending]) ∧
        Heads opening .info (scope.name ++ "_BEGIN") ∧ scope.Ends ending closing ∧
        Carries opening scope.fields ∧
        (Carries ending scope.fields ↔
          closing ≠ .drop ∨ scope.fields = [] ∨ scope.fields = [Scope.dropField]) := by
  refine ⟨?_, scope.opening.line, (scope.closing closing).line, ?_,
    heads_line scope.opening, scope.ends_line closing, ?_, ?_⟩
  · intro least uses
    have hscopes := scopes_endings none uses
    have hholds : ({ least } : Recorder).Holds none := rfl
    rw [Option.toList_none, List.nil_append] at hscopes
    refine ⟨(hholds.logged_perm uses).trans ?_, hscopes⟩
    simp only [Scope.entries_eq]
    rw [← hscopes, List.map_map, ← List.flatMap_pure_eq_map, ← List.flatMap_pure_eq_map]
    exact List.flatMap_append_perm (endings none uses) (fun ended => [ended.1.opening])
      (fun ended => [ended.1.closing ended.2])
  · intro least hleast
    exact scope.written_entries closing hleast
  · exact (carries_line_iff _ _).mpr (List.Subperm.refl _)
  · rw [carries_line_iff, scope.subperm_closing_iff]

/-- The scope of a resolution without nesting. -/
def flatScope : Scope where
  name := "RESOLVE"
  fields := [("max_nesting_level", "0")]

theorem scopes_log_two_lines_each_dropped :
    Severity.trace ≤ .info ∧ ∃ opening ending,
      (written .trace (flatScope.entries .drop)).out ++
          (written .trace (flatScope.entries .drop)).err = [opening, ending] ∧
        Carries opening [("max_nesting_level", "0")] ∧
        Entry.ofLine? ending = some ⟨.warn, "RESOLVE_INCOMPLETE", [Scope.dropField]⟩ := by
  obtain ⟨-, opening, ending, hwritten, -, hending, hopening, -⟩ :=
    scopes_log_two_lines_each flatScope .drop
  exact ⟨by decide, opening, ending, hwritten .trace (by decide), hopening, hending⟩

/-- Not every line of a scope tells its fields. -/
theorem dropped_line_tells_no_field :
    ¬∀ (scope : Scope) (closing : Closing),
      ∀ line ∈ (written .info (scope.entries closing)).out ++
        (written .info (scope.entries closing)).err, Carries line scope.fields := by
  intro hall
  have hcarries := hall flatScope .drop (flatScope.closing .drop).line (by
    rw [Scope.written_entries flatScope .drop (by decide)]
    exact List.mem_cons_of_mem _ List.mem_cons_self)
  rw [carries_line_iff, Scope.subperm_closing_iff] at hcarries
  exact absurd hcarries (by decide)

end Log

end NestedQuery
