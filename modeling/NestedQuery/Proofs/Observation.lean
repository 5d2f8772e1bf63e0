import NestedQuery.Proofs.Independence
import NestedQuery.Proofs.LineReading

/-!
# Observation

A process logs to a console as it goes.  The console writes an entry that reaches its
minimum severity to one of two streams and passes over any other, and nothing that the
process does reads the console.  So two processes that differ in the minimum severity stay
in step: they do the same, and the quieter one has written what the other has written,
less the lines below its own minimum.

An entry at a time is what keeps two consoles in step.  From there it is carried over
traced computations, and a run of operations is one of these.
-/

namespace NestedQuery

namespace Log

/-! ## Lines -/

namespace Lines

instance : Append Lines where
  append first second := ⟨first.out ++ second.out, first.err ++ second.err⟩

def filter (keep : String → Bool) (lines : Lines) : Lines :=
  ⟨lines.out.filter keep, lines.err.filter keep⟩

theorem append_eq (first second : Lines) :
    first ++ second = ⟨first.out ++ second.out, first.err ++ second.err⟩ := rfl

theorem append_nil (lines : Lines) : lines ++ ⟨[], []⟩ = lines := by
  rw [append_eq, List.append_nil, List.append_nil]

theorem append_assoc (first second third : Lines) :
    first ++ second ++ third = first ++ (second ++ third) :=
  congrArg₂ Lines.mk (List.append_assoc ..) (List.append_assoc ..)

theorem filter_append (keep : String → Bool) (first second : Lines) :
    (first ++ second).filter keep = first.filter keep ++ second.filter keep :=
  congrArg₂ Lines.mk (List.filter_append ..) (List.filter_append ..)

end Lines

theorem written_append (least : Severity) (first second : List Entry) :
    written least (first ++ second) = written least first ++ written least second := by
  simp only [written, List.filter_append, List.map_append]
  rfl

/-- Whether a line tells a severity from a minimum on. -/
def reaches (least : Severity) (line : String) : Bool :=
  (severityOf? line).any (least ≤ ·)

@[simp]
theorem reaches_line (least : Severity) (entry : Entry) :
    reaches least entry.line = decide (least ≤ entry.severity) := by
  rw [reaches, severityOf?_line, Option.any_some]

theorem filter_map_line (least : Severity) (entries : List Entry) :
    (entries.map Entry.line).filter (reaches least) =
      (entries.filter fun entry => least ≤ entry.severity).map Entry.line := by
  have hreaches : reaches least ∘ Entry.line =
      fun entry => decide (least ≤ entry.severity) := by
    funext entry
    rw [Function.comp_apply, reaches_line]
  rw [List.filter_map, hreaches]

/-- A higher minimum can be applied to the lines that a lower one has left. -/
theorem filter_written {loud quiet : Severity} (hle : loud ≤ quiet) (entries : List Entry) :
    (written loud entries).filter (reaches quiet) = written quiet entries := by
  have hkept : (entries.filter fun entry => loud ≤ entry.severity).filter
      (fun entry => quiet ≤ entry.severity) =
        entries.filter fun entry => quiet ≤ entry.severity := by
    rw [List.filter_filter]
    apply List.filter_congr
    intro entry _
    have hreached : quiet ≤ entry.severity → loud ≤ entry.severity := Nat.le_trans hle
    simpa using hreached
  have hstream : ∀ keep : Entry → Bool,
      (((entries.filter fun entry => loud ≤ entry.severity).filter keep).map
          Entry.line).filter (reaches quiet) =
        ((entries.filter fun entry => quiet ≤ entry.severity).filter keep).map Entry.line := by
    intro keep
    rw [filter_map_line, List.filter_comm, hkept]
  exact congrArg₂ Lines.mk (hstream _) (hstream _)

/-- What the lines tell that are left for one of the streams. -/
theorem exists_severityOf?_of_mem {least : Severity} {keep : Entry → Bool}
    {entries : List Entry} {line : String}
    (hmem : line ∈ ((entries.filter fun entry => least ≤ entry.severity).filter keep).map
      Entry.line) :
    ∃ entry, severityOf? line = some (Entry.severity entry) ∧ least ≤ entry.severity ∧
      keep entry = true := by
  simp only [List.mem_map, List.mem_filter, decide_eq_true_eq] at hmem
  obtain ⟨entry, ⟨⟨-, hreached⟩, hkept⟩, rfl⟩ := hmem
  exact ⟨entry, severityOf?_line entry, hreached, hkept⟩

/-! ## Consoles -/

/-- The lines written so far, and the severity from which on lines are written. -/
structure Console where
  least : Severity
  lines : Lines := ⟨[], []⟩

namespace Console

def log (console : Console) (entry : Entry) : Console :=
  if console.least ≤ entry.severity then
    if entry.isAlarm then
      { console with lines := { console.lines with err := console.lines.err ++ [entry.line] } }
    else
      { console with lines := { console.lines with out := console.lines.out ++ [entry.line] } }
  else console

/-- Logs entries one after the other. -/
def logAll (console : Console) (entries : List Entry) : Console :=
  entries.foldl log console

theorem logAll_cons (console : Console) (entry : Entry) (entries : List Entry) :
    console.logAll (entry :: entries) = (console.log entry).logAll entries := rfl

theorem logAll_append (console : Console) (first second : List Entry) :
    console.logAll (first ++ second) = (console.logAll first).logAll second :=
  List.foldl_append

/-- An entry is written or passed over, whatever has been written. -/
theorem log_eq (console : Console) (entry : Entry) :
    console.log entry =
      { console with lines := console.lines ++ written console.least [entry] } := by
  rw [log, Lines.append_eq]
  by_cases hreached : console.least ≤ entry.severity
  · cases halarm : entry.isAlarm <;> simp [written, hreached, halarm]
  · simp [written, hreached]

theorem logAll_eq (console : Console) (entries : List Entry) :
    console.logAll entries =
      { console with lines := console.lines ++ written console.least entries } := by
  induction entries generalizing console with
  | nil => exact congrArg (Console.mk console.least) (Lines.append_nil _).symm
  | cons entry entries ih =>
      rw [logAll_cons, ih, log_eq, Lines.append_assoc, ← written_append,
        List.singleton_append]

theorem least_logAll (console : Console) (entries : List Entry) :
    (console.logAll entries).least = console.least := by
  rw [logAll_eq]

/-- A console has the lines of the entries from a minimum severity on, alarms on the error
stream and all others on the output stream, as the lines themselves tell. -/
structure Shows (console : Console) (least : Severity) (entries : List Entry) : Prop where
  lines_eq : console.lines = written least entries
  calm : ∀ line ∈ console.lines.out, ∃ severity, severityOf? line = some severity ∧
    least ≤ severity ∧ ¬Severity.error ≤ severity
  alarmed : ∀ line ∈ console.lines.err, ∃ severity, severityOf? line = some severity ∧
    least ≤ severity ∧ Severity.error ≤ severity

theorem shows_logAll (least : Severity) (entries : List Entry) :
    (({ least } : Console).logAll entries).Shows least entries := by
  have hlines : (({ least } : Console).logAll entries).lines = written least entries := by
    rw [logAll_eq]
    rfl
  refine ⟨hlines, ?_, ?_⟩
  · intro line hmem
    rw [hlines] at hmem
    obtain ⟨entry, htold, hreached, hcalm⟩ := exists_severityOf?_of_mem hmem
    exact ⟨_, htold, hreached, by simpa [Entry.isAlarm] using hcalm⟩
  · intro line hmem
    rw [hlines] at hmem
    obtain ⟨entry, htold, hreached, halarm⟩ := exists_severityOf?_of_mem hmem
    exact ⟨_, htold, hreached, of_decide_eq_true halarm⟩

/-- A console has written what another has, less the lines below its minimum. -/
structure Quieter (quiet loud : Console) : Prop where
  least_le : loud.least ≤ quiet.least
  lines_eq : quiet.lines = loud.lines.filter (reaches quiet.least)

theorem Quieter.log {quiet loud : Console} (hquieter : quiet.Quieter loud) (entry : Entry) :
    (quiet.log entry).Quieter (loud.log entry) := by
  obtain ⟨hle, hlines⟩ := hquieter
  rw [log_eq, log_eq]
  refine ⟨hle, ?_⟩
  rw [Lines.filter_append, filter_written hle, hlines]

theorem Quieter.logAll {quiet loud : Console} (hquieter : quiet.Quieter loud)
    (entries : List Entry) : (quiet.logAll entries).Quieter (loud.logAll entries) := by
  induction entries generalizing quiet loud with
  | nil => exact hquieter
  | cons entry entries ih => exact ih (hquieter.log entry)

end Console

end Log

/-! ## Processes -/

/-- A resolver that logs to a console. -/
structure Process where
  resolver : Resolver
  console : Log.Console

/-- A process after a traced computation, and the value of this. -/
def Traced.enact {A : Type} (traced : Traced A) (process : Process) : Process × A :=
  (⟨process.resolver.absorb traced.effects,
    process.console.logAll traced.effects.logged⟩, traced.value)

namespace Traced

variable {A B : Type}

theorem enact_pure (value : A) (process : Process) :
    (pure value : Traced A).enact process = (process, value) := by
  rw [enact, effects_pure, Resolver.absorb_empty]
  rfl

/-- What the first computation logs is written before the next one begins. -/
theorem enact_bind (first : Traced A) (next : A → Traced B) (process : Process) :
    (first >>= next).enact process =
      (next (first.enact process).2).enact (first.enact process).1 := by
  rw [enact, effects_bind, Resolver.absorb_append, Effects.logged_append,
    Log.Console.logAll_append]
  rfl

end Traced

/-- The outcomes of some operations, one after the other. -/
def Service.performAll (service : Service) : List Operation → Traced (List Outcome)
  | [] => return []
  | operation :: operations => do
      let outcome ← service.perform operation
      let outcomes ← service.performAll operations
      return outcome :: outcomes

namespace Process

def perform (process : Process) (operation : Operation) : Process × Outcome :=
  (process.resolver.service.perform operation).enact process

/-- The process after some operations, and their outcomes. -/
def run (process : Process) : List Operation → Process × List Outcome
  | [] => (process, [])
  | operation :: operations =>
      let (next, outcome) := process.perform operation
      let (last, outcomes) := next.run operations
      (last, outcome :: outcomes)

/-- Each operation finds the service as the first one does. -/
theorem run_eq_enact (process : Process) (operations : List Operation) :
    process.run operations =
      (process.resolver.service.performAll operations).enact process := by
  induction operations generalizing process with
  | nil => exact (Traced.enact_pure _ _).symm
  | cons operation operations ih =>
      have hservice : (process.perform operation).1.resolver.service =
          process.resolver.service := Resolver.service_absorb _ _
      have hnext := ih (process.perform operation).1
      rw [hservice] at hnext
      calc process.run (operation :: operations)
          = (((process.perform operation).1.run operations).1,
              (process.perform operation).2 ::
                ((process.perform operation).1.run operations).2) := rfl
        _ = (process.resolver.service.performAll (operation :: operations)).enact
              process := by
            rw [hnext, Service.performAll, Traced.enact_bind, Traced.enact_bind,
              Traced.enact_pure]
            rfl

theorem resolver_run (process : Process) (operations : List Operation) :
    (process.run operations).1.resolver = process.resolver.run operations := by
  induction operations generalizing process with
  | nil => rfl
  | cons operation operations ih => exact ih (process.perform operation).1

end Process

/-- Any operations come to the same outcomes at any two minimum severities, and leave the
resolver the same: what its client has received, its counters, and what was logged.  At
the higher one each stream has the lines it has at the lower one that tell a severity
from the higher one on, in the same order.  Either way the streams have the lines of what
was logged from the minimum on, alarms and all others apart. -/
theorem observation_changes_no_outcome (resolver : Resolver) (operations : List Operation)
    {loud quiet : Severity} (hle : loud ≤ quiet) :
    ∃ last outcomes, ∃ noisy calm : Log.Console,
      (Process.mk resolver { least := loud }).run operations = (⟨last, noisy⟩, outcomes) ∧
      (Process.mk resolver { least := quiet }).run operations = (⟨last, calm⟩, outcomes) ∧
      last = resolver.run operations ∧
      calm.lines.out = noisy.lines.out.filter (Log.reaches quiet) ∧
      calm.lines.err = noisy.lines.err.filter (Log.reaches quiet) ∧
      ∃ entries, last.logged = resolver.logged ++ entries ∧
        noisy.Shows loud entries ∧ calm.Shows quiet entries := by
  have hstart : ({ least := quiet } : Log.Console).Quieter { least := loud } := ⟨hle, rfl⟩
  have hlast := Process.resolver_run ⟨resolver, { least := loud }⟩ operations
  rw [Process.run_eq_enact] at hlast
  have hquieter := hstart.logAll
    (resolver.service.performAll operations).effects.logged
  have hlines := hquieter.lines_eq
  rw [Log.Console.least_logAll] at hlines
  refine ⟨_, _, _, _, Process.run_eq_enact _ _, Process.run_eq_enact _ _, hlast,
    congrArg Log.Lines.out hlines, congrArg Log.Lines.err hlines,
    _, (resolver.adds_absorb _).logged_eq, ?_, ?_⟩
  · exact Log.Console.shows_logAll loud _
  · exact Log.Console.shows_logAll quiet _

/-- A resolver whose client fails to list all records. -/
def strandedResolver : Resolver where
  schema := .default
  client := { table := { failures := [(none, .rejected "down")] } }

/-- A resolution that fails, and one that is dropped. -/
def strandedOperations : List Operation := [.resolve none none 0, .cancel none none 0]

theorem observation_changes_no_outcome_stranded :
    Severity.trace ≤ .error ∧ ∃ last outcomes, ∃ noisy calm : Log.Console,
      (Process.mk strandedResolver { least := .trace }).run strandedOperations =
        (⟨last, noisy⟩, outcomes) ∧
      (Process.mk strandedResolver { least := .error }).run strandedOperations =
        (⟨last, calm⟩, outcomes) ∧
      (noisy.lines.out.length = 5 ∧ noisy.lines.err.length = 2) ∧
      calm.lines.out.length = 0 ∧ calm.lines.err.length = 2 := by
  have hle : Severity.trace ≤ .error := by decide
  obtain ⟨last, outcomes, noisy, calm, hnoisy, hcalm, hlast, -, -, entries, hlogged, hloud,
    hquiet⟩ := observation_changes_no_outcome strandedResolver strandedOperations hle
  have hentries : entries = (strandedResolver.run strandedOperations).logged := by
    rw [← hlast, hlogged]
    rfl
  refine ⟨hle, last, outcomes, noisy, calm, hnoisy, hcalm, ?_, ?_⟩
  · rw [hloud.lines_eq, hentries]
    exact ⟨rfl, rfl⟩
  · rw [hquiet.lines_eq, hentries]
    exact ⟨rfl, rfl⟩

end NestedQuery
