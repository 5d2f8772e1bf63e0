import Mathlib.Data.List.Nodup
import NestedQuery.Command.Run
import NestedQuery.Proofs.Json.Texts
import NestedQuery.Proofs.Text.ByteOrder

/-!
# Lines of the log

The line of an entry is the text of one object, whose members tell the event, the
severity and then the fields in the order of the bytes of their keys; fields of one key
keep the order in which they were given.  Every text is escaped, whatever it holds, and
no control character stands in the line.  So a line ends where its entry ends, and what
it says can be read back.
-/

namespace NestedQuery

namespace Log

/-! ## Escaped texts -/

open Json (Spelled Spells)

theorem escaped_escapeChar (char : Char) : Json.Escaped char (escapeChar char) := by
  unfold escapeChar
  -- Five characters have a letter of their own.
  iterate 5
    split
    · rename_i hchar
      subst hchar
      exact .letter (by decide)
  split
  · rename_i hcontrol
    simp only [isControl, Bool.or_eq_true, Bool.and_eq_true, decide_eq_true_eq] at hcontrol
    exact .unit (by omega)
  · rename_i hquote hslash _ _ _ hplain
    simp only [isControl, Bool.or_eq_true, Bool.and_eq_true, decide_eq_true_eq] at hplain
    exact .plain (by omega) hquote hslash

theorem isControl_hexDigit (value : Nat) : isControl (Text.hexDigit value) = false := by
  have hall : ∀ digit < 16, isControl (Nat.digitChar digit) = false := by decide
  exact hall _ (Nat.mod_lt value (by decide))

theorem isControl_of_mem_escapeChar {char letter : Char} (hmem : letter ∈ escapeChar char) :
    isControl letter = false := by
  unfold escapeChar at hmem
  iterate 5
    split at hmem
    · simp only [List.mem_cons, List.not_mem_nil, or_false] at hmem
      rcases hmem with rfl | rfl <;> rfl
  split at hmem
  · simp only [Json.hexQuad, List.mem_cons, List.not_mem_nil, or_false] at hmem
    rcases hmem with rfl | rfl | rfl | rfl | rfl | rfl
    · rfl
    · rfl
    · exact isControl_hexDigit _
    · exact isControl_hexDigit _
    · exact isControl_hexDigit _
    · exact isControl_hexDigit _
  · rename_i hplain
    rw [List.mem_singleton.mp hmem]
    exact Bool.eq_false_iff.mpr hplain

/-! ## Lines -/

/-- A member whose value is a text. -/
def textMember (field : String × String) : String × Json := (field.1, .string field.2)

theorem spelled_member (key value : String) (rest : List Char) :
    Spelled (.member key (.string value)) (memberChars key value ++ rest) rest := by
  have hkey := Json.spelledChars_flatMap escaped_escapeChar key.toList
    (':' :: (quoted value ++ rest))
  have hvalue := Json.spelledChars_flatMap escaped_escapeChar value.toList rest
  simp only [memberChars, quoted, List.cons_append, List.append_assoc, List.nil_append]
    at hkey ⊢
  exact .named .nil hkey .nil (.element .nil (.string hvalue) .nil)

theorem spelled_members (first : String × String) (others : List (String × String))
    (rest : List Char) :
    Spelled (.members ((first :: others).map textMember))
      (memberChars first.1 first.2 ++
        ((others.flatMap fun field => ',' :: memberChars field.1 field.2) ++
          '\x7d' :: rest)) ('\x7d' :: rest) := by
  induction others generalizing first with
  | nil => exact .lastMember (spelled_member first.1 first.2 _)
  | cons second others ih =>
      rw [List.flatMap_cons, List.append_assoc]
      exact .member (spelled_member first.1 first.2 _) (ih second)

namespace Entry

/-- What the line of an entry says, the fields in some order. -/
def said (entry : Entry) (fields : List (String × String)) : Json :=
  .object ((("event", entry.event) :: ("severity", entry.severity.name) :: fields).map
    textMember)

theorem spells_lineChars (entry : Entry) :
    Spells entry.lineChars (entry.said entry.ordered) := by
  have hmembers := spelled_members ("event", entry.event)
    (("severity", entry.severity.name) :: entry.ordered) []
  have hline : entry.lineChars = '\x7b' :: (memberChars "event" entry.event ++
      (((("severity", entry.severity.name) :: entry.ordered).flatMap
        fun field => ',' :: memberChars field.1 field.2) ++ ['\x7d'])) := by
    simp only [lineChars, List.flatMap_cons, List.cons_append, List.append_assoc]
  rw [hline]
  exact .element .nil (.object hmembers) .nil

theorem depth_said (entry : Entry) (fields : List (String × String)) :
    (entry.said fields).depth = 1 := by
  have hflat : ∀ texts : List (String × String),
      Json.membersDepth (texts.map textMember) = 0 := by
    intro texts
    induction texts with
    | nil => rfl
    | cons text texts ih => rw [List.map_cons, textMember, Json.membersDepth, ih]; rfl
  rw [said, Json.depth, hflat]

theorem isControl_of_mem_lineChars {entry : Entry} {char : Char}
    (hmem : char ∈ entry.lineChars) : isControl char = false := by
  have hquoted : ∀ text : String, ∀ char ∈ quoted text, isControl char = false := by
    intro text char hmem
    simp only [quoted, List.mem_cons, List.mem_append, List.mem_flatMap,
      List.not_mem_nil, or_false] at hmem
    rcases hmem with rfl | ⟨letter, -, hmem⟩ | rfl
    · rfl
    · exact isControl_of_mem_escapeChar hmem
    · rfl
  have hmember : ∀ key value : String, ∀ char ∈ memberChars key value,
      isControl char = false := by
    intro key value char hmem
    rw [memberChars, List.mem_append, List.mem_cons] at hmem
    rcases hmem with hmem | rfl | hmem
    · exact hquoted key char hmem
    · rfl
    · exact hquoted value char hmem
  simp only [lineChars, List.mem_cons, List.mem_append, List.mem_flatMap,
    List.not_mem_nil, or_false] at hmem
  rcases hmem with rfl | hmem | rfl | (hmem | ⟨field, -, rfl | hmem⟩) | rfl
  · rfl
  · exact hmember _ _ char hmem
  · rfl
  · exact hmember _ _ char hmem
  · rfl
  · exact hmember _ _ char hmem
  · rfl

end Entry

/-! ## The order of fields -/

/-- Fields in the order of the bytes of their keys; those of one key stay in order. -/
structure StablySorted (fields sorted : List (String × String)) : Prop where
  perm : sorted.Perm fields
  ordered : sorted.Pairwise fun left right => Text.bytes left.1 ≤ Text.bytes right.1
  stable : ∀ key, sorted.filter (·.1 == key) = fields.filter (·.1 == key)

/-- Whether the key of a field comes first. -/
abbrev keyLe (left right : String × String) : Bool := left.1 ≤ right.1

theorem keyLe_trans (a b c : String × String) (hab : keyLe a b = true)
    (hbc : keyLe b c = true) : keyLe a c = true := by
  simp only [keyLe, decide_eq_true_eq] at hab hbc ⊢
  exact String.le_trans hab hbc

theorem keyLe_total (a b : String × String) : (keyLe a b || keyLe b a) = true := by
  simp only [keyLe, Bool.or_eq_true, decide_eq_true_eq]
  exact String.le_total a.1 b.1

theorem pairwise_ordered (entry : Entry) :
    entry.ordered.Pairwise fun left right => left.1 ≤ right.1 := by
  have hsorted := List.pairwise_mergeSort keyLe_trans keyLe_total entry.fields
  exact hsorted.imp fun hle => of_decide_eq_true hle

theorem stablySorted_ordered (entry : Entry) :
    StablySorted entry.fields entry.ordered where
  perm := List.mergeSort_perm _ _
  ordered := (pairwise_ordered entry).imp fun hle => (Text.bytes_le_iff _ _).mpr hle
  stable key := by
    have hsame : (entry.fields.filter (·.1 == key)).Pairwise fun left right =>
        keyLe left right = true := by
      rw [List.pairwise_iff_forall_sublist]
      intro left right hpair
      have hleft := List.of_mem_filter (hpair.subset List.mem_cons_self)
      have hright := List.of_mem_filter
        (hpair.subset (List.mem_cons_of_mem _ List.mem_cons_self))
      rw [beq_iff_eq] at hleft hright
      rw [keyLe, hleft, hright]
      exact decide_eq_true (String.le_refl key)
    have hwithin := (List.sublist_mergeSort keyLe_trans keyLe_total hsame
      List.filter_sublist).filter (·.1 == key)
    rw [List.filter_filter] at hwithin
    simp only [Bool.and_self] at hwithin
    have hlength := ((List.mergeSort_perm entry.fields keyLe).filter (·.1 == key)).length_eq
    exact (hwithin.eq_of_length hlength.symm).symm

/-- With distinct keys only the fields themselves count. -/
theorem ordered_of_perm {entry : Entry} {fields : List (String × String)}
    (hperm : fields.Perm entry.fields) (hdistinct : (entry.fields.map Prod.fst).Nodup) :
    ({ entry with fields } : Entry).ordered = entry.ordered := by
  have hleft := stablySorted_ordered { entry with fields }
  have hright := stablySorted_ordered entry
  have hsame := (hleft.perm.trans hperm).trans hright.perm.symm
  refine hsame.eq_of_pairwise ?_ (pairwise_ordered _) (pairwise_ordered _)
  intro first second hfirst hsecond hle hge
  have hfirst := (hleft.perm.trans hperm).mem_iff.mp hfirst
  have hsecond := hright.perm.mem_iff.mp hsecond
  exact List.inj_on_of_nodup_map hdistinct hfirst hsecond (String.le_antisymm hle hge)

/-! ## What was logged -/

/-- The line of an entry is one line and no more, and the text of one object, which says
the event, the severity and the fields of the entry in the order of the bytes of their
keys: it is spelled by the grammar, and what is read from it are the logged texts
themselves.  Fields whose keys differ may be given in any order. -/
theorem lines_say_what_was_logged (entry : Entry) :
    (Command.lines [entry.line] = String.ofList (entry.lineChars ++ ['\n']) ∧
        '\n' ∉ entry.lineChars) ∧
      (∃ fields, StablySorted entry.fields fields ∧
        Spells entry.lineChars (entry.said fields) ∧
        Json.read entry.line = .ofJson (entry.said fields)) ∧
      ∀ fields : List (String × String), fields.Perm entry.fields →
        (entry.fields.map Prod.fst).Nodup →
          ({ entry with fields } : Entry).line = entry.line := by
  refine ⟨⟨?_, ?_⟩, ⟨entry.ordered, stablySorted_ordered entry, entry.spells_lineChars, ?_⟩,
    ?_⟩
  · simp [Command.lines, String.join, Entry.line, String.ofList_append]
  · intro hbreak
    exact absurd (Entry.isControl_of_mem_lineChars hbreak) (by decide)
  · apply Json.read_of_spells
    · rw [Entry.line, String.toList_ofList]
      exact entry.spells_lineChars
    · rw [entry.depth_said]
      decide
  · intro fields hperm hdistinct
    rw [Entry.line, Entry.line, Entry.lineChars, Entry.lineChars,
      ordered_of_perm hperm hdistinct]

/-- A value that looks like an escape, one that would end its string and its line, and a
key with a control character. -/
def rejection : Entry where
  severity := .warn
  event := "filter_rejected"
  fields := [("operator", "\\u000a"), ("error\u0085", "\"\x7d\n\x7b")]

theorem line_rejection_reversed :
    rejection.fields.reverse.Perm rejection.fields ∧
      (rejection.fields.map Prod.fst).Nodup ∧
      ({ rejection with fields := rejection.fields.reverse } : Entry).line =
        rejection.line := by
  have hperm := List.reverse_perm rejection.fields
  have hdistinct : (rejection.fields.map Prod.fst).Nodup := by decide
  exact ⟨hperm, hdistinct, (lines_say_what_was_logged rejection).2.2 _ hperm hdistinct⟩

end Log

end NestedQuery
