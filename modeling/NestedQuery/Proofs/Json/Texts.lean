import NestedQuery.Json.Printer
import NestedQuery.Proofs.Json.Recognition
import NestedQuery.Proofs.Text.Numerals

/-!
# Written strings and whole documents

A string is read back as it was written, so what stands in quotes tells where it
ends and what it is.  A text is a document if a value and nothing but blanks make it
up; the reader that wants a whole document and the one that ignores what follows the
value then read the same.
-/

namespace NestedQuery

namespace Json

/-! ## Strings -/

theorem hexUnit?_hexQuad {unit : Nat} (hunit : unit < 0x10000) :
    hexUnit? (Text.hexDigit (unit / 4096)) (Text.hexDigit (unit / 256))
      (Text.hexDigit (unit / 16)) (Text.hexDigit unit) = some unit := by
  have hdigit : ∀ value, Text.hexValue? (Text.hexDigit value) = some (value % 16) := by
    intro value
    rw [← Text.hexValue?_hexDigit (Nat.mod_lt value (by decide)), Text.hexDigit,
      Text.hexDigit, Nat.mod_mod]
  simp only [hexUnit?, hdigit, Option.bind_eq_bind, Option.bind_some]
  exact congrArg some (by omega)

/-- The ways to write a character in a string. -/
inductive Escaped (char : Char) : List Char → Prop
  | plain (hlow : 32 ≤ char.toNat) (hquote : char ≠ '"') (hslash : char ≠ '\\') :
      Escaped char [char]
  | letter {letter : Char} (hletter : (letter, char) ∈ escapes) :
      Escaped char ['\\', letter]
  | unit (hunit : char.toNat < 0x10000) : Escaped char ('\\' :: 'u' :: hexQuad char.toNat)

/-- Characters that are written in these ways spell themselves up to the quote. -/
theorem spelledChars_flatMap {escape : Char → List Char}
    (hescape : ∀ char, Escaped char (escape char)) (chars rest : List Char) :
    SpelledChars chars (chars.flatMap escape ++ '"' :: rest) rest := by
  induction chars with
  | nil => exact .close
  | cons char chars ih =>
      rw [List.flatMap_cons, List.append_assoc]
      have hwritten := hescape char
      generalize escape char = written at hwritten
      cases hwritten with
      | plain hlow hquote hslash => exact .plain hlow hquote hslash ih
      | letter hletter => exact .letter hletter ih
      | unit hunit => exact .unit (hexUnit?_hexQuad hunit) ih

theorem escaped_escapeChar (char : Char) : Escaped char (escapeChar char) := by
  unfold escapeChar
  -- Seven characters have a letter of their own.
  iterate 7
    split
    · rename_i hchar
      subst hchar
      exact .letter (by decide)
  split
  · rename_i hcontrol
    exact .unit (Nat.lt_trans hcontrol (by decide))
  · rename_i hquote hslash _ _ _ _ _ hplain
    exact .plain (Nat.not_lt.mp hplain) hquote hslash

/-- A string is read up to its closing quote as it was written. -/
theorem scanString?_written (chars rest : List Char) :
    ∃ pieces, scanString? (chars.flatMap escapeChar ++ '"' :: rest) =
        some (pieces, rest) ∧
      joinPieces? pieces = some chars :=
  scanString?_of_spelled (spelledChars_flatMap escaped_escapeChar chars rest)

/-- What stands in quotes tells the string and where it ends. -/
theorem stringChars_append_inj {left right : String} {after later : List Char}
    (hsame : stringChars left ++ after = stringChars right ++ later) :
    left = right ∧ after = later := by
  obtain ⟨pieces, hscan, hjoin⟩ := scanString?_written left.toList after
  obtain ⟨others, hscan', hjoin'⟩ := scanString?_written right.toList later
  simp only [stringChars, List.cons_append, List.append_assoc, List.nil_append,
    List.cons.injEq, true_and] at hsame
  rw [hsame, hscan'] at hscan
  cases hscan
  rw [hjoin] at hjoin'
  exact ⟨String.toList_inj.mp (Option.some.inj hjoin'), rfl⟩

/-- An object of two strings tells both. -/
theorem render_strings_inj {first second : String} {a b c d : String}
    (hsame : (object [(first, .string a), (second, .string b)]).render =
      (object [(first, .string c), (second, .string d)]).render) : a = c ∧ b = d := by
  have hchars := String.ofList_injective hsame
  simp only [chars, moreMembers, List.cons.injEq, true_and] at hchars
  obtain ⟨-, hvalues⟩ := stringChars_append_inj hchars
  rw [List.cons.injEq] at hvalues
  obtain ⟨hleft, hrest⟩ := stringChars_append_inj hvalues.2
  rw [List.cons.injEq] at hrest
  obtain ⟨-, hlast⟩ := stringChars_append_inj hrest.2
  rw [List.cons.injEq] at hlast
  exact ⟨hleft, (stringChars_append_inj hlast.2).1⟩

/-! ## Documents -/

/-- Whether a text is one value with blanks around it. -/
def isDocument (text : String) : Bool :=
  match readValue (readingFuel text.toList) 0 text.toList with
  | (_, some rest) => (skipBlanks rest).isEmpty
  | (_, none) => false

theorem read_eq_readPrefix {text : String} (hdocument : isDocument text = true) :
    read text = readPrefix text := by
  rw [isDocument] at hdocument
  rw [read, readPrefix]
  split at hdocument
  · rename_i source rest hread
    rw [hread]
    exact if_pos hdocument
  · cases hdocument

theorem scan?_of_isWhiteSpace {text : List Char}
    (hblank : ∀ char ∈ text, Text.isWhiteSpace char = true) :
    Literal.scan? text = none := by
  cases text with
  | nil => rfl
  | cons char text =>
      have hchar := hblank char List.mem_cons_self
      have hwhole : Literal.scanWhole? (char :: text) = none := by
        have hdigit : char.isDigit = false :=
          Bool.eq_false_iff.mpr fun hdigit => by
            rw [Text.isWhiteSpace_of_isDigit hdigit] at hchar
            cases hchar
        rw [Literal.scanWhole?, Literal.scanDigits, List.takeWhile_cons, hdigit]
        rfl
      rw [Literal.scan?]
      · rw [hwhole]
        rfl
      · rintro rest ⟨⟩
        revert hchar
        decide

/-- There is no value in white space. -/
theorem readValue_of_isWhiteSpace {text : List Char}
    (hblank : ∀ char ∈ text, Text.isWhiteSpace char = true) (fuel depth : Nat) :
    readValue fuel depth text = (.broken, none) := by
  cases fuel with
  | zero => rfl
  | succ fuel =>
      have hstart : ∀ char ∈ skipBlanks text, Text.isWhiteSpace char = true :=
        fun char hmem => hblank char ((List.dropWhile_sublist isBlank).subset hmem)
      have hscan := scan?_of_isWhiteSpace hstart
      rw [readValue]
      generalize skipBlanks text = start at *
      split
      -- A value that is no number starts with a character of its own.
      iterate 6
        · exact absurd (hstart _ List.mem_cons_self) (by decide)
      · rw [hscan]

theorem not_isBlank_of_isDocument {text : String} (hdocument : isDocument text = true) :
    Text.isBlank text = false := by
  rw [Bool.eq_false_iff]
  intro hblank
  rw [Text.isBlank, List.all_eq_true] at hblank
  rw [isDocument, readValue_of_isWhiteSpace hblank] at hdocument
  cases hdocument

end Json

end NestedQuery
