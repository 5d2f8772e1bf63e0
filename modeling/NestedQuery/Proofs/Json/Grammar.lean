import NestedQuery.Json.Reader

/-!
# The grammar of JSON

What a text spells, by the productions of RFC 8259 and apart from any reader: a phrase is
spelled by the beginning of a text and leaves the rest.  The members of an object keep
their order, and repeated keys stay.
-/

namespace NestedQuery

namespace Json

/-! ## Productions -/

/-- A text and what is left of it behind some blanks. -/
inductive Blanks : List Char → List Char → Prop
  | nil {rest : List Char} : Blanks rest rest
  | cons {char : Char} {text rest : List Char} (hchar : isBlank char = true)
      (hblanks : Blanks text rest) : Blanks (char :: text) rest

/-- The letters that stand for a character behind a backslash. -/
def escapes : List (Char × Char) :=
  [('"', '"'), ('\\', '\\'), ('/', '/'), ('b', '\x08'), ('f', '\x0c'), ('n', '\n'),
    ('r', '\r'), ('t', '\t')]

/-- The characters up to a closing quote, as a string spells them. -/
inductive SpelledChars : List Char → List Char → List Char → Prop
  | close {rest : List Char} : SpelledChars [] ('"' :: rest) rest
  | plain {char : Char} {chars text rest : List Char} (hlow : 32 ≤ char.toNat)
      (hquote : char ≠ '"') (hslash : char ≠ '\\')
      (hchars : SpelledChars chars text rest) :
      SpelledChars (char :: chars) (char :: text) rest
  | letter {letter char : Char} {chars text rest : List Char}
      (hletter : (letter, char) ∈ escapes) (hchars : SpelledChars chars text rest) :
      SpelledChars (char :: chars) ('\\' :: letter :: text) rest
  | unit {a b c d char : Char} {chars text rest : List Char}
      (hunit : hexUnit? a b c d = some char.toNat)
      (hchars : SpelledChars chars text rest) :
      SpelledChars (char :: chars) ('\\' :: 'u' :: a :: b :: c :: d :: text) rest
  /-- Two code units, a high surrogate and a low one. -/
  | pair {a b c d e f g h : Char} {high low : Nat} {chars text rest : List Char}
      (hhigh : hexUnit? a b c d = some high) (hlow : hexUnit? e f g h = some low)
      (hranges : isHighSurrogate high = true ∧ isLowSurrogate low = true)
      (hchars : SpelledChars chars text rest) :
      SpelledChars
        (Char.ofNat (0x10000 + (high - 0xD800) * 0x400 + (low - 0xDC00)) :: chars)
        ('\\' :: 'u' :: a :: b :: c :: d :: '\\' :: 'u' :: e :: f :: g :: h :: text) rest

/-- At least one digit. -/
inductive SpelledDigits : List Nat → List Char → List Char → Prop
  | last {digit : Char} {rest : List Char} (hdigit : digit.isDigit = true) :
      SpelledDigits [digit.toNat - 48] (digit :: rest) rest
  | cons {digit : Char} {digits : List Nat} {text rest : List Char}
      (hdigit : digit.isDigit = true) (hdigits : SpelledDigits digits text rest) :
      SpelledDigits ((digit.toNat - 48) :: digits) (digit :: text) rest

inductive SpelledSign : Bool → List Char → List Char → Prop
  | minus {rest : List Char} : SpelledSign true ('-' :: rest) rest
  | absent {rest : List Char} : SpelledSign false rest rest

inductive SpelledFraction : Option (List Nat) → List Char → List Char → Prop
  | absent {rest : List Char} : SpelledFraction none rest rest
  | digits {digits : List Nat} {text rest : List Char}
      (hdigits : SpelledDigits digits text rest) :
      SpelledFraction (some digits) ('.' :: text) rest

inductive SpelledExponent : Option (Bool × List Nat) → List Char → List Char → Prop
  | absent {rest : List Char} : SpelledExponent none rest rest
  | plus {mark : Char} {digits : List Nat} {text rest : List Char}
      (hmark : mark = 'e' ∨ mark = 'E') (hdigits : SpelledDigits digits text rest) :
      SpelledExponent (some (false, digits)) (mark :: '+' :: text) rest
  | signed {mark : Char} {negative : Bool} {digits : List Nat}
      {text middle rest : List Char} (hmark : mark = 'e' ∨ mark = 'E')
      (hsign : SpelledSign negative text middle)
      (hdigits : SpelledDigits digits middle rest) :
      SpelledExponent (some (negative, digits)) (mark :: text) rest

/-- A number: a leading zero stands alone. -/
inductive SpelledNumber : Literal → List Char → List Char → Prop
  | mk {negative : Bool} {whole : List Nat} {fraction : Option (List Nat)}
      {exponent : Option (Bool × List Nat)} {text digits point mark rest : List Char}
      (hsign : SpelledSign negative text digits) (hwhole : SpelledDigits whole digits point)
      (hzero : whole = [0] ∨ whole.head? ≠ some 0)
      (hfraction : SpelledFraction fraction point mark)
      (hexponent : SpelledExponent exponent mark rest) :
      SpelledNumber ⟨negative, whole, fraction, exponent⟩ text rest

/-- What a text may spell. -/
inductive Phrase
  | value (value : Json)
  /-- A value, blanks around it allowed. -/
  | element (value : Json)
  /-- The elements of an array, separated by commas. -/
  | items (items : List Json)
  | member (key : String) (value : Json)
  | members (members : List (String × Json))

inductive Spelled : Phrase → List Char → List Char → Prop
  | nullName {rest : List Char} :
      Spelled (.value .null) ('n' :: 'u' :: 'l' :: 'l' :: rest) rest
  | trueName {rest : List Char} :
      Spelled (.value (.bool true)) ('t' :: 'r' :: 'u' :: 'e' :: rest) rest
  | falseName {rest : List Char} :
      Spelled (.value (.bool false)) ('f' :: 'a' :: 'l' :: 's' :: 'e' :: rest) rest
  | number {literal : Literal} {value : Number} {text rest : List Char}
      (hliteral : SpelledNumber literal text rest)
      (hvalue : literal.number? = some value) : Spelled (.value (.number value)) text rest
  | string {value : String} {text rest : List Char}
      (hchars : SpelledChars value.toList text rest) :
      Spelled (.value (.string value)) ('"' :: text) rest
  | emptyArray {text rest : List Char} (hblanks : Blanks text (']' :: rest)) :
      Spelled (.value (.array [])) ('[' :: text) rest
  | array {items : List Json} {text rest : List Char}
      (hitems : Spelled (.items items) text (']' :: rest)) :
      Spelled (.value (.array items)) ('[' :: text) rest
  | emptyObject {text rest : List Char} (hblanks : Blanks text ('\x7d' :: rest)) :
      Spelled (.value (.object [])) ('\x7b' :: text) rest
  | object {members : List (String × Json)} {text rest : List Char}
      (hmembers : Spelled (.members members) text ('\x7d' :: rest)) :
      Spelled (.value (.object members)) ('\x7b' :: text) rest
  | element {value : Json} {text start stop rest : List Char}
      (hbefore : Blanks text start) (hvalue : Spelled (.value value) start stop)
      (hafter : Blanks stop rest) : Spelled (.element value) text rest
  | lastItem {item : Json} {text rest : List Char}
      (hitem : Spelled (.element item) text rest) : Spelled (.items [item]) text rest
  | item {item : Json} {items : List Json} {text more rest : List Char}
      (hitem : Spelled (.element item) text (',' :: more))
      (hitems : Spelled (.items items) more rest) : Spelled (.items (item :: items)) text rest
  | named {key : String} {value : Json} {text name colon element rest : List Char}
      (hbefore : Blanks text ('"' :: name)) (hkey : SpelledChars key.toList name colon)
      (hcolon : Blanks colon (':' :: element))
      (hvalue : Spelled (.element value) element rest) :
      Spelled (.member key value) text rest
  | lastMember {key : String} {value : Json} {text rest : List Char}
      (hmember : Spelled (.member key value) text rest) :
      Spelled (.members [(key, value)]) text rest
  | member {key : String} {value : Json} {members : List (String × Json)}
      {text more rest : List Char} (hmember : Spelled (.member key value) text (',' :: more))
      (hmembers : Spelled (.members members) more rest) :
      Spelled (.members ((key, value) :: members)) text rest

/-- A text that spells one value, blanks around it allowed. -/
def Spells (text : List Char) (value : Json) : Prop := Spelled (.element value) text []

mutual

/-- How deeply containers are nested in a value. -/
def depth : Json → Nat
  | .array items => itemsDepth items + 1
  | .object members => membersDepth members + 1
  | _ => 0

def itemsDepth : List Json → Nat
  | [] => 0
  | item :: items => max item.depth (itemsDepth items)

def membersDepth : List (String × Json) → Nat
  | [] => 0
  | (_, value) :: members => max value.depth (membersDepth members)

end

/-! ## What is left -/

theorem Blanks.length_le {text rest : List Char} (hblanks : Blanks text rest) :
    rest.length ≤ text.length := by
  induction hblanks with
  | nil => exact Nat.le_refl _
  | cons hchar hblanks ih => exact Nat.le_succ_of_le ih

theorem SpelledChars.length_lt {chars text rest : List Char}
    (hchars : SpelledChars chars text rest) : rest.length < text.length := by
  induction hchars with
  | close => exact Nat.lt_succ_self _
  | plain hlow hquote hslash hchars ih => exact Nat.lt_succ_of_lt ih
  | letter hletter hchars ih | unit hunit hchars ih | pair hhigh hlow hranges hchars ih =>
      simp only [List.length_cons]
      omega

theorem SpelledDigits.length_lt {digits : List Nat} {text rest : List Char}
    (hdigits : SpelledDigits digits text rest) : rest.length < text.length := by
  induction hdigits with
  | last hdigit => exact Nat.lt_succ_self _
  | cons hdigit hdigits ih => exact Nat.lt_succ_of_lt ih

theorem SpelledSign.length_le {negative : Bool} {text rest : List Char}
    (hsign : SpelledSign negative text rest) : rest.length ≤ text.length := by
  cases hsign with
  | minus => exact Nat.le_succ _
  | absent => exact Nat.le_refl _

theorem SpelledFraction.length_le {fraction : Option (List Nat)} {text rest : List Char}
    (hfraction : SpelledFraction fraction text rest) : rest.length ≤ text.length := by
  cases hfraction with
  | absent => exact Nat.le_refl _
  | digits hdigits => exact Nat.le_succ_of_le (Nat.le_of_lt hdigits.length_lt)

theorem SpelledExponent.length_le {exponent : Option (Bool × List Nat)}
    {text rest : List Char} (hexponent : SpelledExponent exponent text rest) :
    rest.length ≤ text.length := by
  cases hexponent with
  | absent => exact Nat.le_refl _
  | plus hmark hdigits =>
      have hlt := hdigits.length_lt
      simp only [List.length_cons]
      omega
  | signed hmark hsign hdigits =>
      have hlt := hdigits.length_lt
      have hle := hsign.length_le
      simp only [List.length_cons]
      omega

theorem SpelledNumber.length_le {literal : Literal} {text rest : List Char}
    (hliteral : SpelledNumber literal text rest) : rest.length ≤ text.length := by
  obtain ⟨hsign, hwhole, hzero, hfraction, hexponent⟩ := hliteral
  have hdigits := hwhole.length_lt
  have hsigned := hsign.length_le
  have hpoint := hfraction.length_le
  have hmark := hexponent.length_le
  omega

theorem Spelled.length_le {phrase : Phrase} {text rest : List Char}
    (hspelled : Spelled phrase text rest) : rest.length ≤ text.length := by
  induction hspelled with
  | nullName | trueName | falseName =>
      simp only [List.length_cons]
      omega
  | number hliteral hvalue => exact hliteral.length_le
  | string hchars => exact Nat.le_succ_of_le (Nat.le_of_lt hchars.length_lt)
  | emptyArray hblanks | emptyObject hblanks =>
      have := hblanks.length_le
      simp only [List.length_cons] at this ⊢
      omega
  | array hitems ih | object hmembers ih =>
      simp only [List.length_cons] at ih ⊢
      omega
  | element hbefore hvalue hafter ih =>
      exact Nat.le_trans hafter.length_le (Nat.le_trans ih hbefore.length_le)
  | lastItem hitem ih | lastMember hmember ih => exact ih
  | item hitem hitems ih ihs | member hmember hmembers ih ihs =>
      simp only [List.length_cons] at ih
      omega
  | named hbefore hkey hcolon hvalue ih =>
      have hname := hbefore.length_le
      have hlt := hkey.length_lt
      have helement := hcolon.length_le
      simp only [List.length_cons] at hname helement
      omega

/-! ## First characters -/

theorem SpelledDigits.exists_cons {digits : List Nat} {text rest : List Char}
    (hdigits : SpelledDigits digits text rest) :
    ∃ digit after, text = digit :: after ∧ digit.isDigit = true := by
  cases hdigits with
  | last hdigit => exact ⟨_, _, rfl, hdigit⟩
  | cons hdigit hdigits => exact ⟨_, _, rfl, hdigit⟩

theorem SpelledNumber.exists_cons {literal : Literal} {text rest : List Char}
    (hliteral : SpelledNumber literal text rest) :
    ∃ char after, text = char :: after ∧ (char = '-' ∨ char.isDigit = true) := by
  obtain ⟨hsign, hwhole, hzero, hfraction, hexponent⟩ := hliteral
  cases hsign with
  | minus => exact ⟨_, _, rfl, Or.inl rfl⟩
  | absent =>
      obtain ⟨digit, after, rfl, hdigit⟩ := hwhole.exists_cons
      exact ⟨digit, after, rfl, Or.inr hdigit⟩

theorem not_sign_of_isDigit {digit : Char} (hdigit : digit.isDigit = true) :
    digit ≠ '-' ∧ digit ≠ '+' := by
  constructor <;> rintro rfl <;> exact absurd hdigit (by decide)

theorem not_isBlank_of_number {char : Char} (hchar : char = '-' ∨ char.isDigit = true) :
    isBlank char = false := by
  rw [Bool.eq_false_iff]
  intro hblank
  simp only [isBlank, Bool.or_eq_true, decide_eq_true_eq] at hblank
  rcases hblank with ((rfl | rfl) | rfl) | rfl <;> exact absurd hchar (by decide)

/-- A value starts with a character of its own. -/
theorem Spelled.exists_cons {value : Json} {text rest : List Char}
    (hspelled : Spelled (.value value) text rest) :
    ∃ char after, text = char :: after ∧ isBlank char = false ∧ char ≠ ']' := by
  cases hspelled with
  | nullName | trueName | falseName | string | emptyArray | array | emptyObject
  | object => exact ⟨_, _, rfl, by decide, by decide⟩
  | number hliteral hvalue =>
      obtain ⟨char, after, rfl, hchar⟩ := hliteral.exists_cons
      refine ⟨char, after, rfl, not_isBlank_of_number hchar, ?_⟩
      rintro rfl
      exact absurd hchar (by decide)

end Json

end NestedQuery
