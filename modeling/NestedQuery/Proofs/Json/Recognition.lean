import NestedQuery.Proofs.Json.Grammar

/-!
# Reading what is spelled

The reader knows the grammar: a text that spells a value, blanks around it allowed, is
read as that value, unless its containers are nested too deeply.  The scanners take as
much as they can, so a number has to be followed by something that does not continue it;
in a text that spells a value it is.
-/

namespace NestedQuery

namespace Json

/-! ## Blanks and characters -/

theorem skipBlanks_of_blanks {text rest : List Char} (hblanks : Blanks text rest) :
    skipBlanks text = skipBlanks rest := by
  induction hblanks with
  | nil => rfl
  | cons hchar hblanks ih => rwa [skipBlanks, List.dropWhile_cons_of_pos hchar]

theorem skipBlanks_cons {char : Char} (hchar : isBlank char = false) (text : List Char) :
    skipBlanks (char :: text) = char :: text := by
  rw [skipBlanks, List.dropWhile_cons_of_neg (by rw [hchar]; decide)]

theorem escaped?_of_mem_escapes {letter char : Char} (hletter : (letter, char) ∈ escapes) :
    letter ≠ 'u' ∧ escaped? letter = some char := by
  simp only [escapes, List.mem_cons, Prod.mk.injEq, List.not_mem_nil, or_false] at hletter
  rcases hletter with ⟨rfl, rfl⟩ | ⟨rfl, rfl⟩ | ⟨rfl, rfl⟩ | ⟨rfl, rfl⟩ | ⟨rfl, rfl⟩ |
    ⟨rfl, rfl⟩ | ⟨rfl, rfl⟩ | ⟨rfl, rfl⟩ <;> decide

/-- Characters are no surrogates. -/
theorem not_surrogate (char : Char) :
    isHighSurrogate char.toNat = false ∧ isLowSurrogate char.toNat = false := by
  have hvalid : char.toNat < 0xD800 ∨ 0xDFFF < char.toNat ∧ char.toNat < 0x110000 :=
    char.valid
  simp only [isHighSurrogate, isLowSurrogate, Bool.and_eq_false_iff,
    decide_eq_false_iff_not]
  omega

/-- The code unit of a character stands for it. -/
theorem joinPieces?_unit (char : Char) (pieces : List Piece) :
    joinPieces? (.unit char.toNat :: pieces) =
      (joinPieces? pieces).map (char :: ·) := by
  obtain ⟨hhigh, hlow⟩ := not_surrogate char
  have hneither :
      ¬(isHighSurrogate char.toNat = true ∨ isLowSurrogate char.toNat = true) := by
    rw [hhigh, hlow]
    decide
  generalize hjoined : joinPieces? pieces = joined
  rcases pieces with _ | ⟨value | low, pieces⟩
  · rw [joinPieces?, if_neg hneither, hjoined, Char.ofNat_toNat]
    · cases joined <;> rfl
    · rintro low rest ⟨⟩
  · rw [joinPieces?, if_neg hneither, hjoined, Char.ofNat_toNat]
    · cases joined <;> rfl
    · rintro low rest ⟨⟩
  · have hpair : ¬(isHighSurrogate char.toNat = true ∧ isLowSurrogate low = true) :=
      fun hboth => hneither (Or.inl hboth.1)
    rw [joinPieces?, if_neg hpair, if_neg hneither, hjoined, Char.ofNat_toNat]
    cases joined <;> rfl

theorem joinPieces?_char (char : Char) (pieces : List Piece) :
    joinPieces? (.char char :: pieces) = (joinPieces? pieces).map (char :: ·) := by
  rw [joinPieces?]
  cases joinPieces? pieces <;> rfl

theorem scanString?_letter {char letter : Char} (hletter : (letter, char) ∈ escapes)
    (text : List Char) :
    scanString? ('\\' :: letter :: text) =
      (scanString? text).map (Prod.map (.char char :: ·) id) := by
  obtain ⟨hu, hescaped⟩ := escaped?_of_mem_escapes hletter
  rw [scanString?]
  · rw [hescaped]
    cases scanString? text <;> rfl
  · intro a b c d rest hsame
    exact absurd hsame hu

theorem scanString?_plain {char : Char} (hlow : 32 ≤ char.toNat) (hquote : char ≠ '"')
    (hslash : char ≠ '\\') (text : List Char) :
    scanString? (char :: text) =
      (scanString? text).map (Prod.map (.char char :: ·) id) := by
  rw [scanString?]
  · rw [if_neg (not_or.mpr ⟨Nat.not_lt.mpr hlow, hslash⟩)]
    cases scanString? text <;> rfl
  · exact hquote
  · intro a b c d rest hsame
    exact absurd hsame hslash
  · intro letter rest hsame
    exact absurd hsame hslash

/-- What stands in quotes is read as the characters it spells. -/
theorem scanString?_of_spelled {chars text rest : List Char}
    (hchars : SpelledChars chars text rest) :
    ∃ pieces, scanString? text = some (pieces, rest) ∧ joinPieces? pieces = some chars := by
  induction hchars with
  | close => exact ⟨[], rfl, rfl⟩
  | @plain char chars text rest hlow hquote hslash hchars ih =>
      obtain ⟨pieces, hscan, hjoin⟩ := ih
      refine ⟨.char char :: pieces, ?_, ?_⟩
      · rw [scanString?_plain hlow hquote hslash, hscan]
        rfl
      · rw [joinPieces?_char, hjoin]
        rfl
  | @letter letter char chars text rest hletter hchars ih =>
      obtain ⟨pieces, hscan, hjoin⟩ := ih
      refine ⟨.char char :: pieces, ?_, ?_⟩
      · rw [scanString?_letter hletter, hscan]
        rfl
      · rw [joinPieces?_char, hjoin]
        rfl
  | @unit a b c d char chars text rest hunit hchars ih =>
      obtain ⟨pieces, hscan, hjoin⟩ := ih
      refine ⟨.unit char.toNat :: pieces, ?_, ?_⟩
      · simp only [scanString?, hunit, hscan]
        rfl
      · rw [joinPieces?_unit, hjoin]
        rfl
  | @pair a b c d e f g h high low chars text rest hhigh hlow hranges hchars ih =>
      obtain ⟨pieces, hscan, hjoin⟩ := ih
      refine ⟨.unit high :: .unit low :: pieces, ?_, ?_⟩
      · simp only [scanString?, hhigh, hlow, hscan]
        rfl
      · rw [joinPieces?, if_pos hranges, hjoin]
        rfl

/-! ## Numbers -/

/-- No number goes on with this text. -/
def Stops (text : List Char) : Prop :=
  ∀ char ∈ text.head?, char.isDigit = false ∧ char ≠ '.' ∧ char ≠ 'e' ∧ char ≠ 'E'

theorem scanDigits_of_spelled {digits : List Nat} {text rest : List Char}
    (hdigits : SpelledDigits digits text rest)
    (hrest : ∀ char ∈ rest.head?, char.isDigit = false) :
    Literal.scanDigits text = (digits, rest) := by
  have hnone : rest.takeWhile Char.isDigit = [] ∧ rest.dropWhile Char.isDigit = rest := by
    cases rest with
    | nil => exact ⟨rfl, rfl⟩
    | cons char rest =>
        have hchar := hrest char rfl
        simp [hchar]
  induction hdigits with
  | last hdigit =>
      simp [Literal.scanDigits, Literal.digitsOf, hdigit, hnone]
  | cons hdigit hdigits ih =>
      have hscan := ih hrest hnone
      simp only [Literal.scanDigits, Literal.digitsOf, Prod.mk.injEq] at hscan
      simp [Literal.scanDigits, Literal.digitsOf, hdigit, hscan]

theorem scanWhole?_of_spelled {digits : List Nat} {text rest : List Char}
    (hdigits : SpelledDigits digits text rest)
    (hzero : digits = [0] ∨ digits.head? ≠ some 0)
    (hrest : ∀ char ∈ rest.head?, char.isDigit = false) :
    Literal.scanWhole? text = some (digits, rest) := by
  rw [Literal.scanWhole?, scanDigits_of_spelled hdigits hrest]
  split
  · rename_i hnil
    cases hdigits <;> cases hnil
  · rename_i hlong
    cases hlong
    simp at hzero
  · rfl

theorem scanFraction?_of_spelled {fraction : Option (List Nat)} {text rest : List Char}
    (hfraction : SpelledFraction fraction text rest)
    (hrest : ∀ char ∈ rest.head?, char.isDigit = false ∧ char ≠ '.') :
    Literal.scanFraction? text = some (fraction, rest) := by
  cases hfraction with
  | absent =>
      rw [Literal.scanFraction?]
      rintro after rfl
      exact (hrest '.' rfl).2 rfl
  | digits hdigits =>
      rw [Literal.scanFraction?, scanDigits_of_spelled hdigits fun c hc => (hrest c hc).1]
      split
      · rename_i hnil
        cases hdigits <;> cases hnil
      · rename_i hsome
        cases hsome
        rfl

theorem scanExponent?_of_spelled {exponent : Option (Bool × List Nat)}
    {text rest : List Char} (hexponent : SpelledExponent exponent text rest)
    (hstops : Stops rest) : Literal.scanExponent? text = some (exponent, rest) := by
  have hrest : ∀ char ∈ rest.head?, char.isDigit = false := fun c hc => (hstops c hc).1
  cases hexponent with
  | absent =>
      cases text with
      | nil => rfl
      | cons char text =>
          obtain ⟨-, -, hsmall, hlarge⟩ := hstops char rfl
          rw [Literal.scanExponent?.eq_def]
          exact if_neg (not_or.mpr ⟨hsmall, hlarge⟩)
  | plus hmark hdigits =>
      rw [Literal.scanExponent?, if_pos hmark, scanDigits_of_spelled hdigits hrest]
      cases hdigits <;> rfl
  | signed hmark hsign hdigits =>
      have hscan := scanDigits_of_spelled hdigits hrest
      cases hsign with
      | minus =>
          rw [Literal.scanExponent?, if_pos hmark, hscan]
          cases hdigits <;> rfl
      | absent =>
          obtain ⟨digit, after, rfl, hdigit⟩ := hdigits.exists_cons
          obtain ⟨hminus, hplus⟩ := not_sign_of_isDigit hdigit
          rw [Literal.scanExponent?, if_pos hmark, hscan]
          · cases hdigits <;> rfl
          · exact fun rest hsame => hminus (List.cons.inj hsame).1
          · exact fun rest hsame => hplus (List.cons.inj hsame).1

theorem scan?_of_spelled {literal : Literal} {text rest : List Char}
    (hliteral : SpelledNumber literal text rest) (hstops : Stops rest) :
    Literal.scan? text = some (literal, rest) := by
  obtain ⟨hsign, hwhole, hzero, hfraction, hexponent⟩ := hliteral
  rename_i negative whole fraction exponent digits point mark
  -- A digit can follow neither the fraction nor the digits before the point.
  have hmark : ∀ char ∈ mark.head?, char.isDigit = false ∧ char ≠ '.' := by
    intro char hchar
    cases hexponent with
    | absent => exact ⟨(hstops char hchar).1, (hstops char hchar).2.1⟩
    | plus hmark | signed hmark =>
        cases hchar
        rcases hmark with rfl | rfl <;> decide
  have hpoint : ∀ char ∈ point.head?, char.isDigit = false := by
    intro char hchar
    cases hfraction with
    | absent => exact (hmark char hchar).1
    | digits =>
        cases hchar
        rfl
  have hscan : Literal.scanWhole? digits = some (whole, point) :=
    scanWhole?_of_spelled hwhole hzero hpoint
  have hpointed := scanFraction?_of_spelled hfraction hmark
  have hmarked := scanExponent?_of_spelled hexponent hstops
  cases hsign with
  | minus =>
      rw [Literal.scan?]
      simp only [hscan, hpointed, hmarked, Option.bind_eq_bind, Option.bind_some]
      rfl
  | absent =>
      obtain ⟨digit, after, rfl, hdigit⟩ := hwhole.exists_cons
      rw [Literal.scan?]
      · simp only [hscan, hpointed, hmarked, Option.bind_eq_bind, Option.bind_some]
        rfl
      · exact fun rest hsame => (not_sign_of_isDigit hdigit).1 (List.cons.inj hsame).1

/-! ## Phrases -/

/-- What may follow an element: the end, or what closes or continues a container. -/
def Closes (rest : List Char) : Prop :=
  ∀ char ∈ rest.head?, char = ',' ∨ char = ']' ∨ char = '\x7d'

theorem Closes.skipBlanks_eq {rest : List Char} (hcloses : Closes rest) :
    skipBlanks rest = rest := by
  cases rest with
  | nil => rfl
  | cons char rest =>
      apply skipBlanks_cons
      rcases hcloses char rfl with rfl | rfl | rfl <;> rfl

theorem Blanks.stops {text rest : List Char} (hblanks : Blanks text rest)
    (hcloses : Closes rest) : Stops text := by
  intro char hchar
  cases hblanks with
  | nil =>
      rcases hcloses char hchar with rfl | rfl | rfl <;> decide
  | cons hblank =>
      cases hchar
      simp only [isBlank, Bool.or_eq_true, decide_eq_true_eq] at hblank
      rcases hblank with ((rfl | rfl) | rfl) | rfl <;> decide

theorem Spelled.skipBlanks_items {items : List Json} {text rest : List Char}
    (hspelled : Spelled (.items items) text rest) :
    ∃ char after, skipBlanks text = char :: after ∧ char ≠ ']' := by
  have helement : ∀ {item : Json} {rest : List Char}, Spelled (.element item) text rest →
      ∃ char after, skipBlanks text = char :: after ∧ char ≠ ']' := by
    intro item rest hitem
    cases hitem with
    | element hbefore hvalue hafter =>
        obtain ⟨char, after, rfl, hblank, hchar⟩ := hvalue.exists_cons
        refine ⟨char, after, ?_, hchar⟩
        rw [skipBlanks_of_blanks hbefore, skipBlanks_cons hblank]
  cases hspelled with
  | lastItem hitem | item hitem => exact helement hitem

theorem Spelled.skipBlanks_members {members : List (String × Json)}
    {text rest : List Char} (hspelled : Spelled (.members members) text rest) :
    ∃ after, skipBlanks text = '"' :: after := by
  have hnamed : ∀ {key : String} {value : Json} {rest : List Char},
      Spelled (.member key value) text rest → ∃ after, skipBlanks text = '"' :: after := by
    intro key value rest hmember
    cases hmember with
    | named hbefore hkey hcolon hvalue =>
        exact ⟨_, by rw [skipBlanks_of_blanks hbefore, skipBlanks_cons rfl]⟩
  cases hspelled with
  | lastMember hmember | member hmember => exact hnamed hmember

theorem readValue_of_spelledNumber {literal : Literal} {value : Number}
    {text rest : List Char} (hliteral : SpelledNumber literal text rest)
    (hvalue : literal.number? = some value) (hstops : Stops rest) (fuel depth : Nat) :
    readValue (fuel + 1) depth text = (.number value, some rest) := by
  have hscan := scan?_of_spelled hliteral hstops
  obtain ⟨char, after, rfl, hchar⟩ := hliteral.exists_cons
  rw [readValue, skipBlanks_cons (not_isBlank_of_number hchar)]
  split
  -- No other value starts like a number.
  iterate 6
    · rename_i hsame
      rw [(List.cons.inj hsame).1] at hchar
      exact absurd hchar (by decide)
  · simp only [hscan, hvalue]
    rfl

theorem readValue_of_skipBlanks {text start : List Char}
    (hskip : skipBlanks text = skipBlanks start) (fuel depth : Nat) :
    readValue fuel depth text = readValue fuel depth start := by
  cases fuel with
  | zero => rfl
  | succ fuel => rw [readValue, readValue, hskip]

/-- What a reader makes of a phrase. -/
def ReadsPhrase : Phrase → List Char → List Char → Prop
  | .value value, text, rest => ∀ fuel depth, 2 * text.length ≤ fuel →
      depth + value.depth ≤ depthLimit → Stops rest →
      readValue fuel depth text = (.ofJson value, some rest)
  | .element value, text, rest => ∀ fuel depth, 2 * text.length ≤ fuel →
      depth + value.depth ≤ depthLimit → Closes rest →
      ∃ stop, readValue fuel depth text = (.ofJson value, some stop) ∧
        skipBlanks stop = rest
  | .items items, text, rest => ∀ fuel depth after, rest = ']' :: after →
      2 * text.length < fuel → depth + itemsDepth items ≤ depthLimit →
      readItems fuel depth text = (Source.ofItems items, some after)
  | .member key value, text, rest => ∀ fuel depth, 2 * text.length ≤ fuel →
      depth + value.depth ≤ depthLimit → Closes rest →
      ∃ name pieces colon element stop, skipBlanks text = '"' :: name ∧
        scanString? name = some (pieces, colon) ∧ pieces? pieces = some key ∧
        skipBlanks colon = ':' :: element ∧
        readValue fuel depth element = (.ofJson value, some stop) ∧
        skipBlanks stop = rest
  | .members members, text, rest => ∀ fuel depth after, rest = '\x7d' :: after →
      2 * text.length < fuel → depth + membersDepth members ≤ depthLimit →
      readMembers fuel depth text = (Source.ofMembers members, some after)

/-- The reader makes of a phrase what it spells. -/
theorem Spelled.readsPhrase {phrase : Phrase} {text rest : List Char}
    (hspelled : Spelled phrase text rest) : ReadsPhrase phrase text rest := by
  induction hspelled with
  | nullName | trueName | falseName =>
      intro fuel depth hfuel hdepth hstops
      cases fuel with
      | zero => exact absurd hfuel (by simp)
      | succ fuel =>
          rw [readValue, skipBlanks_cons rfl]
          rfl
  | number hliteral hvalue =>
      intro fuel depth hfuel hdepth hstops
      cases fuel with
      | zero =>
          obtain ⟨char, after, rfl, hchar⟩ := hliteral.exists_cons
          exact absurd hfuel (by simp)
      | succ fuel => exact readValue_of_spelledNumber hliteral hvalue hstops fuel depth
  | string hchars =>
      intro fuel depth hfuel hdepth hstops
      cases fuel with
      | zero => exact absurd hfuel (by simp)
      | succ fuel =>
          obtain ⟨pieces, hscan, hjoin⟩ := scanString?_of_spelled hchars
          rw [readValue, skipBlanks_cons rfl]
          simp only [hscan, pieces?, hjoin, Option.map_some, String.ofList_toList]
          rfl
  | @emptyArray text rest hblanks =>
      intro fuel depth hfuel hdepth hstops
      have hopen : skipBlanks text = ']' :: rest := by
        rw [skipBlanks_of_blanks hblanks, skipBlanks_cons rfl]
      cases fuel with
      | zero => exact absurd hfuel (by simp)
      | succ fuel =>
          rw [readValue, skipBlanks_cons rfl]
          simp only [hopen]
          exact congrArg (·, some rest) (if_pos hdepth)
  | @array items text rest hitems ih =>
      intro fuel depth hfuel hdepth hstops
      cases fuel with
      | zero => exact absurd hfuel (by simp)
      | succ fuel =>
          rw [List.length_cons] at hfuel
          rw [Json.depth] at hdepth
          have hread := ih fuel (depth + 1) rest rfl (by omega) (by omega)
          obtain ⟨char, after, hstart, hchar⟩ := hitems.skipBlanks_items
          rw [readValue, skipBlanks_cons rfl]
          simp only [hstart, hread]
          split
          · rename_i hsame
            exact absurd (List.cons.inj hsame).1 hchar
          · exact congrArg (·, some rest) (if_pos (by omega))
  | @emptyObject text rest hblanks =>
      intro fuel depth hfuel hdepth hstops
      have hopen : skipBlanks text = '\x7d' :: rest := by
        rw [skipBlanks_of_blanks hblanks, skipBlanks_cons rfl]
      cases fuel with
      | zero => exact absurd hfuel (by simp)
      | succ fuel =>
          rw [readValue, skipBlanks_cons rfl]
          simp only [hopen]
          exact congrArg (·, some rest) (if_pos hdepth)
  | @object members text rest hmembers ih =>
      intro fuel depth hfuel hdepth hstops
      cases fuel with
      | zero => exact absurd hfuel (by simp)
      | succ fuel =>
          rw [List.length_cons] at hfuel
          rw [Json.depth] at hdepth
          have hread := ih fuel (depth + 1) rest rfl (by omega) (by omega)
          obtain ⟨after, hstart⟩ := hmembers.skipBlanks_members
          rw [readValue, skipBlanks_cons rfl]
          simp only [hstart, hread]
          exact congrArg (·, some rest) (if_pos (by omega))
  | @element value text start stop rest hbefore hvalue hafter ih =>
      intro fuel depth hfuel hdepth hcloses
      have hlength := hbefore.length_le
      refine ⟨stop, ?_, ?_⟩
      · rw [readValue_of_skipBlanks (skipBlanks_of_blanks hbefore)]
        exact ih fuel depth (by omega) hdepth (hafter.stops hcloses)
      · rw [skipBlanks_of_blanks hafter, hcloses.skipBlanks_eq]
  | lastItem hitem ih =>
      rintro fuel depth after rfl hfuel hdepth
      cases fuel with
      | zero => exact absurd hfuel (Nat.not_lt_zero _)
      | succ fuel =>
          obtain ⟨stop, hread, hskip⟩ := ih fuel depth (by omega)
            (by simpa [itemsDepth] using hdepth) (by rintro char ⟨⟩; decide)
          rw [readItems, hread]
          simp only [hskip]
          rfl
  | @item item items text more rest hitem hitems ih ihs =>
      rintro fuel depth after rfl hfuel hdepth
      cases fuel with
      | zero => exact absurd hfuel (Nat.not_lt_zero _)
      | succ fuel =>
          have hlength := hitem.length_le
          simp only [List.length_cons, itemsDepth] at hlength hdepth
          obtain ⟨stop, hread, hskip⟩ := ih fuel depth (by omega) (by omega)
            (by rintro char ⟨⟩; decide)
          rw [readItems, hread]
          simp only [hskip, ihs fuel depth after rfl (by omega) (by omega)]
          rfl
  | @named key value text name colon element rest hbefore hkey hcolon hvalue ih =>
      intro fuel depth hfuel hdepth hcloses
      have hname := hbefore.length_le
      have hlt := hkey.length_lt
      have helement := hcolon.length_le
      simp only [List.length_cons] at hname helement
      obtain ⟨pieces, hscan, hjoin⟩ := scanString?_of_spelled hkey
      obtain ⟨stop, hread, hskip⟩ := ih fuel depth (by omega) hdepth hcloses
      refine ⟨name, pieces, colon, element, stop, ?_, hscan, ?_, ?_, hread, hskip⟩
      · rw [skipBlanks_of_blanks hbefore, skipBlanks_cons rfl]
      · rw [pieces?, hjoin, Option.map_some, String.ofList_toList]
      · rw [skipBlanks_of_blanks hcolon, skipBlanks_cons rfl]
  | lastMember hmember ih =>
      rintro fuel depth after rfl hfuel hdepth
      cases fuel with
      | zero => exact absurd hfuel (Nat.not_lt_zero _)
      | succ fuel =>
          obtain ⟨name, pieces, colon, element, stop, hquote, hscan, hkey, hcolon, hread,
            hskip⟩ := ih fuel depth (by omega) (by simpa [membersDepth] using hdepth)
              (by rintro char ⟨⟩; decide)
          rw [readMembers, hquote]
          simp only [hscan, hkey, hcolon, hread, hskip]
          rfl
  | @member key value members text more rest hmember hmembers ih ihs =>
      rintro fuel depth after rfl hfuel hdepth
      cases fuel with
      | zero => exact absurd hfuel (Nat.not_lt_zero _)
      | succ fuel =>
          have hlength := hmember.length_le
          simp only [List.length_cons, membersDepth] at hlength hdepth
          obtain ⟨name, pieces, colon, element, stop, hquote, hscan, hkey, hcolon, hread,
            hskip⟩ := ih fuel depth (by omega) (by omega) (by rintro char ⟨⟩; decide)
          rw [readMembers, hquote]
          simp only [hscan, hkey, hcolon, hread, hskip,
            ihs fuel depth after rfl (by omega) (by omega)]
          rfl

/-- What a text spells is what is read. -/
theorem read_of_spells {text : String} {value : Json} (hspells : Spells text.toList value)
    (hdepth : value.depth ≤ depthLimit) : read text = .ofJson value := by
  obtain ⟨stop, hread, hskip⟩ := hspells.readsPhrase (readingFuel text.toList) 0
    (Nat.le_add_right _ 2) (by rwa [Nat.zero_add]) (by rintro char ⟨⟩)
  rw [read, hread]
  simp only [hskip]
  rfl

end Json

end NestedQuery
