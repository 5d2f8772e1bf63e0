import NestedQuery.Proofs.Json.Settled
import NestedQuery.Proofs.Json.Texts

/-!
# Reading what was written

The compact text of a value spells the value, provided that its numbers are integers: a
double may miss itself by one place when it is read again.  So the text is read as it was
written, members in order and repeated keys included, as long as its containers are not
nested too deeply.
-/

namespace NestedQuery

namespace Json

mutual

/-- Every number of a value is an integer. -/
def Integral : Json → Prop
  | .number (.real _) => False
  | .array items => ItemsIntegral items
  | .object members => MembersIntegral members
  | _ => True

def ItemsIntegral : List Json → Prop
  | [] => True
  | item :: items => item.Integral ∧ ItemsIntegral items

def MembersIntegral : List (String × Json) → Prop
  | [] => True
  | (_, value) :: members => value.Integral ∧ MembersIntegral members

end

theorem itemsIntegral_iff {items : List Json} :
    ItemsIntegral items ↔ ∀ item ∈ items, item.Integral := by
  induction items with
  | nil => simp [ItemsIntegral]
  | cons item items ih => rw [ItemsIntegral, ih, List.forall_mem_cons]

/-! ## Integers -/

theorem spelledDigits_append {digits : List Char} (hdigits : digits ≠ [])
    (hall : ∀ digit ∈ digits, digit.isDigit = true) (rest : List Char) :
    SpelledDigits (Literal.digitsOf digits) (digits ++ rest) rest := by
  induction digits with
  | nil => exact absurd rfl hdigits
  | cons digit digits ih =>
      obtain ⟨hdigit, hothers⟩ := List.forall_mem_cons.mp hall
      cases digits with
      | nil => exact .last hdigit
      | cons next digits => exact .cons hdigit (ih (List.cons_ne_nil _ _) hothers)

theorem natural_digitsOf_toDigits (value : Nat) :
    Literal.natural (Literal.digitsOf (Nat.toDigits 10 value)) = value := by
  rw [Literal.natural, Literal.digitsOf, Text.foldl_digits, Nat.ofDigitChars_ten_toDigits]

/-- Only zero starts with a zero. -/
theorem head?_digitsOf_toDigits {value : Nat} (hpos : 0 < value) :
    (Literal.digitsOf (Nat.toDigits 10 value)).head? ≠ some 0 := by
  induction value using Nat.strongRecOn with
  | ind value ih =>
      rw [Nat.toDigits_eq_if (by decide)]
      split
      · rename_i hlt
        have hvalue : (Nat.digitChar value).toNat - 48 = value := by
          rw [Nat.toNat_digitChar_of_lt_ten hlt]
          omega
        simp only [Literal.digitsOf, List.map_cons, List.head?_cons, hvalue]
        simp only [ne_eq, Option.some.injEq]
        omega
      · rename_i hge
        have hhead := ih (value / 10) (by omega) (by omega)
        obtain ⟨digit, digits, hdigits⟩ :=
          List.exists_cons_of_ne_nil (@Nat.toDigits_ne_nil (value / 10) 10)
        rw [hdigits] at hhead ⊢
        exact hhead

/-- Digits are taken into the significand while their number fits a word. -/
theorem absorb_of_lt {significand : Nat} {digits : List Nat}
    (hfits : digits.foldl (fun value digit => value * 10 + digit) significand <
      UInt64.size) :
    Literal.absorb significand digits =
      (digits.foldl (fun value digit => value * 10 + digit) significand, []) := by
  have hgrows : ∀ (digits : List Nat) (start : Nat),
      start ≤ digits.foldl (fun value digit => value * 10 + digit) start := by
    intro digits
    induction digits with
    | nil => exact fun start => Nat.le_refl _
    | cons digit digits ih =>
        intro start
        have hnext := ih (start * 10 + digit)
        rw [List.foldl_cons]
        omega
  induction digits generalizing significand with
  | nil => rfl
  | cons digit digits ih =>
      rw [List.foldl_cons] at hfits
      have hnext := Nat.lt_of_le_of_lt (hgrows digits _) hfits
      rw [Literal.absorb, if_pos hnext, ih hfits, List.foldl_cons]

/-- The literal that an integer is written as. -/
def integerLiteral (value : Int) : Literal :=
  ⟨value < 0, Literal.digitsOf (Nat.toDigits 10 value.natAbs), none, none⟩

theorem number?_integerLiteral {value : Int} (word : IsWord value) :
    (integerLiteral value).number? = some (.integer value word) := by
  have hnatural := natural_digitsOf_toDigits value.natAbs
  have hfits : value.natAbs < UInt64.size := by
    obtain ⟨hlow, hhigh⟩ := word
    have hsize : UInt64.size = 18446744073709551616 := rfl
    omega
  have habsorb : Literal.absorb 0 (Literal.digitsOf (Nat.toDigits 10 value.natAbs)) =
      (value.natAbs, []) := by
    rw [absorb_of_lt (by rw [← Literal.natural, hnatural]; exact hfits), ← Literal.natural,
      hnatural]
  have hsigned : (if decide (value < 0) = true then -(value.natAbs : Int)
      else value.natAbs) = value := by
    split
    · rename_i hneg
      rw [decide_eq_true_eq] at hneg
      omega
    · rename_i hneg
      rw [decide_eq_true_eq] at hneg
      omega
  have hzero : ¬(decide (value < 0) = true ∧ value.natAbs = 0) := by
    rw [decide_eq_true_eq]
    omega
  rw [Literal.number?, integerLiteral]
  simp only [habsorb, hsigned]
  rw [dif_pos ⟨word, hzero⟩]

theorem spelledNumber_integer {value : Int} (word : IsWord value) (rest : List Char) :
    SpelledNumber (integerLiteral value) (numberChars (.integer value word) ++ rest)
      rest := by
  have hdigits := spelledDigits_append (@Nat.toDigits_ne_nil value.natAbs 10)
    (fun digit hmem => Nat.isDigit_of_mem_toDigits (by decide) (by decide) hmem) rest
  have hzero : Literal.digitsOf (Nat.toDigits 10 value.natAbs) = [0] ∨
      (Literal.digitsOf (Nat.toDigits 10 value.natAbs)).head? ≠ some 0 := by
    rcases Nat.eq_zero_or_pos value.natAbs with hvalue | hpos
    · rw [hvalue]
      exact Or.inl rfl
    · exact Or.inr (head?_digitsOf_toDigits hpos)
  rw [numberChars, integerLiteral]
  split
  · rename_i hneg
    rw [decide_eq_true hneg]
    exact .mk .minus hdigits hzero .absent .absent
  · rename_i hneg
    rw [decide_eq_false hneg]
    exact .mk .absent hdigits hzero .absent .absent

/-! ## Values -/

theorem spelledChars_value (value : String) (rest : List Char) :
    SpelledChars value.toList (value.toList.flatMap escapeChar ++ '"' :: rest) rest :=
  spelledChars_flatMap escaped_escapeChar value.toList rest

theorem spelled_string (value : String) (rest : List Char) :
    Spelled (.value (.string value)) (stringChars value ++ rest) rest := by
  rw [stringChars, List.cons_append, List.append_assoc]
  exact .string (spelledChars_value value rest)

theorem spelled_written_member {value : Json} {text : List Char} (key : String)
    {rest : List Char} (hvalue : Spelled (.value value) text rest) :
    Spelled (.member key value) (stringChars key ++ ':' :: text) rest := by
  rw [stringChars, List.cons_append, List.append_assoc]
  exact .named .nil (spelledChars_value key _) .nil (.element .nil hvalue .nil)

mutual

/-- A value is spelled by its text, whatever follows. -/
theorem spelled_chars : ∀ {value : Json}, value.Integral → ∀ rest,
    Spelled (.value value) (value.chars ++ rest) rest
  | .null, _, _ => .nullName
  | .bool true, _, _ => .trueName
  | .bool false, _, _ => .falseName
  | .number (.integer value word), _, rest =>
      .number (spelledNumber_integer word rest) (number?_integerLiteral word)
  | .string value, _, rest => spelled_string value rest
  | .array [], _, _ => .emptyArray .nil
  | .array (item :: items), hintegral, rest => by
      rw [chars, List.cons_append, List.append_assoc]
      have hitem : ∀ rest, Spelled (.value item) (item.chars ++ rest) rest :=
        spelled_chars hintegral.1
      exact .array (spelled_items hintegral.2 (hitem _))
  | .object [], _, _ => .emptyObject .nil
  | .object ((key, value) :: members), hintegral, rest => by
      rw [chars, List.cons_append, List.append_assoc, List.cons_append, List.append_assoc]
      have hvalue : ∀ rest, Spelled (.value value) (value.chars ++ rest) rest :=
        spelled_chars hintegral.1
      exact .object (spelled_moreMembers hintegral.2 (spelled_written_member key (hvalue _)))

theorem spelled_items : ∀ {items : List Json}, ItemsIntegral items →
    ∀ {item : Json} {text rest : List Char},
      Spelled (.value item) text (moreItems items ++ rest) →
      Spelled (.items (item :: items)) text (']' :: rest)
  | [], _, _, _, _, hitem => .lastItem (.element .nil hitem .nil)
  | next :: items, hintegral, _, _, rest, hitem => by
      rw [moreItems, List.cons_append, List.append_assoc] at hitem
      exact .item (.element .nil hitem .nil)
        (spelled_items hintegral.2 (spelled_chars hintegral.1 _))

theorem spelled_moreMembers : ∀ {members : List (String × Json)}, MembersIntegral members →
    ∀ {key : String} {value : Json} {text rest : List Char},
      Spelled (.member key value) text (moreMembers members ++ rest) →
      Spelled (.members ((key, value) :: members)) text ('\x7d' :: rest)
  | [], _, _, _, _, _, hmember => .lastMember hmember
  | (next, value) :: members, hintegral, _, _, _, rest, hmember => by
      rw [moreMembers, List.cons_append, List.append_assoc, List.cons_append,
        List.append_assoc] at hmember
      exact .member hmember (spelled_moreMembers hintegral.2
        (spelled_written_member next (spelled_chars hintegral.1 _)))

end

/-- A value whose numbers are integers is read as it was written. -/
theorem read_render {value : Json} (hintegral : value.Integral)
    (hdepth : value.depth ≤ depthLimit) : read value.render = .ofJson value := by
  apply read_of_spells _ hdepth
  rw [render, String.toList_ofList]
  have hspelled := spelled_chars hintegral []
  rw [List.append_nil] at hspelled
  exact .element .nil hspelled .nil

/-- An object whose keys are distinct is read back member by member. -/
theorem parse?_render_object {members : List (String × Json)}
    (hintegral : MembersIntegral members) (hdepth : (object members).depth ≤ depthLimit)
    (hsettled : MembersSettled members) (hdistinct : (members.map Prod.fst).Nodup) :
    ∃ report, parse? (object members).render = some report ∧
      ∀ key, report.member? key = members.lookup key := by
  have hread : read (object members).render = .ofJson (object members) :=
    read_render hintegral hdepth
  refine ⟨ofMembers members, ?_, lookup_ofList hdistinct⟩
  rw [parse?, hread, json?_ofJson_object hsettled]

end Json

end NestedQuery
