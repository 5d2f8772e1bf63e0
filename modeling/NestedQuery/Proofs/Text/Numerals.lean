import Mathlib.Data.List.TakeWhile
import NestedQuery.Text.Characters

/-!
# Numerals

A decimal numeral is one digit or more, and its value is that of its digits.  Trimming
takes white space from both ends of a text and nothing else, so what is left of a
numeral between white space is the numeral.
-/

namespace NestedQuery

namespace Text

/-! ## Digits -/

/-- Digits that denote a number in decimal. -/
structure Denotes (numeral : List Char) (value : Nat) : Prop where
  nonempty : numeral ≠ []
  digits : ∀ digit ∈ numeral, digit.isDigit = true
  value_eq : Nat.ofDigitChars 10 numeral 0 = value

theorem isDigit_iff {char : Char} :
    char.isDigit = true ↔ 48 ≤ char.toNat ∧ char.toNat ≤ 57 := by
  simp [Char.isDigit, UInt32.le_iff_toNat_le]

theorem filter_hexValue? (char : Char) :
    ((hexValue? char).filter fun value => value < 10) =
      if char.isDigit then some (char.toNat - 48) else none := by
  have hle : ∀ first second : Char, first ≤ second ↔ first.toNat ≤ second.toNat :=
    fun _ _ => UInt32.le_iff_toNat_le
  rw [hexValue?]
  simp only [hle, Char.reduceToNat, isDigit_iff]
  split
  · rename_i hdigit
    rw [Option.filter_some, if_pos (by simp; omega)]
  -- The other digits of larger radices have larger values.
  · split
    · rw [Option.filter_some, if_neg (by simp; omega)]
    · split
      · rw [Option.filter_some, if_neg (by simp; omega)]
      · rfl

theorem mapM_ite_eq_some_iff {A B : Type} {p : A → Bool} {f : A → B} {items : List A}
    {values : List B} :
    (items.mapM fun item => if p item then some (f item) else none) = some values ↔
      (∀ item ∈ items, p item = true) ∧ items.map f = values := by
  induction items generalizing values with
  | nil => simp
  | cons item items ih =>
      rw [List.mapM_cons, List.forall_mem_cons, List.map_cons]
      cases p item with
      | false => simp
      | true =>
          simp only [↓reduceIte, Option.bind_eq_bind, Option.bind_some, Option.pure_def,
            Option.bind_eq_some_iff, ih, true_and]
          constructor
          · rintro ⟨others, ⟨hall, rfl⟩, hvalues⟩
            exact ⟨hall, Option.some.inj hvalues⟩
          · rintro ⟨hall, rfl⟩
            exact ⟨items.map f, ⟨hall, rfl⟩, rfl⟩

/-- The value of digits, taken one by one. -/
theorem foldl_digits (numeral : List Char) :
    (numeral.map (·.toNat - 48)).foldl (fun number digit => number * 10 + digit) 0 =
      Nat.ofDigitChars 10 numeral 0 := by
  rw [Nat.ofDigitChars, List.foldl_map]
  simp only [Nat.mul_comm, Char.reduceToNat]

theorem natural?_eq_some_iff {numeral : List Char} {value : Nat} :
    natural? 10 numeral = some value ↔ Denotes numeral value := by
  have hvalue := foldl_digits numeral
  rw [natural?]
  split
  · rename_i hempty
    refine iff_of_false (by simp) fun hdenotes => hdenotes.nonempty ?_
    exact List.isEmpty_iff.mp hempty
  · rename_i hempty
    simp only [filter_hexValue?, Option.bind_eq_bind, Option.pure_def,
      Option.bind_eq_some_iff, mapM_ite_eq_some_iff]
    constructor
    · rintro ⟨values, ⟨hall, rfl⟩, hsome⟩
      rw [hvalue] at hsome
      exact ⟨fun hnil => hempty (List.isEmpty_iff.mpr hnil), hall, Option.some.inj hsome⟩
    · rintro ⟨-, hall, rfl⟩
      exact ⟨_, ⟨hall, rfl⟩, congrArg some hvalue⟩

/-! ## White space -/

theorem exists_trim (text : List Char) :
    ∃ before after, text = before ++ trim text ++ after ∧
      ∀ char ∈ before ++ after, isWhiteSpace char = true := by
  have hfront := List.takeWhile_append_dropWhile (p := isWhiteSpace) (l := text)
  have hback := congrArg List.reverse (List.takeWhile_append_dropWhile
    (p := isWhiteSpace) (l := (text.dropWhile isWhiteSpace).reverse))
  rw [List.reverse_append, List.reverse_reverse] at hback
  refine ⟨text.takeWhile isWhiteSpace,
    ((text.dropWhile isWhiteSpace).reverse.takeWhile isWhiteSpace).reverse, ?_, ?_⟩
  · rw [trim, List.append_assoc, hback, hfront]
  · intro char hmem
    rcases List.mem_append.mp hmem with hmem | hmem
    · exact List.mem_takeWhile_imp hmem
    · exact List.mem_takeWhile_imp (List.mem_reverse.mp hmem)

theorem dropWhile_of_forall {core rest : List Char} (hcore : core ≠ [])
    (hplain : ∀ char ∈ core, isWhiteSpace char = false) :
    (core ++ rest).dropWhile isWhiteSpace = core ++ rest := by
  cases core with
  | nil => exact absurd rfl hcore
  | cons char core =>
      rw [List.cons_append, List.dropWhile_cons_of_neg]
      simp [hplain char List.mem_cons_self]

theorem trim_eq {before core after : List Char}
    (hspace : ∀ char ∈ before ++ after, isWhiteSpace char = true) (hcore : core ≠ [])
    (hplain : ∀ char ∈ core, isWhiteSpace char = false) :
    trim (before ++ core ++ after) = core := by
  rw [List.forall_mem_append] at hspace
  have hafter : ∀ char ∈ after.reverse, isWhiteSpace char = true :=
    fun char hmem => hspace.2 char (List.mem_reverse.mp hmem)
  have hreverse : core.reverse.dropWhile isWhiteSpace = core.reverse := by
    have hdrop := @dropWhile_of_forall core.reverse [] (by simpa using hcore)
      fun char hmem => hplain char (List.mem_reverse.mp hmem)
    rwa [List.append_nil] at hdrop
  rw [trim, List.append_assoc, List.dropWhile_append_of_pos hspace.1,
    dropWhile_of_forall hcore hplain, List.reverse_append,
    List.dropWhile_append_of_pos hafter, hreverse, List.reverse_reverse]

theorem isWhiteSpace_of_isDigit {char : Char} (hdigit : char.isDigit = true) :
    isWhiteSpace char = false := by
  have hrange := isDigit_iff.mp hdigit
  simp only [isWhiteSpace, Bool.or_eq_false_iff, Bool.and_eq_false_iff,
    decide_eq_false_iff_not]
  omega

end Text

end NestedQuery
