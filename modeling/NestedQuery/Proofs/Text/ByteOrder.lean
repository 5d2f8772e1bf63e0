import Mathlib.Data.String.Basic
import Mathlib.Tactic.SplitIfs

/-!
# The order of bytes

Texts compare by code point, and that is the order of their bytes in UTF-8.  Of two
characters the smaller is written in smaller bytes: the first byte announces how many
follow and holds the leading digits of the code, the bytes after it hold the others,
all to the base 64.  No character is the beginning of another, so what follows the
characters decides only where they are the same.
-/

namespace NestedQuery.Text

open String (utf8EncodeChar)

/-- The bytes of a text in UTF-8. -/
def bytes (text : String) : List UInt8 := text.toUTF8.data.toList

theorem bytes_eq_flatMap (text : String) :
    bytes text = text.toList.flatMap utf8EncodeChar := by
  obtain ⟨chars, rfl⟩ : ∃ chars, text = String.ofList chars :=
    ⟨text.toList, String.ofList_toList.symm⟩
  rw [bytes, String.toUTF8_eq_toByteArray, String.toByteArray_ofList,
    String.toList_ofList, List.utf8Encode]
  simp

/-! ## One character -/

/-- The bytes that continue a character: the last digits of its code. -/
def continuing : Nat → Nat → List UInt8
  | 0, _ => []
  | count + 1, code =>
      UInt8.ofNat (code / 64 ^ count % 64 + 128) :: continuing count code

/-- The bytes of a code that some bytes continue; `mark` announces their number. -/
def encoded (count mark code : Nat) : List UInt8 :=
  UInt8.ofNat (code / 64 ^ count + mark) :: continuing count code

theorem ofNat_cons_lt_iff {low high : Nat} (hlow : low < 256) (hhigh : high < 256)
    (after later : List UInt8) :
    UInt8.ofNat low :: after < UInt8.ofNat high :: later ↔
      low < high ∨ low = high ∧ after < later := by
  rw [List.cons_lt_cons_iff, UInt8.lt_iff_toNat_lt, ← UInt8.toNat_inj,
    UInt8.toNat_ofNat', UInt8.toNat_ofNat', Nat.mod_eq_of_lt hlow,
    Nat.mod_eq_of_lt hhigh]

theorem continuing_append_lt {count low high : Nat}
    (hlt : low % 64 ^ count < high % 64 ^ count) (after later : List UInt8) :
    continuing count low ++ after < continuing count high ++ later := by
  induction count with
  | zero => simp [Nat.mod_one] at hlt
  | succ count ih =>
      rw [Nat.mod_pow_succ, Nat.mod_pow_succ] at hlt
      rw [continuing, continuing, List.cons_append, List.cons_append,
        ofNat_cons_lt_iff (by omega) (by omega)]
      rcases Nat.lt_trichotomy (low / 64 ^ count % 64) (high / 64 ^ count % 64)
        with hdigit | hdigit | hdigit
      · exact Or.inl (Nat.add_lt_add_right hdigit 128)
      · rw [hdigit] at hlt ⊢
        exact Or.inr ⟨rfl, ih (Nat.lt_of_add_lt_add_right hlt)⟩
      · have hhigh := Nat.mod_lt high (Nat.pow_pos (n := count) (a := 64) (by decide))
        have hmul := Nat.mul_le_mul_left (64 ^ count) (Nat.succ_le_of_lt hdigit)
        rw [Nat.mul_succ] at hmul
        omega

/-- Codes that as many bytes continue. -/
theorem encoded_append_lt {count mark low high : Nat} (hlt : low < high)
    (hbyte : high / 64 ^ count + mark < 256) (after later : List UInt8) :
    encoded count mark low ++ after < encoded count mark high ++ later := by
  have hle : low / 64 ^ count ≤ high / 64 ^ count := Nat.div_le_div_right (Nat.le_of_lt hlt)
  rw [encoded, encoded, List.cons_append, List.cons_append,
    ofNat_cons_lt_iff (by omega) hbyte]
  rcases Nat.lt_or_eq_of_le hle with hdigit | hdigit
  · exact Or.inl (Nat.add_lt_add_right hdigit mark)
  · refine Or.inr ⟨congrArg (· + mark) hdigit, continuing_append_lt ?_ after later⟩
    have hlow := Nat.div_add_mod low (64 ^ count)
    have hhigh := Nat.div_add_mod high (64 ^ count)
    rw [hdigit] at hlow
    omega

theorem utf8EncodeChar_eq (char : Char) : ∃ count mark,
    utf8EncodeChar char = encoded count mark char.toNat ∧
      ((count = 0 ∧ mark = 0 ∧ char.toNat < 128) ∨
        (count = 1 ∧ mark = 192 ∧ 128 ≤ char.toNat ∧ char.toNat < 2048) ∨
        (count = 2 ∧ mark = 224 ∧ 2048 ≤ char.toNat ∧ char.toNat < 65536) ∨
        (count = 3 ∧ mark = 240 ∧ 65536 ≤ char.toNat ∧ char.toNat < 1114112)) := by
  have hcode : char.toNat < 1114112 := by
    rcases char.valid with hvalid | hvalid
    · exact Nat.lt_trans hvalid (by decide)
    · exact hvalid.2
  have hval : char.val.toNat = char.toNat := rfl
  simp only [utf8EncodeChar, hval]
  split_ifs with hone htwo hthree
  · exact ⟨0, 0, by simp [encoded, continuing], by omega⟩
  · refine ⟨1, 192, ?_, by omega⟩
    rw [Nat.mod_eq_of_lt (by omega)]
    simp [encoded, continuing]
  · refine ⟨2, 224, ?_, by omega⟩
    rw [Nat.mod_eq_of_lt (a := char.toNat / 4096) (by omega)]
    simp [encoded, continuing]
  · refine ⟨3, 240, ?_, by omega⟩
    rw [Nat.mod_eq_of_lt (a := char.toNat / 262144) (by omega)]
    simp [encoded, continuing]

/-- A smaller character is written in smaller bytes, whatever follows. -/
theorem utf8EncodeChar_append_lt {left right : Char} (hlt : left < right)
    (after later : List UInt8) :
    utf8EncodeChar left ++ after < utf8EncodeChar right ++ later := by
  have hcodes : left.toNat < right.toNat := hlt
  obtain ⟨count, mark, hleft, hlow⟩ := utf8EncodeChar_eq left
  obtain ⟨more, high, hright, hhigh⟩ := utf8EncodeChar_eq right
  have hbyte : right.toNat / 64 ^ more + high < 256 := by
    rcases hhigh with ⟨rfl, rfl, _⟩ | ⟨rfl, rfl, _⟩ | ⟨rfl, rfl, _⟩ | ⟨rfl, rfl, _⟩ <;>
      omega
  rw [hleft, hright]
  by_cases hcount : count = more
  · obtain rfl : mark = high := by omega
    subst hcount
    exact encoded_append_lt hcodes hbyte after later
  · have hfirst : left.toNat / 64 ^ count + mark < right.toNat / 64 ^ more + high := by
      rcases hlow with ⟨rfl, rfl, _⟩ | ⟨rfl, rfl, _⟩ | ⟨rfl, rfl, _⟩ | ⟨rfl, rfl, _⟩ <;>
        rcases hhigh with ⟨rfl, rfl, _⟩ | ⟨rfl, rfl, _⟩ | ⟨rfl, rfl, _⟩ | ⟨rfl, rfl, _⟩ <;>
        omega
    rw [encoded, encoded, List.cons_append, List.cons_append,
      ofNat_cons_lt_iff (Nat.lt_trans hfirst hbyte) hbyte]
    exact Or.inl hfirst

/-! ## Texts -/

theorem append_lt_append_iff (common after later : List UInt8) :
    common ++ after < common ++ later ↔ after < later := by
  induction common with
  | nil => rfl
  | cons byte common ih =>
      rw [List.cons_append, List.cons_append, List.cons_lt_cons_iff, ih]
      simp

theorem flatMap_utf8EncodeChar_lt_iff (left right : List Char) :
    left.flatMap utf8EncodeChar < right.flatMap utf8EncodeChar ↔ left < right := by
  induction left generalizing right with
  | nil =>
      cases right with
      | nil => simp
      | cons char right =>
          obtain ⟨count, mark, hchar, -⟩ := utf8EncodeChar_eq char
          rw [List.flatMap_cons, hchar]
          simp [encoded]
  | cons char left ih =>
      cases right with
      | nil => simp
      | cons other right =>
          rw [List.flatMap_cons, List.flatMap_cons, List.cons_lt_cons_iff]
          rcases lt_trichotomy char other with hlt | rfl | hlt
          · simp only [hlt, true_or, iff_true]
            exact utf8EncodeChar_append_lt hlt _ _
          · rw [append_lt_append_iff, ih]
            simp
          · simp only [not_lt_of_gt hlt, Ne.symm (ne_of_lt hlt), false_and, or_false, iff_false]
            exact List.lt_asymm (utf8EncodeChar_append_lt hlt _ _)

/-- Texts compare as their bytes do. -/
theorem bytes_le_iff (left right : String) : bytes left ≤ bytes right ↔ left ≤ right := by
  rw [← String.not_lt, ← List.not_lt, bytes_eq_flatMap, bytes_eq_flatMap,
    flatMap_utf8EncodeChar_lt_iff, String.lt_iff_toList_lt]

end NestedQuery.Text
