import NestedQuery.Text.Characters

/-!
# Texts as bytes

Every byte sequence reads as a text in UTF-8: a well-formed sequence is its
character, and every longest beginning of a well-formed sequence that is not
continued, as well as every byte that begins none, is lost to one character.

A percent sign with two hexadecimal digits stands for a byte; any other percent
sign stands for itself.  Escapes are written with capital digits.
-/

namespace NestedQuery.Text

/-! ## UTF-8 -/

/-- Bytes are read as the text that is written with them, and as no other. -/
theorem fromUTF8?_eq_some_iff {bytes : ByteArray} {text : String} :
    String.fromUTF8? bytes = some text ↔ bytes = text.toUTF8 := by
  constructor
  · intro htext
    unfold String.fromUTF8? at htext
    split at htext
    · cases htext
      rfl
    · cases htext
  · rintro rfl
    exact dif_pos text.isValidUTF8

/-- What a first byte announces: the bits it carries, the number of bytes that
continue it, and the range of the first of those. -/
structure Lead where
  bits : Nat
  following : Nat
  low : Nat := 0x80
  high : Nat := 0xBF

def lead? (byte : UInt8) : Option Lead :=
  let value := byte.toNat
  if value < 0x80 then some ⟨value, 0, 0x80, 0xBF⟩
  else if 0xC2 ≤ value ∧ value ≤ 0xDF then some ⟨value % 32, 1, 0x80, 0xBF⟩
  else if value = 0xE0 then some ⟨0, 2, 0xA0, 0xBF⟩
  else if value = 0xED then some ⟨13, 2, 0x80, 0x9F⟩
  else if 0xE1 ≤ value ∧ value ≤ 0xEF then some ⟨value % 16, 2, 0x80, 0xBF⟩
  else if value = 0xF0 then some ⟨0, 3, 0x90, 0xBF⟩
  else if 0xF1 ≤ value ∧ value ≤ 0xF3 then some ⟨value % 8, 3, 0x80, 0xBF⟩
  else if value = 0xF4 then some ⟨4, 3, 0x80, 0x8F⟩
  else none

/-- Reads continuing bytes and gives the code and the bytes after it; no code
if the sequence breaks off. -/
def continueCode : Lead → List UInt8 → Option Nat × List UInt8
  | ⟨bits, 0, _, _⟩, bytes => (some bits, bytes)
  | ⟨_, _ + 1, _, _⟩, [] => (none, [])
  | ⟨bits, following + 1, low, high⟩, byte :: bytes =>
      if low ≤ byte.toNat ∧ byte.toNat ≤ high then
        continueCode ⟨bits * 64 + byte.toNat % 64, following, 0x80, 0xBF⟩ bytes
      else (none, byte :: bytes)

theorem length_continueCode_le (lead : Lead) (bytes : List UInt8) :
    (continueCode lead bytes).2.length ≤ bytes.length := by
  fun_induction continueCode lead bytes <;> simp_all
  omega

/-- The characters of a byte sequence, with one that stands for what is lost. -/
def decodeWith (lost : Char) : List UInt8 → List Char
  | [] => []
  | byte :: bytes =>
      match lead? byte with
      | none => lost :: decodeWith lost bytes
      | some lead =>
          let decoded := continueCode lead bytes
          (decoded.1.map Char.ofNat).getD lost :: decodeWith lost decoded.2
termination_by bytes => bytes.length
decreasing_by
  · exact Nat.lt_succ_self bytes.length
  · exact Nat.lt_succ_of_le (length_continueCode_le lead bytes)

/-- The characters of a byte sequence, with the replacement character for what is
lost. -/
def decodeLossy (bytes : List UInt8) : List Char := decodeWith '\ufffd' bytes

/-! ## Percent escapes -/

/-- Replaces the percent escapes of a byte sequence. -/
def unescapeBytes : List UInt8 → List UInt8
  | [] => []
  | byte :: high :: low :: bytes =>
      if byte = 0x25 then
        match hexValue? (Char.ofNat high.toNat), hexValue? (Char.ofNat low.toNat) with
        | some high, some low => (high * 16 + low).toUInt8 :: unescapeBytes bytes
        | _, _ => byte :: unescapeBytes (high :: low :: bytes)
      else byte :: unescapeBytes (high :: low :: bytes)
  | byte :: bytes => byte :: unescapeBytes bytes

/-- The bytes a text with escapes stands for. -/
def percentDecoded (text : List Char) : List UInt8 :=
  unescapeBytes (String.ofList text).toUTF8.toList

def escapeByte (byte : UInt8) : List Char :=
  ['%', (hexDigit (byte.toNat / 16)).toUpper, (hexDigit byte.toNat).toUpper]

/-- Control characters and the characters beyond ASCII are escaped everywhere. -/
def isUnprintable (char : Char) : Bool := char.toNat < 32 || 126 < char.toNat

/-- Escapes the unprintable characters and some others. -/
def percentEncoded (reserved : List Char) (text : List Char) : List Char :=
  text.flatMap fun char =>
    if isUnprintable char ∨ reserved.contains char then
      (String.singleton char).toUTF8.toList.flatMap escapeByte
    else [char]

end NestedQuery.Text
