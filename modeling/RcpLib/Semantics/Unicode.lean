import Mathlib.Data.List.TakeWhile

set_option autoImplicit false

namespace Semantics

def encodeUtf8 (text : List Char) : List UInt8 := text.flatMap String.utf8EncodeChar

def decodeUtf8 (bytes : List UInt8) : Option (List Char) := bytes.toByteArray.utf8Decode?.map Array.toList

theorem utf8_byte_array (text : List Char) : (encodeUtf8 text).toByteArray = text.utf8Encode := by
  simp [encodeUtf8, List.utf8Encode]

theorem decode_utf8_iff (bytes : List UInt8) (text : List Char) :
    decodeUtf8 bytes = some text ↔ bytes = encodeUtf8 text := by
  constructor
  · intro decoded
    obtain ⟨chars, found, same⟩ := Option.map_eq_some_iff.mp decoded
    have present : bytes.toByteArray.utf8Decode?.isSome := by rw [found]; rfl
    have restored : (bytes.toByteArray.utf8Decode?.get present).toList.utf8Encode = bytes.toByteArray :=
      ByteArray.utf8Encode_get_utf8Decode?
    simp only [found, Option.get_some, same] at restored
    rw [← utf8_byte_array] at restored
    have arrays := congrArg ByteArray.data restored
    simpa using arrays.symm
  · intro same
    rw [same, decodeUtf8, utf8_byte_array, List.utf8Decode?_utf8Encode, Option.map_some]

def HighSurrogate (unit : UInt16) : Prop := 0xD800 ≤ unit.toNat ∧ unit.toNat < 0xDC00

def LowSurrogate (unit : UInt16) : Prop := 0xDC00 ≤ unit.toNat ∧ unit.toNat < 0xE000

instance highDecidable (unit : UInt16) : Decidable (HighSurrogate unit) := instDecidableAnd

instance lowDecidable (unit : UInt16) : Decidable (LowSurrogate unit) := instDecidableAnd

-- A code point above U+FFFF is a pair of surrogates.
def utf16Units (char : Char) : List UInt16 :=
  if char.toNat < 0x10000 then [UInt16.ofNat char.toNat]
  else [UInt16.ofNat (0xD800 + (char.toNat - 0x10000) / 0x400), UInt16.ofNat (0xDC00 + (char.toNat - 0x10000) % 0x400)]

def encodeUtf16 (text : List Char) : List UInt16 := text.flatMap utf16Units

def pairedChar (high low : UInt16) : Char := Char.ofNat (0x10000 + (high.toNat - 0xD800) * 0x400 + (low.toNat - 0xDC00))

-- U+FFFD stands for a surrogate without its other half.
def singleChar (unit : UInt16) : Char :=
  if HighSurrogate unit ∨ LowSurrogate unit then Char.ofNat 0xFFFD else Char.ofNat unit.toNat

def decodeUtf16 : List UInt16 → List Char
  | [] => []
  | [unit] => [singleChar unit]
  | high :: low :: rest =>
      if HighSurrogate high ∧ LowSurrogate low then pairedChar high low :: decodeUtf16 rest
      else singleChar high :: decodeUtf16 (low :: rest)

theorem decode_utf16_single (unit : UInt16) (rest : List UInt16)
    (alone : ¬ HighSurrogate unit ∨ ∀ low ∈ rest.head?, ¬ LowSurrogate low) :
    decodeUtf16 (unit :: rest) = singleChar unit :: decodeUtf16 rest := by
  cases rest with
  | nil => rfl
  | cons low later =>
      have unpaired : ¬ (HighSurrogate unit ∧ LowSurrogate low) := by
        intro pair
        exact alone.elim (fun single => single pair.1) (fun single => single low rfl pair.2)
      rw [decodeUtf16, if_neg unpaired]

theorem char_range (char : Char) : char.toNat < 0xD800 ∨ (0xDFFF < char.toNat ∧ char.toNat < 0x110000) := char.valid

theorem char_of_value (char : Char) (value : Nat) (same : value = char.toNat) : Char.ofNat value = char := by
  rw [same, Char.ofNat_toNat]

theorem decode_utf16_units (char : Char) (rest : List UInt16) :
    decodeUtf16 (utf16Units char ++ rest) = char :: decodeUtf16 rest := by
  have range := char_range char
  unfold utf16Units
  split
  · rename_i small
    have value : (UInt16.ofNat char.toNat).toNat = char.toNat := by
      rw [UInt16.toNat_ofNat', Nat.mod_eq_of_lt small]
    have high : ¬ HighSurrogate (UInt16.ofNat char.toNat) := by
      rw [HighSurrogate, value]
      omega
    have low : ¬ LowSurrogate (UInt16.ofNat char.toNat) := by
      rw [LowSurrogate, value]
      omega
    rw [List.singleton_append, decode_utf16_single _ rest (.inl high), singleChar, if_neg (not_or.mpr ⟨high, low⟩),
      char_of_value char _ value]
  · rename_i large
    have first : (UInt16.ofNat (0xD800 + (char.toNat - 0x10000) / 0x400)).toNat =
        0xD800 + (char.toNat - 0x10000) / 0x400 := by
      rw [UInt16.toNat_ofNat']
      omega
    have second : (UInt16.ofNat (0xDC00 + (char.toNat - 0x10000) % 0x400)).toNat =
        0xDC00 + (char.toNat - 0x10000) % 0x400 := by
      rw [UInt16.toNat_ofNat']
      omega
    have pair : HighSurrogate (UInt16.ofNat (0xD800 + (char.toNat - 0x10000) / 0x400)) ∧
        LowSurrogate (UInt16.ofNat (0xDC00 + (char.toNat - 0x10000) % 0x400)) := by
      rw [HighSurrogate, LowSurrogate, first, second]
      omega
    rw [List.cons_append, List.singleton_append, decodeUtf16, if_pos pair, pairedChar,
      char_of_value char _ (by rw [first, second]; omega)]

theorem decode_encode_utf16 (text : List Char) : decodeUtf16 (encodeUtf16 text) = text := by
  induction text with
  | nil => rfl
  | cons char rest ih =>
      rw [encodeUtf16, List.flatMap_cons, decode_utf16_units]
      exact congrArg (char :: ·) ih

theorem decode_utf16_nul (units : List UInt16) : decodeUtf16 (units ++ [0]) = decodeUtf16 units ++ [Char.ofNat 0] := by
  have zero : ¬ LowSurrogate 0 := by decide
  induction units using decodeUtf16.induct with
  | case1 => rfl
  | case2 unit => exact decode_utf16_single unit [0] (.inr fun low member => (Option.mem_some.mp member) ▸ zero)
  | case3 high low rest pair ih =>
      rw [List.cons_append, List.cons_append, decodeUtf16, if_pos pair, ih, decodeUtf16, if_pos pair]
      rfl
  | case4 high low rest unpaired ih =>
      rw [List.cons_append] at ih
      rw [List.cons_append, List.cons_append, decodeUtf16, if_neg unpaired, ih, decodeUtf16, if_neg unpaired]
      rfl

theorem utf16_shorter (text : List Char) : (encodeUtf16 text).length ≤ (encodeUtf8 text).length := by
  induction text with
  | nil => simp [encodeUtf16]
  | cons char rest ih =>
      have one : (utf16Units char).length ≤ (String.utf8EncodeChar char).length := by
        have value : char.toNat = char.val.toNat := rfl
        rw [utf16Units, value]
        simp only [String.utf8EncodeChar]
        split
        · split
          · simp
          · split
            · simp
            · split <;> simp
        · split
          · omega
          · split
            · omega
            · split
              · omega
              · simp
      rw [encodeUtf16, encodeUtf8, List.flatMap_cons, List.flatMap_cons, List.length_append, List.length_append]
      exact Nat.add_le_add one ih

end Semantics
