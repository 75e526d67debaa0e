import RcpLib.Platform.ScopedTypeRef
import RcpLib.Platform.Utf8Mac
import RcpLib.Semantics.CString
import RcpLib.Semantics.Layout

set_option autoImplicit false

namespace Rcp.Platform.Mac.Scoped

open Semantics

-- kNarrowStringEncoding, and kWideStringEncoding on a little-endian machine.
inductive Encoding where
  | narrow
  | wide
deriving DecidableEq, Repr

def encode : Encoding → WText → List UInt8
  | .narrow, text => utf8 text
  | .wide, text => word32Layout.encodeAll text

-- A CFString is immutable: its address, and its characters.
abbrev CFStringRef := Nat × WText

-- CFStringCreateWithBytesNoCopy, which may be null, and where it puts a new object;
-- CFStringGetLength; and CFStringGetBytes of a whole string with no loss byte: how many
-- characters it converts, and the bytes it writes into a buffer of the given size, or
-- that it needs when the buffer is null.
structure StringCalls where
  address : (CFStringRef → Nat) → Nat
  create : Encoding → List UInt8 → Option WText
  getLength : WText → Nat
  getBytes : WText → Encoding → Option Nat → Nat × List UInt8

-- What they do with valid text.
structure StringServices extends calls : StringCalls where
  creates : ∀ encoding text, text ≠ [] → ValidText text → create encoding (encode encoding text) = some text
  counted : ∀ text, text ≠ [] → getLength text ≠ 0
  measures : ∀ encoding text, ValidText text → getBytes text encoding none = (getLength text, encode encoding text)
  writes : ∀ encoding text size, ValidText text → (encode encoding text).length ≤ size →
    getBytes text encoding (some size) = (getLength text, encode encoding text)

variable (calls : StringCalls)

-- What is called on an object that has been deallocated has no result.
def alive (cfstring : CFStringRef) : RefM CFStringRef Unit := fun counts =>
  if counts cfstring = 0 then none else some ((), counts)

def CFStringCreateWithBytesNoCopy (encoding : Encoding) (bytes : List UInt8) : RefM CFStringRef (Option CFStringRef) :=
  fun counts =>
    match calls.create encoding bytes with
    | none => some (none, counts)
    | some text =>
        let cfstring := (calls.address counts, text)
        some (some cfstring, Function.update counts cfstring 1)

def CFStringGetLength (cfstring : CFStringRef) : RefM CFStringRef Nat := do
  alive cfstring
  return calls.getLength cfstring.2

def CFStringGetBytes (cfstring : CFStringRef) (encoding : Encoding) (maxBufLen : Option Nat) :
    RefM CFStringRef (Nat × List UInt8) := do
  alive cfstring
  return calls.getBytes cfstring.2 encoding maxBufLen

section Strings

variable {In Out : Type} [OfNat Out 0]

def CFStringToSTLStringWithEncodingT (char : Layout Out) (cfstring : CFStringRef) (encoding : Encoding) :
    RefM CFStringRef (List Out) := do
  let length ← CFStringGetLength calls cfstring
  if length = 0 then
    return []
  let (converted, needed) ← CFStringGetBytes calls cfstring encoding none
  let outSize := needed.length
  if converted = 0 ∨ outSize = 0 then
    return []
  let elements := outSize * byteLayout.size / char.size + 1
  let outBuffer := char.encodeAll (List.replicate elements 0)
  let (converted, written) ← CFStringGetBytes calls cfstring encoding (some outSize)
  if converted = 0 then
    return []
  let outBuffer := (char.decodeN elements (overwrite outBuffer written)).set (elements - 1) 0
  return outBuffer.take (elements - 1)

-- The destructor of the scoped object runs at both returns that follow it.
def STLStringToSTLStringWithEncodingsT (inChar : Layout In) (outChar : Layout Out) (input : List In)
    (inEncoding outEncoding : Encoding) : RefM CFStringRef (List Out) := do
  if input.length = 0 then
    return []
  let cfstring ← ScopedTypeRef.construct
    (← CFStringCreateWithBytesNoCopy calls inEncoding (inChar.encodeAll input)) .assume
  let result ← match cfstring.get with
    | none => pure []
    | some object => CFStringToSTLStringWithEncodingT calls outChar object outEncoding
  cfstring.destroy
  return result

end Strings

def toUtf8 (input : WText) : RefM CFStringRef (List UInt8) :=
  STLStringToSTLStringWithEncodingsT calls word32Layout byteLayout input .wide .narrow

def fromUtf8 (input : List UInt8) : RefM CFStringRef WText :=
  STLStringToSTLStringWithEncodingsT calls byteLayout word32Layout input .narrow .wide

-- Memory for one more object.
def Vacant (counts : CFStringRef → Nat) : Prop := ∀ text, counts (calls.address counts, text) = 0

theorem ref_bind {Obj α β : Type} (first : RefM Obj α) (next : α → RefM Obj β) (counts later : Obj → Nat) (value : α)
    (ran : first counts = some (value, later)) : (first >>= next) counts = next value later := by
  simp [bind, StateT.bind, ran]

theorem get_length_run (cfstring : CFStringRef) (counts : CFStringRef → Nat) (live : counts cfstring ≠ 0) :
    CFStringGetLength calls cfstring counts = some (calls.getLength cfstring.2, counts) := by
  rw [CFStringGetLength, ref_bind _ _ counts counts () (by simp [alive, live])]
  rfl

theorem get_bytes_run (cfstring : CFStringRef) (encoding : Encoding) (maxBufLen : Option Nat)
    (counts : CFStringRef → Nat) (live : counts cfstring ≠ 0) :
    CFStringGetBytes calls cfstring encoding maxBufLen counts =
      some (calls.getBytes cfstring.2 encoding maxBufLen, counts) := by
  rw [CFStringGetBytes, ref_bind _ _ counts counts () (by simp [alive, live])]
  rfl

section Results

variable {In Out : Type} [OfNat Out 0]

theorem conversion_refused (char : Layout Out) (text : WText) (encoding : Encoding)
    (refused : calls.getLength text = 0 ∨ (calls.getBytes text encoding none).1 = 0 ∨
      (calls.getBytes text encoding none).2.length = 0) (address : Nat) (counts : CFStringRef → Nat)
    (live : counts (address, text) ≠ 0) :
    CFStringToSTLStringWithEncodingT calls char (address, text) encoding counts = some ([], counts) := by
  rw [CFStringToSTLStringWithEncodingT, ref_bind _ _ counts counts _ (get_length_run calls _ counts live)]
  by_cases empty : calls.getLength text = 0
  · rw [if_pos empty]
    rfl
  · rw [if_neg empty, ref_bind _ _ counts counts _ (get_bytes_run calls _ encoding _ counts live)]
    dsimp only
    rw [if_pos (refused.resolve_left empty)]
    rfl

-- What a conversion returns depends on the characters of its string alone, and it
-- changes no count.
theorem conversion_run (char : Layout Out) (text : WText) (encoding : Encoding) :
    ∃ result, ∀ (address : Nat) (counts : CFStringRef → Nat), counts (address, text) ≠ 0 →
      CFStringToSTLStringWithEncodingT calls char (address, text) encoding counts = some (result, counts) := by
  by_cases refused : calls.getLength text = 0 ∨ (calls.getBytes text encoding none).1 = 0 ∨
      (calls.getBytes text encoding none).2.length = 0
  · exact ⟨[], conversion_refused calls char text encoding refused⟩
  · obtain ⟨counted, failed⟩ := not_or.mp refused
    generalize measured : calls.getBytes text encoding none = first at failed
    generalize written : calls.getBytes text encoding (some first.2.length) = second
    let elements := first.2.length * byteLayout.size / char.size + 1
    let outBuffer := char.decodeN elements (overwrite (char.encodeAll (List.replicate elements 0)) second.2)
    refine ⟨if second.1 = 0 then [] else (outBuffer.set (elements - 1) 0).take (elements - 1), fun address counts live => ?_⟩
    rw [CFStringToSTLStringWithEncodingT, ref_bind _ _ counts counts _ (get_length_run calls _ counts live),
      if_neg counted, ref_bind _ _ counts counts _ (get_bytes_run calls _ encoding _ counts live), measured]
    dsimp only
    rw [if_neg failed, ref_bind _ _ counts counts _ (get_bytes_run calls _ encoding _ counts live), written]
    by_cases nothing : second.1 = 0
    · rw [if_pos nothing, if_pos nothing]
      rfl
    · rw [if_neg nothing, if_neg nothing]
      rfl

-- When the units of the encoding are characters of the string, all of them are
-- copied, and the last element that is set to NUL is not among them.
theorem conversion_units (char : Layout Out) (cfstring : CFStringRef) (encoding : Encoding) (counts : CFStringRef → Nat)
    (live : counts cfstring ≠ 0) (units : List Out) (some_unit : units ≠ []) (counted : calls.getLength cfstring.2 ≠ 0)
    (measured : calls.getBytes cfstring.2 encoding none = (calls.getLength cfstring.2, char.encodeAll units))
    (written : calls.getBytes cfstring.2 encoding (some (char.encodeAll units).length) =
      (calls.getLength cfstring.2, char.encodeAll units)) :
    CFStringToSTLStringWithEncodingT calls char cfstring encoding counts = some (units, counts) := by
  have sized : (char.encodeAll units).length = units.length * char.size := char.encode_all_length units
  have fits : (char.encodeAll units).length ≠ 0 := by
    rw [sized]
    exact Nat.mul_ne_zero (fun none => some_unit (List.length_eq_zero_iff.mp none)) (Nat.ne_of_gt char.positive)
  have elements : (char.encodeAll units).length * byteLayout.size / char.size + 1 = units.length + 1 := by
    rw [sized, show byteLayout.size = 1 from rfl, Nat.mul_one, Nat.mul_div_cancel _ char.positive]
  rw [CFStringToSTLStringWithEncodingT, ref_bind _ _ counts counts _ (get_length_run calls cfstring counts live),
    if_neg counted, ref_bind _ _ counts counts _ (get_bytes_run calls cfstring encoding _ counts live), measured]
  dsimp only
  rw [if_neg (by simp [counted, fits]),
    ref_bind _ _ counts counts _ (get_bytes_run calls cfstring encoding _ counts live), written, if_neg counted, elements]
  have taken : ((char.decodeN (units.length + 1) (overwrite (char.encodeAll (List.replicate (units.length + 1) 0))
      (char.encodeAll units))).set units.length 0).take units.length = units := by
    rw [List.take_set_of_le (Nat.le_refl _), char.decode_n_take, overwrite, char.decode_n_encode_all]
  rw [Nat.add_sub_cancel, taken]
  rfl

theorem scoped_run (inChar : Layout In) (outChar : Layout Out) (input : List In) (inEncoding outEncoding : Encoding)
    (counts : CFStringRef → Nat) (vacant : Vacant calls counts) (nonempty : input.length ≠ 0) (text : WText)
    (created : calls.create inEncoding (inChar.encodeAll input) = some text) (result : List Out)
    (converted : CFStringToSTLStringWithEncodingT calls outChar (calls.address counts, text) outEncoding
        (Function.update counts (calls.address counts, text) 1) =
      some (result, Function.update counts (calls.address counts, text) 1)) :
    STLStringToSTLStringWithEncodingsT calls inChar outChar input inEncoding outEncoding counts =
      some (result, counts) := by
  let object : CFStringRef := (calls.address counts, text)
  let between := Function.update counts object 1
  have claimed : between object = 1 := Function.update_self object 1 counts
  have creation : CFStringCreateWithBytesNoCopy calls inEncoding (inChar.encodeAll input) counts =
      some (some object, between) := by
    simp [CFStringCreateWithBytesNoCopy, created, object, between]
  have release : ScopedTypeRef.destroy ⟨some object⟩ between = some ((), counts) := by
    have gone : Function.update between object 0 = counts := by
      rw [Function.update_idem, ← vacant text, Function.update_eq_self]
    simp [ScopedTypeRef.destroy, ScopedTypeRef.releaseIf, ScopedCFTypeRefTraits.Release, claimed, gone]
  rw [STLStringToSTLStringWithEncodingsT, if_neg nonempty, ref_bind _ _ counts between (some object) creation,
    ref_bind _ _ between between ⟨some object⟩ rfl]
  simp only [ScopedTypeRef.get]
  rw [ref_bind _ _ between between result converted,
    ref_bind _ _ between counts () release]
  rfl

theorem conversions_same (inChar : Layout In) (outChar : Layout Out) (input : List In)
    (inEncoding outEncoding : Encoding) : ∃ result, ∀ counts, Vacant calls counts →
      STLStringToSTLStringWithEncodingsT calls inChar outChar input inEncoding outEncoding counts =
        some (result, counts) := by
  by_cases empty : input.length = 0
  · refine ⟨[], fun counts _ => ?_⟩
    rw [STLStringToSTLStringWithEncodingsT, if_pos empty]
    rfl
  · cases created : calls.create inEncoding (inChar.encodeAll input) with
    | none =>
        refine ⟨[], fun counts _ => ?_⟩
        have creation : CFStringCreateWithBytesNoCopy calls inEncoding (inChar.encodeAll input) counts =
            some (none, counts) := by
          simp [CFStringCreateWithBytesNoCopy, created]
        rw [STLStringToSTLStringWithEncodingsT, if_neg empty, ref_bind _ _ counts counts none creation]
        rfl
    | some text =>
        obtain ⟨result, converted⟩ := conversion_run calls outChar text outEncoding
        exact ⟨result, fun counts vacant => scoped_run calls inChar outChar input inEncoding outEncoding counts vacant
          empty text created result (converted _ _ (by simp))⟩

theorem conversions_release (inChar : Layout In) (outChar : Layout Out) (input : List In)
    (inEncoding outEncoding : Encoding) (counts : CFStringRef → Nat) (vacant : Vacant calls counts) :
    ∃ result, STLStringToSTLStringWithEncodingsT calls inChar outChar input inEncoding outEncoding counts =
      some (result, counts) := by
  obtain ⟨result, returned⟩ := conversions_same calls inChar outChar input inEncoding outEncoding
  exact ⟨result, returned counts vacant⟩

end Results

section Texts

variable {In Out : Type} [OfNat Out 0] (services : StringServices)

theorem conversion_of_text (inChar : Layout In) (outChar : Layout Out) (input : List In) (units : List Out)
    (inEncoding outEncoding : Encoding) (counts : CFStringRef → Nat) (vacant : Vacant services.calls counts)
    (text : WText) (valid : ValidText text) (nonempty : text ≠ []) (some_input : input ≠ []) (some_unit : units ≠ [])
    (decoded : inChar.encodeAll input = encode inEncoding text)
    (encoded : encode outEncoding text = outChar.encodeAll units) :
    STLStringToSTLStringWithEncodingsT services.calls inChar outChar input inEncoding outEncoding counts =
      some (units, counts) := by
  have measured := services.measures outEncoding text valid
  have written := services.writes outEncoding text (outChar.encodeAll units).length valid (by rw [encoded])
  rw [encoded] at measured written
  apply scoped_run services.calls inChar outChar input inEncoding outEncoding counts vacant
    (fun none => some_input (List.length_eq_zero_iff.mp none)) text
  · rw [decoded]
    exact services.creates inEncoding text nonempty valid
  · exact conversion_units services.calls outChar _ outEncoding _ (by simp) units some_unit
      (services.counted text nonempty) measured written

theorem to_utf8_text (counts : CFStringRef → Nat) (vacant : Vacant services.calls counts) (text : WText)
    (valid : ValidText text) : toUtf8 services.calls text counts = some (utf8 text, counts) := by
  by_cases empty : text = []
  · subst empty
    rfl
  · exact conversion_of_text services word32Layout byteLayout text (utf8 text) .wide .narrow counts vacant text valid empty
      empty (utf8_nonempty text empty) rfl (byte_encode_all (utf8 text)).symm

theorem from_utf8_text (counts : CFStringRef → Nat) (vacant : Vacant services.calls counts) (text : WText)
    (valid : ValidText text) : fromUtf8 services.calls (utf8 text) counts = some (text, counts) := by
  by_cases empty : text = []
  · subst empty
    rfl
  · exact conversion_of_text services byteLayout word32Layout (utf8 text) text .narrow .wide counts vacant text valid empty
      (utf8_nonempty text empty) empty (byte_encode_all (utf8 text)) rfl

theorem utf8_round_trip (counts : CFStringRef → Nat) (vacant : Vacant services.calls counts) (text : WText)
    (valid : ValidText text) :
    (toUtf8 services.calls text >>= fromUtf8 services.calls) counts = some (text, counts) ∧
      (fromUtf8 services.calls (utf8 text) >>= toUtf8 services.calls) counts = some (utf8 text, counts) := by
  constructor
  · rw [ref_bind _ _ counts counts _ (to_utf8_text services counts vacant text valid)]
    exact from_utf8_text services counts vacant text valid
  · rw [ref_bind _ _ counts counts _ (from_utf8_text services counts vacant text valid)]
    exact to_utf8_text services counts vacant text valid

end Texts

def toWText (chars : List Char) : WText := chars.map fun char => UInt32.ofNat char.toNat

def strictCreate : Encoding → List UInt8 → Option WText
  | .narrow, bytes => bytes.toByteArray.utf8Decode?.map fun chars => toWText chars.toList
  | .wide, bytes =>
      let text := word32Layout.decodeN (bytes.length / word32Layout.size) bytes
      if ValidText text ∧ word32Layout.encodeAll text = bytes then some text else none

theorem wide_decoded (text : WText) :
    word32Layout.decodeN ((word32Layout.encodeAll text).length / word32Layout.size) (word32Layout.encodeAll text) = text := by
  rw [word32Layout.encode_all_length, Nat.mul_div_cancel _ word32Layout.positive]
  simpa using word32Layout.decode_n_encode_all text []

theorem strict_creates (encoding : Encoding) (text : WText) (valid : ValidText text) :
    strictCreate encoding (encode encoding text) = some text := by
  cases encoding with
  | narrow =>
      have bytes : (utf8 text).toByteArray = (text.map fun char => Char.ofNat char.toNat).utf8Encode := by
        simp [List.utf8Encode, utf8, List.flatMap_map]
      have restored : toWText (text.map fun char => Char.ofNat char.toNat) = text := by
        rw [toWText, List.map_map]
        refine (List.map_congr_left fun char member => ?_).trans (List.map_id text)
        have value : (Char.ofNat char.toNat).toNat = char.toNat := by
          rw [Char.ofNat, dif_pos (valid char member)]
          rfl
        exact (congrArg UInt32.ofNat value).trans (UInt32.ofNat_toNat)
      simp only [strictCreate, encode, bytes, List.utf8Decode?_utf8Encode, Option.map_some, restored]
  | wide => simp [strictCreate, encode, wide_decoded, valid]

theorem strict_refuses (text : WText) (invalid : ¬ ValidText text) : strictCreate .wide (encode .wide text) = none := by
  simp [strictCreate, encode, wide_decoded, invalid]

def strictServices : StringServices where
  address _ := 0
  create := strictCreate
  getLength := List.length
  getBytes text encoding _ := (text.length, encode encoding text)
  creates encoding text _ valid := strict_creates encoding text valid
  counted _ nonempty none := nonempty (List.length_eq_zero_iff.mp none)
  measures _ _ _ := rfl
  writes _ _ _ _ _ := rfl

def euroText : WText := [0x20AC, 0x31]

theorem utf8_round_trip_euro :
    (toUtf8 strictServices.calls euroText >>= fromUtf8 strictServices.calls) (fun _ => 0) =
      some (euroText, fun _ => 0) :=
  (utf8_round_trip strictServices (fun _ => 0) (fun _ => rfl) euroText (by decide)).1

theorem conversions_release_euro : ∃ result,
    STLStringToSTLStringWithEncodingsT strictServices.calls byteLayout word32Layout (utf8 euroText) .narrow .wide
      (fun _ => 0) = some (result, fun _ => 0) :=
  conversions_release strictServices.calls byteLayout word32Layout (utf8 euroText) .narrow .wide (fun _ => 0)
    fun _ => rfl

end Rcp.Platform.Mac.Scoped
