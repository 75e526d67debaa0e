import RcpLib.Platform.Utf8Scoped
import RcpLib.Platform.Utf8Win
import RcpLib.Semantics.Unicode

set_option autoImplicit false

namespace Rcp.Platform

open Semantics

section Conversions

variable {α β : Type} [DecidableEq α] [OfNat α 0] [OfNat β 0]

theorem convert_view_short (conversion : Conversion α β) (src : View α) (result : Converted β)
    (converted : convertView conversion src = some result) : result.text.length < 0x80000000 := by
  by_cases present : staticCastInt src.length = 0
  · rw [convert_view_empty conversion src present] at converted
    cases converted
    simp
  · cases read : reading src.memory (staticCastInt src.length) with
    | invalid =>
        rw [convert_view_invalid conversion src present read] at converted
        cases converted
        simp
    | fault =>
        rw [convert_view_fault conversion src present read] at converted
        cases converted
    | chars text =>
        obtain ⟨again, same, _, _, outcome⟩ := convert_view_chars conversion src present text read
        rw [converted] at same
        cases same
        rcases outcome with empty | accepted
        · simp [empty]
        · by_cases empty : result.text = []
          · simp [empty]
          · by_contra long
            have first : conversion.call src.memory (staticCastInt src.length) [] 0 = _ :=
              call_reading conversion src.memory (staticCastInt src.length) [] 0 text read
            rw [fill_overflow conversion text [] 0 result.text accepted rfl long] at first
            simp only [convertView, if_neg present, first, Call.failed, if_pos, Option.some.injEq] at converted
            exact empty (congrArg Converted.text converted).symm

theorem convert_view_small (conversion : Conversion α β) (src : View α) (small : src.length < 0x80000000)
    (converted : List β) (accepted : conversion.convert src.chars = .ok converted)
    (blank : src.chars = [] → converted = []) :
    ∃ reads, convertView conversion src = some ⟨if converted.length < 0x80000000 then converted else [], reads⟩ := by
  have len := static_cast_small src.length small
  by_cases none : src.length = 0
  · have chars : src.chars = [] := by rw [← List.length_eq_zero_iff, view_chars_length, none]
    rw [convert_view_empty conversion src (by omega), blank chars]
    exact ⟨[], rfl⟩
  · have present : staticCastInt src.length ≠ 0 := by omega
    have read : reading src.memory (staticCastInt src.length) = .chars src.chars := by
      rw [reading, len, if_neg (by omega), if_pos (by omega), Int.toNat_natCast, if_pos src.inside]
      rfl
    by_cases counted : converted.length < 0x80000000
    · rw [if_pos counted]
      by_cases empty : converted = []
      · obtain ⟨result, same, _, _, outcome⟩ := convert_view_chars conversion src present src.chars read
        have text : result.text = [] := by
          rcases outcome with nothing | again
          · exact nothing
          · rw [accepted] at again
            rw [← Except.ok.inj again, empty]
        rw [empty, same, ← text]
        exact ⟨result.reads, rfl⟩
      · exact ⟨_, convert_view_accepted conversion src present src.chars read converted accepted empty counted⟩
    · have first : conversion.call src.memory (staticCastInt src.length) [] 0 = _ :=
        call_reading conversion src.memory (staticCastInt src.length) [] 0 src.chars read
      rw [fill_overflow conversion src.chars [] 0 converted accepted rfl counted] at first
      rw [if_neg counted]
      exact ⟨_, by simp only [convertView, if_neg present, first, Call.failed, if_pos]; rfl⟩

end Conversions

theorem utf8_units (text : List Char) : Mac.utf8 (Mac.Scoped.toWText text) = encodeUtf8 text := by
  rw [Mac.utf8, Mac.Scoped.toWText, List.flatMap_map, encodeUtf8]
  congr 1
  funext char
  have value : (UInt32.ofNat char.toNat).toNat = char.toNat := by
    have range := char_range char
    rw [UInt32.toNat_ofNat']
    omega
  rw [value, Char.ofNat_toNat]

theorem units_valid (text : List Char) : Mac.ValidText (Mac.Scoped.toWText text) := by
  intro unit member
  obtain ⟨char, _, same⟩ := List.mem_map.mp member
  have range := char_range char
  have value : unit.toNat = char.toNat := by
    rw [← same, UInt32.toNat_ofNat']
    omega
  rw [value]
  exact char.valid

-- CP_UTF8 with no flags: a surrogate without its other half is replaced, and what is
-- not UTF-8 is left open.
structure Utf8Page (windows : Windows) : Prop where
  narrowed : ∀ units, (windows.wideCharToMultiByte cpUtf8 false).convert units = .ok (encodeUtf8 (decodeUtf16 units))
  widened : ∀ text, (windows.multiByteToWideChar cpUtf8).convert (encodeUtf8 text) = .ok (encodeUtf16 text)

section Windows

variable (windows : Windows) (page : Utf8Page windows)

include page

theorem to_utf8_small (wide : View UInt16) (small : wide.length < 0x80000000) :
    ∃ reads, toUtf8 windows wide = some ⟨if (encodeUtf8 (decodeUtf16 wide.chars)).length < 0x80000000
      then encodeUtf8 (decodeUtf16 wide.chars) else [], reads⟩ :=
  convert_view_small _ wide small _ (page.narrowed wide.chars) fun empty => by rw [empty]; rfl

theorem from_utf8_whole (narrow : View UInt8) (text : List Char) (chars : narrow.chars = encodeUtf8 text)
    (small : (encodeUtf8 text).length < 0x80000000) :
    ∃ reads, fromUtf8 windows narrow = some ⟨encodeUtf16 text, reads⟩ := by
  have length : narrow.length < 0x80000000 := by rw [← view_chars_length, chars]; exact small
  have shorter := Nat.lt_of_le_of_lt (utf16_shorter text) small
  have accepted : (windows.multiByteToWideChar cpUtf8).convert narrow.chars = .ok (encodeUtf16 text) := by
    rw [chars, page.widened]
  obtain ⟨reads, converted⟩ := convert_view_small _ narrow length (encodeUtf16 text) accepted fun empty => by
    have units := utf16_shorter text
    rw [← chars, empty] at units
    exact List.length_eq_zero_iff.mp (Nat.le_zero.mp units)
  rw [if_pos shorter] at converted
  exact ⟨reads, converted⟩

theorem to_utf8_whole (wide : View UInt16) (text : List Char) (chars : wide.chars = encodeUtf16 text)
    (small : (encodeUtf8 text).length < 0x80000000) :
    ∃ reads, toUtf8 windows wide = some ⟨encodeUtf8 text, reads⟩ := by
  have length : wide.length < 0x80000000 := by
    rw [← view_chars_length, chars]
    exact Nat.lt_of_le_of_lt (utf16_shorter text) small
  obtain ⟨reads, converted⟩ := to_utf8_small windows page wide length
  rw [chars, decode_encode_utf16, if_pos small] at converted
  exact ⟨reads, converted⟩

theorem wide_round_trip (wide : View UInt16) :
    (∃ converted, toUtf8 windows wide = some converted ∧ ∀ narrow : View UInt8, narrow.chars = converted.text →
      ∃ back, fromUtf8 windows narrow = some back ∧ back.text = wide.chars) ↔
      ∃ text, wide.chars = encodeUtf16 text ∧ (encodeUtf8 text).length < 0x80000000 := by
  constructor
  · rintro ⟨converted, made, returns⟩
    have again : (View.ended converted.text []).chars = converted.text := by simp [View.ended, View.chars]
    obtain ⟨back, returned, same⟩ := returns (View.ended converted.text []) again
    have short := convert_view_short _ _ back returned
    have length : wide.length < 0x80000000 := by rw [← view_chars_length, ← same]; exact short
    obtain ⟨reads, outcome⟩ := to_utf8_small windows page wide length
    rw [made] at outcome
    have text := congrArg Converted.text (Option.some.inj outcome)
    by_cases counted : (encodeUtf8 (decodeUtf16 wide.chars)).length < 0x80000000
    · simp only [if_pos counted] at text
      obtain ⟨_, read⟩ := from_utf8_whole windows page _ _ (again.trans text) counted
      rw [returned] at read
      exact ⟨decodeUtf16 wide.chars, same.symm.trans (congrArg Converted.text (Option.some.inj read)), counted⟩
    · simp only [if_neg counted] at text
      have nothing : (View.ended converted.text []).chars = encodeUtf8 [] := again.trans text
      obtain ⟨_, read⟩ := from_utf8_whole windows page _ [] nothing (by decide)
      rw [returned] at read
      exact ⟨[], same.symm.trans (congrArg Converted.text (Option.some.inj read)), by decide⟩
  · rintro ⟨text, chars, small⟩
    obtain ⟨reads, converted⟩ := to_utf8_whole windows page wide text chars small
    refine ⟨_, converted, fun narrow same => ?_⟩
    obtain ⟨others, back⟩ := from_utf8_whole windows page narrow text same small
    exact ⟨_, back, chars.symm⟩

theorem utf8_portable (services : Mac.Scoped.StringServices) (counts : Mac.Scoped.CFStringRef → Nat)
    (vacant : Mac.Scoped.Vacant services.calls counts) (text : List Char) (wide : View UInt16)
    (chars : wide.chars = encodeUtf16 text) :
    (∃ converted, toUtf8 windows wide = some converted ∧
      Mac.Scoped.toUtf8 services.calls (Mac.Scoped.toWText text) counts = some (converted.text, counts) ∧
      Mac.Scoped.fromUtf8 services.calls converted.text counts = some (Mac.Scoped.toWText text, counts) ∧
      ∀ narrow : View UInt8, narrow.chars = converted.text →
        ∃ back, fromUtf8 windows narrow = some back ∧ back.text = wide.chars) ↔
      (encodeUtf8 text).length < 0x80000000 := by
  have written := Mac.Scoped.to_utf8_text services counts vacant (Mac.Scoped.toWText text) (units_valid text)
  have read := Mac.Scoped.from_utf8_text services counts vacant (Mac.Scoped.toWText text) (units_valid text)
  rw [utf8_units] at written read
  constructor
  · rintro ⟨converted, made, same, _, _⟩
    rw [written] at same
    rw [(Prod.mk.inj (Option.some.inj same)).1]
    exact convert_view_short _ _ converted made
  · intro small
    obtain ⟨reads, converted⟩ := to_utf8_whole windows page wide text chars small
    refine ⟨_, converted, written, read, fun narrow same => ?_⟩
    obtain ⟨others, back⟩ := from_utf8_whole windows page narrow text same small
    exact ⟨_, back, chars.symm⟩

end Windows

def narrowPage : Conversion UInt16 UInt8 where
  convert units := .ok (encodeUtf8 (decodeUtf16 units))
  terminated units _ := by
    rw [decode_utf16_nul, encodeUtf8, List.flatMap_append]
    rfl
  overflow := errorInvalidParameter
  spill _ _ := []

def strictUtf16 (bytes : List UInt8) : Except DWORD (List UInt16) :=
  match decodeUtf8 bytes with
  | some text => .ok (encodeUtf16 text)
  | none => .error errorNoUnicodeTranslation

theorem strict_utf16_text (text : List Char) : strictUtf16 (encodeUtf8 text) = .ok (encodeUtf16 text) := by
  rw [strictUtf16, (decode_utf8_iff _ text).mpr rfl]

-- A NUL at the end is a character of its own, so it does not complete an invalid text.
theorem decode_utf8_nul (bytes : List UInt8) (text : List Char) (decoded : decodeUtf8 (bytes ++ [0]) = some text) :
    ∃ before, decodeUtf8 bytes = some before := by
  have same := (decode_utf8_iff _ text).mp decoded
  rcases List.eq_nil_or_concat text with empty | ⟨before, last, joined⟩
  · rw [empty] at same
    exact absurd same (by simp [encodeUtf8])
  · rw [List.concat_eq_append] at joined
    have split : encodeUtf8 text = encodeUtf8 before ++ String.utf8EncodeChar last := by simp [joined, encodeUtf8]
    rw [split] at same
    have ends : (String.utf8EncodeChar last).getLast String.utf8EncodeChar_ne_nil = 0 := by
      have tails := congrArg List.getLast? same
      rw [List.getLast?_append_of_ne_nil _ String.utf8EncodeChar_ne_nil, List.getLast?_concat,
        List.getLast?_eq_getLast_of_ne_nil String.utf8EncodeChar_ne_nil] at tails
      exact (Option.some.inj tails).symm
    have zero : last.toNat = 0 := by
      by_contra nonzero
      exact Mac.encode_nul_free last nonzero (ends ▸ List.getLast_mem _)
    have nul : String.utf8EncodeChar last = [0] := by
      rw [← Char.ofNat_toNat last, zero]
      rfl
    rw [nul] at same
    exact ⟨before, (decode_utf8_iff bytes before).mpr (List.append_cancel_right same)⟩

theorem strict_utf16_nul (bytes : List UInt8) : strictUtf16 (bytes ++ [0]) = (strictUtf16 bytes).map (· ++ [0]) := by
  cases decoded : decodeUtf8 bytes with
  | some text =>
      have joined : bytes ++ [0] = encodeUtf8 (text ++ [Char.ofNat 0]) := by
        rw [(decode_utf8_iff bytes text).mp decoded, encodeUtf8, encodeUtf8, List.flatMap_append]
        rfl
      have units : encodeUtf16 (text ++ [Char.ofNat 0]) = encodeUtf16 text ++ [0] := by
        rw [encodeUtf16, encodeUtf16, List.flatMap_append]
        rfl
      rw [joined, strict_utf16_text, units, strictUtf16, decoded]
      rfl
  | none =>
      have still : decodeUtf8 (bytes ++ [0]) = none := by
        cases again : decodeUtf8 (bytes ++ [0]) with
        | none => rfl
        | some text =>
            obtain ⟨before, found⟩ := decode_utf8_nul bytes text again
            rw [decoded] at found
            cases found
      rw [strictUtf16, strictUtf16, still, decoded]
      rfl

def widePage : Conversion UInt8 UInt16 where
  convert := strictUtf16
  terminated bytes _ := strict_utf16_nul bytes
  overflow := errorInvalidParameter
  spill _ _ := []

def utf8Windows : Windows := ⟨fun _ _ => narrowPage, fun _ => widePage, fun _ => "error"⟩

theorem utf8_page : Utf8Page utf8Windows := ⟨fun _ => rfl, strict_utf16_text⟩

def samplePair : List Char := [Char.ofNat 0x20AC, Char.ofNat 0x1F600]

def sampleWide : View UInt16 := View.ended [0x20AC, 0xD83D, 0xDE00] []

theorem wide_round_trip_pair :
    (∃ converted, toUtf8 utf8Windows sampleWide = some converted ∧ ∀ narrow : View UInt8, narrow.chars = converted.text →
      ∃ back, fromUtf8 utf8Windows narrow = some back ∧ back.text = sampleWide.chars) :=
  (wide_round_trip utf8Windows utf8_page sampleWide).mpr ⟨samplePair, by decide, by decide⟩

theorem utf8_portable_pair : ∃ converted, toUtf8 utf8Windows sampleWide = some converted ∧
    Mac.Scoped.toUtf8 Mac.Scoped.strictServices.calls (Mac.Scoped.toWText samplePair) (fun _ => 0) =
      some (converted.text, fun _ => 0) := by
  obtain ⟨converted, made, written, _, _⟩ := (utf8_portable utf8Windows utf8_page Mac.Scoped.strictServices (fun _ => 0)
    (fun _ => rfl) samplePair sampleWide (by decide)).mpr (by decide)
  exact ⟨converted, made, written⟩

end Rcp.Platform
