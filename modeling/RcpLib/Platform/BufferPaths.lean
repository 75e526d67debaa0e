import RcpLib.Platform.PlatformWin

set_option autoImplicit false

namespace Rcp.Platform

open Semantics

namespace Wide2Ansii

section FnCall

variable (windows : Windows) (codePage : UINT) (input : View UInt16) (terminated : 0 ∈ input.memory)

def conversionOf : Conversion UInt16 UInt8 := windows.wideCharToMultiByte codePage (decide (codePage = cpAcp))

theorem fn_call_negative (self : Locals) (size : Nat) (negative : staticCastInt size < 0) :
    fnCall windows codePage input self size = some (0, ⟨resize self.buff size, 0, errorInvalidParameter⟩) := by
  simp only [fnCall, resize_length]
  rw [call_negative _ _ _ _ _ negative]
  rfl

include terminated

theorem fn_call_fill (self : Locals) (size : Nat) (positive : ¬ staticCastInt size < 0) (call : Call UInt8)
    (filled : (conversionOf windows codePage).fill (cString input.memory ++ [0]) (resize self.buff size)
      (staticCastInt size).toNat = call) :
    fnCall windows codePage input self size = some (call.result, self.after call) := by
  simp only [fnCall, resize_length]
  rw [call_terminated _ _ terminated _ _ positive, ← filled]
  rfl

theorem fn_call_rejected (self : Locals) (size : Nat) (positive : ¬ staticCastInt size < 0) (error : DWORD)
    (rejected : (conversionOf windows codePage).convert (cString input.memory) = .error error) :
    ∃ buff, fnCall windows codePage input self size = some (0, ⟨buff, 0, error⟩) := by
  have refused := convert_rejected _ _ (c_string_nul_free _) error rejected
  exact ⟨_, fn_call_fill windows codePage input terminated self size positive _ (fill_rejected _ _ _ _ error refused)⟩

theorem fn_call_fits (self : Locals) (size : Nat) (bytes : List UInt8)
    (accepted : (conversionOf windows codePage).convert (cString input.memory) = .ok bytes)
    (fits : (bytes.length : Int) + 1 ≤ staticCastInt size) :
    fnCall windows codePage input self size =
      some (bytes.length + 1, ⟨overwrite (resize self.buff size) (bytes ++ [0]), bytes.length + 1, self.lastError⟩) := by
  have converted := convert_accepted _ _ (c_string_nul_free _) bytes accepted
  have room : (bytes ++ [0]).length ≤ (staticCastInt size).toNat := by
    simp only [List.length_append, List.length_singleton]
    omega
  have filled := fill_fits _ _ (resize self.buff size) _ _ converted (by omega) room
  rw [fn_call_fill windows codePage input terminated self size (by omega) _ filled]
  simp [Locals.after]

theorem fn_call_insufficient (self : Locals) (size : Nat) (bytes : List UInt8)
    (accepted : (conversionOf windows codePage).convert (cString input.memory) = .ok bytes)
    (positive : 0 < staticCastInt size) (exceeds : staticCastInt size < (bytes.length : Int) + 1) :
    ∃ buff, fnCall windows codePage input self size = some (0, ⟨buff, 0, errorInsufficientBuffer⟩) := by
  have converted := convert_accepted _ _ (c_string_nul_free _) bytes accepted
  have short : ¬ (bytes ++ [0]).length ≤ (staticCastInt size).toNat := by
    simp only [List.length_append, List.length_singleton]
    omega
  have filled := fill_insufficient _ _ (resize self.buff size) _ _ converted (by omega) short
  exact ⟨_, fn_call_fill windows codePage input terminated self size (by omega) _ filled⟩

theorem fn_call_query (self : Locals) (size : Nat) (zero : staticCastInt size = 0) (bytes : List UInt8)
    (accepted : (conversionOf windows codePage).convert (cString input.memory) = .ok bytes)
    (counted : bytes.length + 1 < 0x80000000) :
    fnCall windows codePage input self size = some (bytes.length + 1, ⟨resize self.buff size, 0, self.lastError⟩) := by
  have converted := convert_accepted _ _ (c_string_nul_free _) bytes accepted
  have filled := fill_query _ _ (resize self.buff size) (staticCastInt size).toNat _ converted (by omega)
    (by simpa using counted)
  rw [fn_call_fill windows codePage input terminated self size (by omega) _ filled]
  simp [Locals.after]

theorem fn_call_overflow (self : Locals) (bytes : List UInt8)
    (accepted : (conversionOf windows codePage).convert (cString input.memory) = .ok bytes)
    (uncounted : ¬ bytes.length + 1 < 0x80000000) :
    ∃ buff, fnCall windows codePage input self 0 = some (0, ⟨buff, 0, (conversionOf windows codePage).overflow⟩) := by
  have converted := convert_accepted _ _ (c_string_nul_free _) bytes accepted
  have filled := fill_overflow _ _ (resize self.buff 0) (staticCastInt 0).toNat _ converted (by decide)
    (by simpa using uncounted)
  exact ⟨_, fn_call_fill windows codePage input terminated self 0 (by decide) _ filled⟩

theorem calls_rejected (self : Locals) (positive : ¬ staticCastInt (input.length * 2) < 0) (error : DWORD)
    (rejected : (conversionOf windows codePage).convert (cString input.memory) = .error error) :
    ∃ locals, calls windows codePage input self = some (true, locals) ∧ locals.lastError = error := by
  obtain ⟨buff, first⟩ := fn_call_rejected windows codePage input terminated self _ positive error rejected
  by_cases insufficient : error = errorInsufficientBuffer
  · obtain ⟨again, second⟩ := fn_call_rejected windows codePage input terminated ⟨buff, 0, error⟩ 0 (by decide) error rejected
    refine ⟨⟨again, 0, error⟩, ?_, rfl⟩
    simp [calls, first, insufficient, insufficient ▸ second]
  · refine ⟨⟨buff, 0, error⟩, ?_, rfl⟩
    simp [calls, first, insufficient]

-- The first buffer is used when the encoded text and its NUL fit, and else the second
-- one, whose size is exactly what is needed.
theorem calls_accepted (self : Locals) (positive : 0 < staticCastInt (input.length * 2)) (bytes : List UInt8)
    (accepted : (conversionOf windows codePage).convert (cString input.memory) = .ok bytes)
    (counted : bytes.length + 1 < 0x80000000) :
    ∃ rest lastError, calls windows codePage input self =
      some (false, ⟨bytes ++ 0 :: rest, bytes.length + 1, lastError⟩) := by
  by_cases fits : (bytes.length : Int) + 1 ≤ staticCastInt (input.length * 2)
  · have first := fn_call_fits windows codePage input terminated self _ bytes accepted fits
    refine ⟨(resize self.buff (input.length * 2)).drop (bytes.length + 1), self.lastError, ?_⟩
    simp [calls, first, overwrite]
  · obtain ⟨buff, first⟩ :=
      fn_call_insufficient windows codePage input terminated self _ bytes accepted positive (by omega)
    have second := fn_call_query windows codePage input terminated ⟨buff, 0, errorInsufficientBuffer⟩ 0 (by decide) bytes
      accepted counted
    have exactly : staticCastInt (bytes.length + 1) = (bytes.length : Int) + 1 := static_cast_small _ counted
    have third := fn_call_fits windows codePage input terminated ⟨resize buff 0, 0, errorInsufficientBuffer⟩
      (bytes.length + 1) bytes accepted (by omega)
    have full : overwrite (resize (resize buff 0) (bytes.length + 1)) (bytes ++ [0]) = bytes ++ [0] :=
      overwrite_full _ _ (by simp [resize_length])
    refine ⟨[], errorInsufficientBuffer, ?_⟩
    simp [calls, first, second, third, full]

theorem calls_overflow (self : Locals) (positive : 0 < staticCastInt (input.length * 2)) (bytes : List UInt8)
    (accepted : (conversionOf windows codePage).convert (cString input.memory) = .ok bytes)
    (uncounted : ¬ bytes.length + 1 < 0x80000000) :
    ∃ locals, calls windows codePage input self = some (true, locals) ∧
      locals.lastError = (conversionOf windows codePage).overflow := by
  have small : staticCastInt (input.length * 2) < (bytes.length : Int) + 1 := by
    unfold staticCastInt
    split <;> omega
  obtain ⟨buff, first⟩ := fn_call_insufficient windows codePage input terminated self _ bytes accepted positive small
  obtain ⟨again, second⟩ := fn_call_overflow windows codePage input terminated ⟨buff, 0, errorInsufficientBuffer⟩ bytes
    accepted uncounted
  refine ⟨⟨again, 0, _⟩, ?_, rfl⟩
  simp [calls, first, second]

end FnCall

end Wide2Ansii

open Wide2Ansii

theorem buffer_paths_agree (windows : Windows) (lastError : DWORD) (codePage : UINT) (chars rest : List UInt16)
    (throwOfFail : Bool) (nonempty : chars ≠ []) (nulFree : 0 ∉ chars) (doubled : chars.length * 2 < 0x80000000)
    (encoding : ∀ bytes, (conversionOf windows codePage).convert chars = .ok bytes →
      0 ∉ bytes ∧ bytes.length + 1 < 0x80000000) :
    ∃ callFailed locals,
      calls windows codePage (View.ended chars rest) ⟨[], 0, lastError⟩ = some (callFailed, locals) ∧
      (callFailed = true ↔ ∃ error, (conversionOf windows codePage).convert chars = .error error) ∧
      (callFailed = false → 0 ∈ locals.buff.take locals.written) ∧
      Wide2AnsiiHelper windows lastError codePage (View.ended chars rest) throwOfFail =
        some (match (conversionOf windows codePage).convert chars with
          | .ok bytes => .ok bytes
          | .error error =>
              if throwOfFail then .error ⟨staticCastInt error.toNat, windows.sysErrorTextA error⟩ else .ok []) := by
  have terminated : (0 : UInt16) ∈ (View.ended chars rest).memory := by simp [View.ended]
  have text : cString (View.ended chars rest).memory = chars := c_string_append chars rest nulFree
  have present : (View.ended chars rest).length ≠ 0 := by simpa [View.ended] using nonempty
  have size : staticCastInt ((View.ended chars rest).length * 2) = ((View.ended chars rest).length * 2 : Nat) :=
    static_cast_small _ doubled
  have positive : 0 < staticCastInt ((View.ended chars rest).length * 2) := by omega
  cases converted : (conversionOf windows codePage).convert chars with
  | error error =>
      obtain ⟨locals, called, last⟩ := calls_rejected windows codePage _ terminated ⟨[], 0, lastError⟩ (by omega) error
        (text.symm ▸ converted)
      refine ⟨true, locals, called, ⟨fun _ => ⟨error, rfl⟩, fun _ => rfl⟩, by simp, ?_⟩
      rw [Wide2AnsiiHelper, if_neg present, called]
      simp only [if_true, last, failure_exit]
  | ok bytes =>
      obtain ⟨clean, fits⟩ := encoding bytes converted
      obtain ⟨after, last, called⟩ := calls_accepted windows codePage _ terminated ⟨[], 0, lastError⟩ positive bytes
        (text.symm ▸ converted) fits
      refine ⟨false, _, called, by simp, fun _ => by simp [List.take_append], ?_⟩
      rw [Wide2AnsiiHelper, if_neg present, called]
      simp [of_data_nul bytes after clean]

def asciiOnly : Conversion UInt16 UInt8 where
  convert text := if text.all (· < 0x80) then .ok (text.map (·.toUInt8)) else .error errorNoUnicodeTranslation
  terminated text _ := by
    cases ascii : text.all (· < 0x80) <;> simp [ascii, Except.map]
  overflow := errorInvalidParameter
  spill _ _ := []

def asciiWindows : Windows := ⟨fun _ _ => asciiOnly, euroWindows.multiByteToWideChar, fun _ => "no mapping"⟩

theorem buffer_paths_agree_sample :
    Wide2AnsiiHelper euroWindows 0 cpOemcp (View.ended [0x20AC] []) true = some (.ok [0xE2, 0x82, 0xAC]) ∧
    Wide2AnsiiHelper asciiWindows 0 cpOemcp (View.ended [0x20AC] []) true = some (.error ⟨1113, "no mapping"⟩) ∧
    Wide2AnsiiHelper asciiWindows 0 cpOemcp (View.ended [0x20AC] []) false = some (.ok []) := by
  have encoding : ∀ bytes, (conversionOf euroWindows cpOemcp).convert [0x20AC] = .ok bytes →
      0 ∉ bytes ∧ bytes.length + 1 < 0x80000000 := by
    intro bytes converted
    have same : [0xE2, 0x82, 0xAC] = bytes := Except.ok.inj converted
    rw [← same]
    decide
  have rejected : ∀ bytes, (conversionOf asciiWindows cpOemcp).convert [0x20AC] = .ok bytes →
      0 ∉ bytes ∧ bytes.length + 1 < 0x80000000 := by
    intro bytes converted
    have refused : (conversionOf asciiWindows cpOemcp).convert [0x20AC] = .error errorNoUnicodeTranslation := rfl
    rw [refused] at converted
    cases converted
  have agree := fun windows => buffer_paths_agree windows 0 cpOemcp [0x20AC] []
  constructor
  · obtain ⟨_, _, _, _, _, result⟩ := agree euroWindows true (by decide) (by decide) (by decide) encoding
    exact result
  constructor
  · obtain ⟨_, _, _, _, _, result⟩ := agree asciiWindows true (by decide) (by decide) (by decide) rejected
    exact result
  · obtain ⟨_, _, _, _, _, result⟩ := agree asciiWindows false (by decide) (by decide) (by decide) rejected
    exact result

end Rcp.Platform
