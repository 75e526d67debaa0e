import Mathlib.Data.List.Basic

set_option autoImplicit false

namespace Rcp.Platform.Mac

-- A wchar_t is 32 bits wide, and stands for a code point.
abbrev WText := List UInt32

def ValidText (wide : WText) : Prop := ∀ char ∈ wide, char.toNat.isValidChar

instance (wide : WText) : Decidable (ValidText wide) :=
  List.decidableBAll (fun char : UInt32 => char.toNat.isValidChar) wide

def utf8 (wide : WText) : List UInt8 := wide.flatMap fun char => String.utf8EncodeChar (Char.ofNat char.toNat)

theorem byte_nonzero (value : Nat) (nonzero : value % 256 ≠ 0) : (0 : UInt8) ≠ UInt8.ofNat value := by
  intro same
  have zero := congrArg UInt8.toNat same
  rw [UInt8.toNat_ofNat'] at zero
  exact nonzero zero.symm

theorem encode_nul_free (char : Char) (nonzero : char.toNat ≠ 0) : 0 ∉ String.utf8EncodeChar char := by
  have value : char.val.toNat ≠ 0 := nonzero
  intro member
  simp only [String.utf8EncodeChar] at member
  split at member
  · simp only [List.mem_singleton] at member
    exact byte_nonzero _ (by omega) member
  · split at member
    · simp only [List.mem_cons, List.not_mem_nil, or_false] at member
      rcases member with same | same <;> exact byte_nonzero _ (by omega) same
    · split at member
      · simp only [List.mem_cons, List.not_mem_nil, or_false] at member
        rcases member with same | same | same <;> exact byte_nonzero _ (by omega) same
      · simp only [List.mem_cons, List.not_mem_nil, or_false] at member
        rcases member with same | same | same | same <;> exact byte_nonzero _ (by omega) same

theorem utf8_nul_free (wide : WText) (valid : ValidText wide) (nulFree : 0 ∉ wide) : 0 ∉ utf8 wide := by
  intro member
  obtain ⟨char, inside, encoded⟩ := List.mem_flatMap.mp member
  have value : (Char.ofNat char.toNat).toNat = char.toNat := by
    rw [Char.ofNat, dif_pos (valid char inside)]
    rfl
  refine encode_nul_free _ ?_ encoded
  rw [value]
  intro zero
  have same : char = 0 := UInt32.toNat_inj.mp zero
  exact nulFree (same ▸ inside)

theorem utf8_nonempty (wide : WText) (nonempty : wide ≠ []) : utf8 wide ≠ [] := by
  cases wide with
  | nil => exact absurd rfl nonempty
  | cons char rest =>
      intro empty
      exact String.utf8EncodeChar_ne_nil (List.append_eq_nil_iff.mp empty).1

end Rcp.Platform.Mac
