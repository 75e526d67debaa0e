import Mathlib.Data.Nat.Digits.Lemmas
import RcpLib.Semantics.Numeral
import RcpLib.Utils.SysEnv

set_option autoImplicit false

namespace Rcp.Utils

open Semantics

theorem decimal_digits (magnitude : Nat) : ∀ byte ∈ SysEnv.decimal magnitude, isDigit byte = true := by
  intro byte member
  obtain ⟨digit, inside, rfl⟩ := List.mem_map.mp member
  refine digit_byte_digit digit ?_
  split at inside
  · rw [List.mem_singleton.mp inside]
    omega
  · exact Nat.digits_lt_base (by omega) (List.mem_reverse.mp inside)

theorem decimal_nonempty (magnitude : Nat) : SysEnv.decimal magnitude ≠ [] := by
  rw [SysEnv.decimal, Ne, List.map_eq_nil_iff]
  split
  · simp
  · rename_i positive
    rw [List.reverse_eq_nil_iff]
    exact Nat.digits_ne_nil_iff_ne_zero.mpr positive

theorem decimal_value (magnitude : Nat) : digitsValue (SysEnv.decimal magnitude) = magnitude := by
  by_cases zero : magnitude = 0
  · subst zero
    rfl
  · have digits : SysEnv.decimal magnitude = (Nat.digits 10 magnitude).reverse.map digitByte := by
      rw [SysEnv.decimal, if_neg zero]
      rfl
    have small : ∀ digit ∈ Nat.digits 10 magnitude, digit < 10 :=
      fun digit inside => Nat.digits_lt_base (by omega) inside
    rw [digits, digits_value_of_digits _ small, Nat.ofDigits_digits]

theorem decimal_length (magnitude count : Nat) (positive : 0 < count) (small : magnitude < 10 ^ count) :
    (SysEnv.decimal magnitude).length ≤ count := by
  rw [SysEnv.decimal, List.length_map]
  split
  · exact positive
  · rw [List.length_reverse, Nat.digits_length_le_iff (by omega)]
    exact small

theorem to_string_bytes (val : Int) :
    ∀ byte ∈ SysEnv.toString val, byte = SysEnv.minusSign ∨ isDigit byte = true := by
  intro byte member
  unfold SysEnv.toString at member
  split at member
  · exact (List.mem_cons.mp member).imp_right (decimal_digits val.natAbs byte)
  · exact .inr (decimal_digits val.natAbs byte member)

theorem to_string_nul_free (val : Int) : 0 ∉ SysEnv.toString val := by
  intro member
  rcases to_string_bytes val 0 member with sign | digit
  · cases sign
  · cases digit

theorem to_string_ascii (val : Int) : ∀ byte ∈ SysEnv.toString val, byte.toNat < 128 := by
  intro byte member
  rcases to_string_bytes val byte member with sign | digit
  · rw [sign]
    decide
  · simp only [isDigit, decide_eq_true_eq, UInt8.le_iff_toNat_le, UInt8.reduceToNat] at digit
    omega

theorem to_string_nonempty (val : Int) : SysEnv.toString val ≠ [] := by
  unfold SysEnv.toString
  split
  · simp
  · exact decimal_nonempty val.natAbs

theorem to_string_denotes (val : Int) : Denotes (SysEnv.toString val) val := by
  have digits := decimal_digits val.natAbs
  have nonempty := decimal_nonempty val.natAbs
  by_cases negative : val < 0
  · refine ⟨[], .minus, SysEnv.decimal val.natAbs, [], ?_, by simp, nonempty, digits, by simp, ?_⟩
    · rw [SysEnv.toString, if_pos negative]
      simp [Sign.text, SysEnv.minusSign]
    · rw [decimal_value, Sign.applied]
      omega
  · refine ⟨[], .none, SysEnv.decimal val.natAbs, [], ?_, by simp, nonempty, digits, by simp, ?_⟩
    · rw [SysEnv.toString, if_neg negative]
      simp [Sign.text]
    · rw [decimal_value]
      exact (Int.natAbs_of_nonneg (by omega)).symm

structure NumeralText (val : Int) extends EnvText where
  denotes : Denotes bytes val

def integerText (val : Int) : NumeralText val :=
  ⟨⟨SysEnv.toString val, to_string_nul_free val⟩, to_string_denotes val⟩

-- A value of one of the integer types that std::to_string takes.
structure IntegerValue where
  val : Int
  fits : -0x8000000000000000 ≤ val ∧ val < 0x10000000000000000

theorem integer_nul_free (number : IntegerValue) : 0 ∉ SysEnv.toString number.val := to_string_nul_free number.val

theorem integer_ascii (number : IntegerValue) : ∀ byte ∈ SysEnv.toString number.val, byte.toNat < 128 :=
  to_string_ascii number.val

theorem integer_length (number : IntegerValue) : (SysEnv.toString number.val).length ≤ 21 := by
  have fits := number.fits
  have digits := decimal_length number.val.natAbs 20 (by omega) (by omega)
  unfold SysEnv.toString
  split
  · rw [List.length_cons]
    omega
  · omega

end Rcp.Utils
