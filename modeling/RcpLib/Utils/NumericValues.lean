import RcpLib.Utils.NumTraits

set_option autoImplicit false

namespace Rcp.Utils

open Semantics

def NumType.parsesUnsigned : NumType → Bool
  | .longLong | .unsignedLong => true
  | _ => false

-- The numerals that a parser does not throw away.
def NumType.Accepts (model : DataModel) (type : NumType) (z : Int) : Prop :=
  if type.parsesUnsigned then z.natAbs < type.modulus model else type.Holds model z

instance (model : DataModel) (type : NumType) (z : Int) : Decidable (type.Accepts model z) :=
  inferInstanceAs
    (Decidable (if type.parsesUnsigned then z.natAbs < type.modulus model else type.Holds model z))

theorem applied_abs (sign : Sign) (magnitude : Nat) : (sign.applied magnitude).natAbs = magnitude := by
  cases sign <;> simp [Sign.applied]

theorem strtol_denotes (modulus : Nat) (str : Bytes) (z : Int) (denotes : Denotes str z) :
    checked (strtol modulus str) =
      if signedMin modulus ≤ z ∧ z ≤ signedMax modulus then .ok z else .error .outOfRange := by
  obtain ⟨sign, magnitude, found, rfl⟩ := subject_of_denotes str z denotes
  simp only [strtol, found]
  by_cases below : sign.applied magnitude < signedMin modulus
  · rw [if_pos below, if_neg (by omega)]
    rfl
  · by_cases above : signedMax modulus < sign.applied magnitude
    · rw [if_neg below, if_pos above, if_neg (by omega)]
      rfl
    · rw [if_neg below, if_neg above, if_pos (by omega)]
      rfl

theorem strtoul_denotes (modulus : Nat) (str : Bytes) (z : Int) (denotes : Denotes str z) :
    checked (strtoul modulus str) = if z.natAbs < modulus then .ok (wrap modulus false z) else .error .outOfRange := by
  obtain ⟨sign, magnitude, found, rfl⟩ := subject_of_denotes str z denotes
  rw [applied_abs]
  simp only [strtoul, found]
  by_cases above : modulus ≤ magnitude
  · rw [if_pos above, if_neg (by omega)]
    rfl
  · rw [if_neg above, if_pos (by omega)]
    rfl

theorem convert_wrap (model : DataModel) (type : NumType) (z : Int) :
    type.convert model (wrap (type.modulus model) false z) = type.convert model z := by
  apply num_value_ext
  simp only [NumType.convert, wrap, Bool.false_eq_true, if_false]
  split
  · rw [Int.emod_add_emod]
  · rw [Int.emod_emod]

theorem int_holds_long (model : DataModel) (z : Int) (holds : NumType.int.Holds model z) : NumType.long.Holds model z := by
  cases model <;>
    simp only [NumType.Holds, NumType.min, NumType.max, NumType.signed, NumType.modulus, DataModel.longModulus, signedMin,
      signedMax, if_true] at holds ⊢ <;>
    omega

theorem stol_denotes (model : DataModel) (str : Bytes) (z : Int) (denotes : Denotes str z) :
    stol model str = if NumType.long.Holds model z then .ok z else .error .outOfRange :=
  strtol_denotes model.longModulus str z denotes

theorem stoi_denotes (model : DataModel) (str : Bytes) (z : Int) (denotes : Denotes str z) :
    stoi model str = if NumType.int.Holds model z then .ok z else .error .outOfRange := by
  rw [stoi, stol_denotes model str z denotes]
  by_cases holds : NumType.int.Holds model z
  · rw [if_pos (int_holds_long model z holds)]
  · by_cases wide : NumType.long.Holds model z
    · rw [if_pos wide]
    · rw [if_neg wide, if_neg holds]

theorem stoul_denotes (model : DataModel) (str : Bytes) (z : Int) (denotes : Denotes str z) :
    stoul model str =
      if z.natAbs < NumType.unsignedLong.modulus model then .ok (wrap (NumType.unsignedLong.modulus model) false z)
      else .error .outOfRange :=
  strtoul_denotes model.longModulus str z denotes

theorem stoull_denotes (model : DataModel) (str : Bytes) (z : Int) (denotes : Denotes str z) :
    stoull str =
      if z.natAbs < NumType.longLong.modulus model then .ok (wrap (NumType.longLong.modulus model) false z)
      else .error .outOfRange :=
  strtoul_denotes _ str z denotes

theorem from_denotes (model : DataModel) (type : NumType) (str : Bytes) (z : Int) (denotes : Denotes str z) :
    NumTraits.from model type str = if type.Accepts model z then .ok (type.convert model z) else .error .outOfRange := by
  cases type with
  | int =>
      have parsed := stoi_denotes model str z denotes
      simp only [NumTraits.from, NumTraits.fromInt, parsed, NumType.Accepts, NumType.parsesUnsigned, Bool.false_eq_true, if_false]
      split <;> rfl
  | long =>
      have parsed := stol_denotes model str z denotes
      simp only [NumTraits.from, NumTraits.fromLong, parsed, NumType.Accepts, NumType.parsesUnsigned, Bool.false_eq_true, if_false]
      split <;> rfl
  | longLong =>
      have parsed := stoull_denotes model str z denotes
      have wrapped := convert_wrap model .longLong z
      simp only [NumTraits.from, NumTraits.fromLongLong, parsed, NumType.Accepts, NumType.parsesUnsigned, if_true]
      by_cases fits : z.natAbs < NumType.longLong.modulus model
      · rw [if_pos fits, if_pos fits]
        exact congrArg Except.ok wrapped
      · rw [if_neg fits, if_neg fits]
        rfl
  | unsignedLong =>
      have parsed := stoul_denotes model str z denotes
      have wrapped := convert_wrap model .unsignedLong z
      simp only [NumTraits.from, NumTraits.fromUnsignedLong, parsed, NumType.Accepts, NumType.parsesUnsigned, if_true]
      by_cases fits : z.natAbs < NumType.unsignedLong.modulus model
      · rw [if_pos fits, if_pos fits]
        exact congrArg Except.ok wrapped
      · rw [if_neg fits, if_neg fits]
        rfl

theorem from_none (model : DataModel) (type : NumType) (str : Bytes) (absent : ∀ z, ¬ Denotes str z) :
    NumTraits.from model type str = .error .invalidArgument := by
  have none := subject_none str absent
  cases type <;>
    simp [NumTraits.from, NumTraits.fromInt, NumTraits.fromLong, NumTraits.fromLongLong, NumTraits.fromUnsignedLong, stoi,
      stol, stoul, stoull, strtol, strtoul, none, checked, Except.map]

theorem empty_denotes_nothing (z : Int) : ¬ Denotes [] z := by
  intro denotes
  obtain ⟨sign, magnitude, found, _⟩ := subject_of_denotes [] z denotes
  cases found

theorem get_number_denotes (model : DataModel) (type : NumType) (environ : Environ) (name : Bytes)
    (defVal : NumValue model type) (z : Int) (denotes : Denotes (SysEnvProc.getA environ name) z) :
    SysEnv.getNumber model type environ name defVal = if type.Accepts model z then type.convert model z else defVal := by
  have nonempty : SysEnvProc.getA environ name ≠ [] := by
    intro empty
    rw [empty] at denotes
    exact empty_denotes_nothing z denotes
  rw [SysEnv.getNumber, if_neg nonempty, from_denotes model type _ z denotes]
  by_cases accepted : type.Accepts model z
  · rw [if_pos accepted, if_pos accepted]
  · rw [if_neg accepted, if_neg accepted]

theorem get_number_absent (model : DataModel) (type : NumType) (environ : Environ) (name : Bytes)
    (defVal : NumValue model type) (absent : ∀ z, ¬ Denotes (SysEnvProc.getA environ name) z) :
    SysEnv.getNumber model type environ name defVal = defVal := by
  rw [SysEnv.getNumber, from_none model type _ absent]
  split <;> rfl

-- What a read of a number should give: the numeral if T holds it, else the default.
structure ReadsExactly (model : DataModel) (type : NumType) (text : Bytes) (defVal result : NumValue model type) : Prop where
  held : ∀ z, Denotes text z → type.Holds model z → result.val = z
  beyond : ∀ z, Denotes text z → ¬ type.Holds model z → result = defVal
  absent : (∀ z, ¬ Denotes text z) → result = defVal

-- No numeral beyond T passes through an unsigned parser, unless it wraps to the default.
def Unwrapped (model : DataModel) (type : NumType) (text : Bytes) (defVal : NumValue model type) : Prop :=
  ∀ z, Denotes text z → type.parsesUnsigned = true → z.natAbs < type.modulus model →
    type.Holds model z ∨ (type.modulus model : Int) ∣ z - defVal.val

theorem convert_eq_iff (model : DataModel) (type : NumType) (z : Int) (value : NumValue model type) :
    type.convert model z = value ↔ (type.modulus model : Int) ∣ z - value.val := by
  obtain ⟨val, holds⟩ := value
  have same : type.convert model z = ⟨val, holds⟩ ↔ (type.convert model z).val = val :=
    ⟨fun equal => congrArg NumValue.val equal, fun equal => num_value_ext _ _ equal⟩
  rw [same]
  simp only [NumType.Holds, NumType.min, NumType.max, signedMin, signedMax] at holds
  simp only [NumType.convert, wrap]
  rcases modulus_cases model type with width | width <;> rw [width] at holds ⊢ <;> split at holds <;> rename_i signed <;>
    simp only [signed, if_true, if_false, Bool.false_eq_true] at holds ⊢ <;> omega

theorem accepts_of_holds (model : DataModel) (type : NumType) (z : Int) (holds : type.Holds model z) :
    type.Accepts model z := by
  unfold NumType.Accepts
  split
  · simp only [NumType.Holds, NumType.min, NumType.max, signedMin, signedMax] at holds
    rcases modulus_cases model type with width | width <;> rw [width] at holds ⊢ <;> split at holds <;> omega
  · exact holds

theorem accepts_beyond (model : DataModel) (type : NumType) (z : Int) (beyond : ¬ type.Holds model z)
    (accepts : type.Accepts model z) : type.parsesUnsigned = true ∧ z.natAbs < type.modulus model := by
  unfold NumType.Accepts at accepts
  split at accepts
  · rename_i unsigned
    exact ⟨unsigned, accepts⟩
  · exact absurd accepts beyond

theorem get_number_exact (model : DataModel) (type : NumType) (environ : Environ) (name : Bytes)
    (defVal : NumValue model type) :
    ReadsExactly model type (SysEnvProc.getA environ name) defVal (SysEnv.getNumber model type environ name defVal) ↔
      Unwrapped model type (SysEnvProc.getA environ name) defVal := by
  constructor
  · intro exact z denotes unsigned fits
    by_cases holds : type.Holds model z
    · exact Or.inl holds
    · right
      have read := exact.beyond z denotes holds
      have accepts : type.Accepts model z := by
        rw [NumType.Accepts, if_pos unsigned]
        exact fits
      rw [get_number_denotes model type environ name defVal z denotes, if_pos accepts] at read
      exact (convert_eq_iff model type z defVal).mp read
  · intro unwrapped
    refine ⟨fun z denotes holds => ?_, fun z denotes beyond => ?_, get_number_absent model type environ name defVal⟩
    · rw [get_number_denotes model type environ name defVal z denotes, if_pos (accepts_of_holds model type z holds)]
      exact convert_holds model type z holds
    · rw [get_number_denotes model type environ name defVal z denotes]
      split
      · rename_i accepts
        obtain ⟨unsigned, fits⟩ := accepts_beyond model type z beyond accepts
        have congruent := (unwrapped z denotes unsigned fits).resolve_left beyond
        exact (convert_eq_iff model type z defVal).mpr congruent
      · rfl

def wideNumeral : Bytes := [57, 50, 50, 51, 51, 55, 50, 48, 51, 54, 56, 53, 52, 55, 55, 53, 56, 48, 56]

-- 2^63 is read as -2^63 by long long, and -1 as 2^64 - 1 by unsigned long.
theorem get_number_wraps :
    ¬ ReadsExactly .lp64 .longLong (SysEnvProc.getA [78 :: equalSign :: wideNumeral] [78])
        (NumTraits.defValue .lp64 .longLong)
        (SysEnv.getNumber .lp64 .longLong [78 :: equalSign :: wideNumeral] [78] (NumTraits.defValue .lp64 .longLong)) ∧
      ¬ ReadsExactly .lp64 .unsignedLong (SysEnvProc.getA [[78, equalSign, 45, 49]] [78])
        (NumTraits.defValue .lp64 .unsignedLong)
        (SysEnv.getNumber .lp64 .unsignedLong [[78, equalSign, 45, 49]] [78] (NumTraits.defValue .lp64 .unsignedLong)) := by
  constructor
  · intro exact
    have numeral : Denotes (SysEnvProc.getA [78 :: equalSign :: wideNumeral] [78]) 9223372036854775808 :=
      ⟨[], .none, wideNumeral, [], by decide, by simp, by decide, List.all_eq_true.mp (by decide), by simp, by decide⟩
    have wrapped := congrArg NumValue.val (exact.beyond _ numeral (by decide))
    revert wrapped
    decide
  · intro exact
    have numeral : Denotes (SysEnvProc.getA [[78, equalSign, 45, 49]] [78]) (-1) :=
      ⟨[], .minus, [49], [], by decide, by simp, by decide, List.all_eq_true.mp (by decide), by simp, by decide⟩
    have wrapped := congrArg NumValue.val (exact.beyond _ numeral (by decide))
    revert wrapped
    decide

end Rcp.Utils
