import RcpLib.Utils.EnvPortable
import RcpLib.Utils.NumericValues

set_option autoImplicit false

namespace Rcp.Utils

open Semantics Platform.Mac.Scoped

def SysEnvBackend.getNumber {Env Char : Type} (backend : SysEnvBackend Env Char) (model : DataModel) (type : NumType)
    (environ : Env) (envVarName : Bytes) (defVal : NumValue model type) : NumValue model type :=
  let val := backend.getA environ envVarName
  if val = [] then defVal
  else
    match NumTraits.from model type val with
    | .ok value => value
    | .error _ => defVal

-- The numerals that both data models read alike, whatever the default.
def NumType.Portable : NumType → Int → Prop
  | .int, _ => True
  | .longLong, _ => True
  | .long, z => (-0x80000000 ≤ z ∧ z < 0x80000000) ∨ ¬ (-0x8000000000000000 ≤ z ∧ z < 0x8000000000000000)
  | .unsignedLong, z => (0 ≤ z ∧ z < 0x100000000) ∨ 0x10000000000000000 ≤ z.natAbs

section Numerals

variable {Env Char : Type} (backend : SysEnvBackend Env Char) (model : DataModel) (type : NumType) (environ : Env)
  (name : Bytes) (defVal : NumValue model type)

theorem number_denoted (z : Int) (denotes : Denotes (backend.getA environ name) z) :
    backend.getNumber model type environ name defVal = if type.Accepts model z then type.convert model z else defVal := by
  have nonempty : backend.getA environ name ≠ [] := by
    intro empty
    rw [empty] at denotes
    exact empty_denotes_nothing z denotes
  rw [SysEnvBackend.getNumber, if_neg nonempty, from_denotes model type _ z denotes]
  by_cases accepted : type.Accepts model z
  · rw [if_pos accepted, if_pos accepted]
  · rw [if_neg accepted, if_neg accepted]

theorem number_absent (absent : ∀ z, ¬ Denotes (backend.getA environ name) z) :
    backend.getNumber model type environ name defVal = defVal := by
  rw [SysEnvBackend.getNumber, from_none model type _ absent]
  split <;> rfl

end Numerals

-- With the defaults 0 and 1, a numeral that one data model takes and the other does
-- not is told apart.
theorem alike_iff (type : NumType) (z : Int) :
    (∀ (defVal : Int) (holds : type.Holds .lp64 defVal) (also : type.Holds .llp64 defVal),
      (if type.Accepts .lp64 z then type.convert .lp64 z else ⟨defVal, holds⟩).val =
        (if type.Accepts .llp64 z then type.convert .llp64 z else ⟨defVal, also⟩).val) ↔
      (type.Accepts .lp64 z ↔ type.Accepts .llp64 z) ∧
        (type.Accepts .lp64 z → (type.convert .lp64 z).val = (type.convert .llp64 z).val) := by
  have small : ∀ (model : DataModel) (defVal : Int), 0 ≤ defVal ∧ defVal ≤ 1 → type.Holds model defVal := by
    intro model defVal range
    simp only [NumType.Holds, NumType.min, NumType.max, signedMin, signedMax]
    rcases modulus_cases model type with width | width <;> rw [width] <;> split <;> omega
  constructor
  · intro same
    have zero := same 0 (small _ 0 (by omega)) (small _ 0 (by omega))
    have one := same 1 (small _ 1 (by omega)) (small _ 1 (by omega))
    by_cases first : type.Accepts .lp64 z
    · by_cases second : type.Accepts .llp64 z
      · rw [if_pos first, if_pos second] at zero
        exact ⟨⟨fun _ => second, fun _ => first⟩, fun _ => zero⟩
      · rw [if_pos first, if_neg second] at zero one
        exact absurd (zero.symm.trans one) Int.zero_ne_one
    · by_cases second : type.Accepts .llp64 z
      · rw [if_neg first, if_pos second] at zero one
        exact absurd (zero.trans one.symm) Int.zero_ne_one
      · exact ⟨⟨fun accepted => absurd accepted first, fun accepted => absurd accepted second⟩,
          fun accepted => absurd accepted first⟩
  · intro alike defVal holds also
    by_cases first : type.Accepts .lp64 z
    · rw [if_pos first, if_pos (alike.1.mp first)]
      exact alike.2 first
    · rw [if_neg first, if_neg fun accepted => first (alike.1.mpr accepted)]

theorem portable_iff (type : NumType) (z : Int) :
    ((type.Accepts .lp64 z ↔ type.Accepts .llp64 z) ∧
      (type.Accepts .lp64 z → (type.convert .lp64 z).val = (type.convert .llp64 z).val)) ↔ type.Portable z := by
  cases type with
  | int => exact ⟨fun _ => trivial, fun _ => ⟨Iff.rfl, fun _ => rfl⟩⟩
  | longLong => exact ⟨fun _ => trivial, fun _ => ⟨Iff.rfl, fun _ => rfl⟩⟩
  | long =>
      simp only [NumType.Accepts, NumType.parsesUnsigned, NumType.Holds, NumType.min, NumType.max, NumType.signed,
        NumType.modulus, DataModel.longModulus, signedMin, signedMax, NumType.convert, wrap, NumType.Portable,
        Bool.false_eq_true, if_false, if_true]
      omega
  | unsignedLong =>
      simp only [NumType.Accepts, NumType.parsesUnsigned, NumType.signed, NumType.modulus, DataModel.longModulus,
        NumType.convert, wrap, NumType.Portable, Bool.false_eq_true, if_false, if_true]
      omega

theorem get_a_of_get {Env Char : Type} (backend : SysEnvBackend Env Char) (environ : Env) (name : Bytes) :
    backend.getA environ name = backend.get environ name [] := by
  rw [SysEnvBackend.get, default_empty]

section Agreement

variable (system : Win.WinSystem) (services : StringServices)

theorem numbers_alike (posix : Posix.PosixEnv) (win : Win.WinEnviron) (name : AsciiName)
    (answers : SameAnswers system services posix win name) (type : NumType) :
    (∀ (defVal : Int) (holds : type.Holds .lp64 defVal) (also : type.Holds .llp64 defVal),
      ((Posix.backend services.calls).getNumber .lp64 type posix name.bytes ⟨defVal, holds⟩).val =
        ((Win.backend system).getNumber .llp64 type win name.bytes ⟨defVal, also⟩).val) ↔
      ∀ z, Denotes ((Posix.backend services.calls).get posix name.bytes []) z → type.Portable z := by
  have text : (Posix.backend services.calls).getA posix name.bytes =
      (Posix.backend services.calls).get posix name.bytes [] := get_a_of_get _ _ _
  have same : (Win.backend system).getA win name.bytes = (Posix.backend services.calls).get posix name.bytes [] := by
    rw [get_a_of_get, answers.get]
  by_cases numeral : ∃ z, Denotes ((Posix.backend services.calls).get posix name.bytes []) z
  · obtain ⟨z, denotes⟩ := numeral
    have first := fun defVal =>
      number_denoted (Posix.backend services.calls) .lp64 type posix name.bytes defVal z (text ▸ denotes)
    have second := fun defVal => number_denoted (Win.backend system) .llp64 type win name.bytes defVal z (same ▸ denotes)
    simp only [first, second]
    rw [alike_iff, portable_iff]
    constructor
    · intro portable other also
      rw [denotes_unique _ other z also denotes]
      exact portable
    · exact fun all => all z denotes
  · have absent : ∀ z, ¬ Denotes ((Posix.backend services.calls).get posix name.bytes []) z :=
      fun z denotes => numeral ⟨z, denotes⟩
    have first := fun defVal =>
      number_absent (Posix.backend services.calls) .lp64 type posix name.bytes defVal (text ▸ absent)
    have second := fun defVal => number_absent (Win.backend system) .llp64 type win name.bytes defVal (same ▸ absent)
    simp only [first, second]
    exact ⟨fun _ z denotes => absurd denotes (absent z), fun _ _ _ _ => trivial⟩

theorem numbers_portable (counts : CFStringRef → Nat) (vacant : Vacant services.calls counts) (used : AsciiName → Prop)
    (apart : Apart system used) (calls : List (EnvCall AsciiName AsciiText)) (about : About used calls) :
    ∃ posix win,
      GuardedEnv.performAll (Posix.backend services.calls) Posix.spelling
        (calls.map (EnvCall.renamed AsciiName.unicode AsciiText.unicode)) ⟨⟨[], counts⟩, fun _ => none⟩ = some posix ∧
      GuardedEnv.performAll (Win.backend system) (Win.spelling system)
        (calls.map (EnvCall.renamed (AsciiName.page system) (AsciiText.page system))) ⟨[], fun _ => none⟩ = some win ∧
      ∀ name, used name → ∀ type : NumType,
        (∀ (defVal : Int) (holds : type.Holds .lp64 defVal) (also : type.Holds .llp64 defVal),
          ((Posix.backend services.calls).getNumber .lp64 type posix.environ name.bytes ⟨defVal, holds⟩).val =
            ((Win.backend system).getNumber .llp64 type win.environ name.bytes ⟨defVal, also⟩).val) ↔
          ∀ z, Denotes ((Posix.backend services.calls).get posix.environ name.bytes []) z → type.Portable z := by
  obtain ⟨posix, win, ran, ranToo, answers⟩ := portable_of_apart system services counts vacant used apart calls about
  exact ⟨posix, win, ran, ranToo, fun name known type =>
    numbers_alike system services posix.environ win.environ name (answers name known) type⟩

end Agreement

theorem numbers_portable_int : ∃ (posix : GuardedEnv Posix.PosixEnv) (win : GuardedEnv Win.WinEnviron),
    ∀ (defVal : Int) (holds : NumType.int.Holds .lp64 defVal) (also : NumType.int.Holds .llp64 defVal),
      ((Posix.backend strictServices.calls).getNumber .lp64 .int posix.environ asciiUpper.bytes ⟨defVal, holds⟩).val =
        ((Win.backend Win.latinSystem).getNumber .llp64 .int win.environ asciiUpper.bytes ⟨defVal, also⟩).val := by
  have about : About (fun name => name = asciiUpper) [EnvCall.putInteger asciiUpper ⟨2147483648, by decide⟩] := by
    intro call member name named
    obtain rfl := List.mem_singleton.mp member
    exact (Option.some.inj named).symm
  obtain ⟨posix, win, _, _, alike⟩ := numbers_portable Win.latinSystem strictServices (fun _ => 0) (fun _ => rfl)
    (fun name => name = asciiUpper) (fun _ _ first second _ => first.trans second.symm)
    [.putInteger asciiUpper ⟨2147483648, by decide⟩] about
  exact ⟨posix, win, (alike asciiUpper rfl .int).mpr fun _ _ => trivial⟩

end Rcp.Utils
