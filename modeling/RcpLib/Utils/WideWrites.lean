import RcpLib.Platform.Wide2Utf8
import RcpLib.Utils.EnvCells

set_option autoImplicit false

namespace Rcp.Utils

open Platform.Mac

def SysEnvProc.putW (foundation : CoreFoundation) (environ : Environ) (varName : Bytes) (value : WText) : Environ :=
  SysEnvProc.put environ varName (PlatformBase.Wide2Utf8 foundation value)

def SysEnv.putW (foundation : CoreFoundation) (environ : Environ) (envVarName : Bytes) (val : WText) : Environ :=
  SysEnvProc.putW foundation environ envVarName val

structure WideValue where
  chars : WText
  nonempty : chars ≠ []
  nulFree : 0 ∉ chars

-- The variable holds the value, or is as it was before.
def WritesOrKeeps (environ : Environ) (name : EnvName) (value : WideValue) (after : Environ) : Prop :=
  (ValidText value.chars ∧ getenv after name.bytes = some (utf8 value.chars)) ∨
    getenv after name.bytes = getenv environ name.bytes

theorem put_wide_valid (foundation : CoreFoundation) (environ : Environ) (name other : EnvName) (value : WideValue)
    (valid : ValidText value.chars) :
    getenv (SysEnv.putW foundation environ name.bytes value.chars) other.bytes =
      if other = name then some (utf8 value.chars) else getenv environ other.bytes := by
  have nulFree := utf8_nul_free value.chars valid value.nulFree
  rw [SysEnv.putW, SysEnvProc.putW, PlatformBase.Wide2Utf8, to_utf8_valid foundation value.chars value.nonempty valid,
    getenv_put environ name other _ nulFree, if_neg (utf8_nonempty value.chars value.nonempty)]

-- The empty string of a failed conversion deletes the variable.
theorem put_wide_invalid (foundation : CoreFoundation) (environ : Environ) (name other : EnvName) (value : WideValue)
    (invalid : ¬ ValidText value.chars) :
    getenv (SysEnv.putW foundation environ name.bytes value.chars) other.bytes =
      if other = name then none else getenv environ other.bytes := by
  rw [SysEnv.putW, SysEnvProc.putW, PlatformBase.Wide2Utf8, to_utf8_invalid foundation value.chars invalid,
    getenv_put environ name other [] (by simp), if_pos rfl]

theorem put_wide_writes_or_keeps (foundation : CoreFoundation) (environ : Environ) (name : EnvName) (value : WideValue) :
    WritesOrKeeps environ name value (SysEnv.putW foundation environ name.bytes value.chars) ↔
      ValidText value.chars ∨ getenv environ name.bytes = none := by
  by_cases valid : ValidText value.chars
  · have written := put_wide_valid foundation environ name name value valid
    rw [if_pos rfl] at written
    exact ⟨fun _ => .inl valid, fun _ => .inl ⟨valid, written⟩⟩
  · have deleted := put_wide_invalid foundation environ name name value valid
    rw [if_pos rfl] at deleted
    constructor
    · intro holds
      rcases holds with written | kept
      · exact absurd written.1 valid
      · exact .inr (kept.symm.trans deleted)
    · intro absent
      exact .inr (deleted.trans (absent.resolve_left valid).symm)

def strictFoundation : CoreFoundation where
  calls := Scoped.strictServices.calls
  rejects wide invalid string created := by
    have refused : Scoped.strictCreate .wide (Scoped.encode .wide wide) = none := Scoped.strict_refuses wide invalid
    exact absurd (created.symm.trans refused) (by simp)
  accepts wide nonempty valid :=
    ⟨wide, Scoped.strict_creates .wide wide valid, Scoped.strictServices.counted wide nonempty,
      Scoped.strictServices.measures .narrow wide valid, fun size => Scoped.strictServices.writes .narrow wide size valid⟩

def wideSample : WideValue := ⟨[0x110000], by decide, by decide⟩

-- The variable N with the value x is lost when 0x110000 is put into it.
theorem put_wide_deletes :
    ¬ WritesOrKeeps [[78, equalSign, 120]] ⟨[78], by decide, by decide, by decide⟩ wideSample
      (SysEnv.putW strictFoundation [[78, equalSign, 120]] [78] wideSample.chars) := by
  have invalid : ¬ ValidText wideSample.chars := by decide
  have deleted := put_wide_invalid strictFoundation [[78, equalSign, 120]] ⟨[78], by decide, by decide, by decide⟩
    ⟨[78], by decide, by decide, by decide⟩ wideSample invalid
  intro holds
  rcases holds with written | kept
  · exact invalid written.1
  · rw [deleted] at kept
    revert kept
    decide

end Rcp.Utils
