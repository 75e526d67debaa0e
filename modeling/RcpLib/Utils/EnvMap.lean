import RcpLib.Utils.SysEnv

set_option autoImplicit false

namespace Rcp.Utils

open Semantics

-- What the environment is for: a finite map from names to texts.
abbrev EnvMap := EnvName → Option EnvText

def Represents (environ : Environ) (map : EnvMap) : Prop :=
  ∃ bindings, Distinct bindings ∧ environ = environOf bindings ∧ ∀ name, find name bindings = map name

def kept (value : EnvText) : Option EnvText := if value.bytes = [] then none else some value

def EnvMap.put (map : EnvMap) (name : EnvName) (value : EnvText) : EnvMap := Function.update map name (kept value)

def EnvMap.read (map : EnvMap) (name : EnvName) : EnvText := (map name).getD EnvText.empty

theorem represents_bindings (bindings : Assoc EnvName EnvText) (distinct : Distinct bindings) :
    Represents (environOf bindings) (fun name => find name bindings) := ⟨bindings, distinct, rfl, fun _ => rfl⟩

theorem represents_put (environ : Environ) (map : EnvMap) (represents : Represents environ map) (name : EnvName)
    (value : EnvText) : Represents (SysEnvProc.put environ name.bytes value.bytes) (map.put name value) := by
  obtain ⟨bindings, distinct, rfl, found⟩ := represents
  rw [SysEnvProc.put, c_string_whole name.bytes name.nulFree, c_string_whole value.bytes value.nulFree]
  split
  · rename_i empty
    refine ⟨remove name bindings, distinct_remove name bindings distinct, unsetenv_entries bindings name, fun other => ?_⟩
    rw [find_remove, found, EnvMap.put, kept, if_pos empty, Function.update_apply]
  · rename_i nonempty
    refine ⟨store name value bindings, distinct_store name value bindings distinct,
      setenv_entries bindings name value, fun other => ?_⟩
    rw [find_store, found, EnvMap.put, kept, if_neg nonempty, Function.update_apply]

theorem represents_clear (environ : Environ) (map : EnvMap) (represents : Represents environ map) (name : EnvName) :
    Represents (SysEnv.clear environ name.bytes) (map.put name EnvText.empty) :=
  represents_put environ map represents name EnvText.empty

theorem represents_getenv (environ : Environ) (map : EnvMap) (represents : Represents environ map) (name : EnvName) :
    getenv environ name.bytes = (map name).map EnvText.bytes := by
  obtain ⟨bindings, distinct, rfl, found⟩ := represents
  rw [getenv_entries, found]

theorem represents_getA (environ : Environ) (map : EnvMap) (represents : Represents environ map) (name : EnvName) :
    SysEnvProc.getA environ name.bytes = (map.read name).bytes := by
  rw [SysEnvProc.getA, c_string_whole name.bytes name.nulFree, represents_getenv environ map represents name,
    EnvMap.read]
  cases map name <;> rfl

theorem represents_get (environ : Environ) (map : EnvMap) (represents : Represents environ map) (name : EnvName)
    (defVal : Bytes) :
    SysEnv.get environ name.bytes defVal = if (map.read name).bytes = [] then defVal else (map.read name).bytes := by
  rw [SysEnv.get, represents_getA environ map represents name]

theorem represents_saved (environ : Environ) (map : EnvMap) (represents : Represents environ map) (name : EnvName) :
    SysEnv.get environ name.bytes [] = (map.read name).bytes := by
  rw [represents_get environ map represents name]
  split
  · rename_i empty
    exact empty.symm
  · rfl

theorem all_entries {Wide : Type} (utf82Wide : Bytes → Wide) (bindings : Assoc EnvName EnvText) :
    SysEnvProc.allW utf82Wide (environOf bindings) =
      bindings.map fun binding => (utf82Wide binding.1.bytes, utf82Wide binding.2.bytes) := by
  induction bindings with
  | nil => rfl
  | cons binding rest ih =>
      have rest' : SysEnvProc.allW utf82Wide (List.map entryOf rest) = _ := ih
      simp only [environOf, List.map_cons, SysEnvProc.allW, SysEnvProc.findEqual, entryOf,
        find_idx_stop equalSign _ _ binding.1.plain, drop_stop, List.take_left, rest']

end Rcp.Utils
