import RcpLib.Utils.SysEnv

set_option autoImplicit false

namespace Rcp.Utils

open Semantics

-- The environment is a list of C strings, of any form and with any repetitions.
def CStrings (environ : Environ) : Prop := ∀ entry ∈ environ, 0 ∉ entry

theorem value_of_joined (name : EnvName) (value : Bytes) :
    valueOf name.bytes (name.bytes ++ equalSign :: value) = some value := by
  have starts : name.bytes ++ [equalSign] <+: name.bytes ++ equalSign :: value := ⟨value, by simp⟩
  rw [valueOf, if_pos starts, drop_stop]

theorem value_of_some (name : EnvName) (entry value : Bytes) (found : valueOf name.bytes entry = some value) :
    entry = name.bytes ++ equalSign :: value := by
  unfold valueOf at found
  split at found
  · rename_i starts
    obtain ⟨rest, joined⟩ := starts
    have same : name.bytes ++ equalSign :: rest = entry := by simpa using joined
    rw [← same, drop_stop] at found
    rw [← same, Option.some.inj found]
  · cases found

theorem value_of_apart (name other : EnvName) (different : other ≠ name) (value : Bytes) :
    valueOf other.bytes (name.bytes ++ equalSign :: value) = none := by
  cases found : valueOf other.bytes (name.bytes ++ equalSign :: value) with
  | none => rfl
  | some also =>
      have same := value_of_some other _ also found
      have names := congrArg (List.takeWhile (· ≠ equalSign)) same
      rw [take_while_stop equalSign _ _ name.plain, take_while_stop equalSign _ _ other.plain] at names
      exact absurd (name_ext _ _ names.symm) different

theorem getenv_cons (name : EnvName) (entry : Bytes) (rest : Environ) :
    getenv (entry :: rest) name.bytes = (valueOf name.bytes entry).or (getenv rest name.bytes) := by
  rw [getenv, List.findSome?_cons]
  cases valueOf name.bytes entry <;> rfl

theorem getenv_setenv (environ : Environ) (name other : EnvName) (value : Bytes) :
    getenv (setenv environ name.bytes value) other.bytes = if other = name then some value else getenv environ other.bytes := by
  rw [setenv, if_pos (valid_name name)]
  induction environ with
  | nil =>
      rw [replaceEntry, getenv_cons]
      by_cases same : other = name
      · subst same
        simp [value_of_joined]
      · simp [value_of_apart name other same, same]
  | cons entry rest ih =>
      cases found : valueOf name.bytes entry with
      | some old =>
          have joined := value_of_some name entry old found
          simp only [replaceEntry, found, Option.isSome_some, if_true, getenv_cons]
          by_cases same : other = name
          · subst same
            simp [value_of_joined]
          · simp [joined, value_of_apart name other same, same]
      | none =>
          simp only [replaceEntry, found, Option.isSome_none, Bool.false_eq_true, if_false, getenv_cons, ih]
          by_cases same : other = name
          · subst same
            simp [found]
          · simp [same]

theorem getenv_unsetenv (environ : Environ) (name other : EnvName) :
    getenv (unsetenv environ name.bytes) other.bytes = if other = name then none else getenv environ other.bytes := by
  rw [unsetenv, if_pos (valid_name name)]
  induction environ with
  | nil => simp [getenv]
  | cons entry rest ih =>
      cases found : valueOf name.bytes entry with
      | some old =>
          have joined := value_of_some name entry old found
          rw [List.filter_cons, if_neg (by simp [found]), ih, getenv_cons]
          by_cases same : other = name
          · simp [same]
          · simp [same, joined, value_of_apart name other same]
      | none =>
          rw [List.filter_cons, if_pos (by simp [found]), getenv_cons, getenv_cons, ih]
          by_cases same : other = name
          · subst same
            simp [found]
          · simp [same]

theorem getenv_put (environ : Environ) (name other : EnvName) (value : Bytes) (nulFree : 0 ∉ value) :
    getenv (SysEnvProc.put environ name.bytes value) other.bytes =
      if other = name then (if value = [] then none else some value) else getenv environ other.bytes := by
  rw [SysEnvProc.put, c_string_whole name.bytes name.nulFree, c_string_whole value nulFree]
  split
  · exact getenv_unsetenv environ name other
  · exact getenv_setenv environ name other value

theorem getA_getenv (environ : Environ) (name : EnvName) :
    SysEnvProc.getA environ name.bytes = (getenv environ name.bytes).getD [] := by
  rw [SysEnvProc.getA, c_string_whole name.bytes name.nulFree]
  cases getenv environ name.bytes <;> rfl

theorem getA_put (environ : Environ) (name other : EnvName) (value : Bytes) (nulFree : 0 ∉ value) :
    SysEnvProc.getA (SysEnvProc.put environ name.bytes value) other.bytes =
      if other = name then value else SysEnvProc.getA environ other.bytes := by
  rw [getA_getenv, getA_getenv, getenv_put environ name other value nulFree]
  by_cases same : other = name
  · by_cases empty : value = [] <;> simp [same, empty]
  · simp [same]

theorem replace_c_strings (name : EnvName) (value : Bytes) (nulFree : 0 ∉ value) (environ : Environ)
    (cStrings : CStrings environ) : CStrings (replaceEntry name.bytes value environ) := by
  have fresh : 0 ∉ name.bytes ++ equalSign :: value := by
    have different : (0 : UInt8) ≠ equalSign := by decide
    simp [name.nulFree, nulFree, different]
  induction environ with
  | nil => simpa [replaceEntry, CStrings] using fresh
  | cons entry rest ih =>
      obtain ⟨first, others⟩ := List.forall_mem_cons.mp cStrings
      unfold replaceEntry
      split
      · exact List.forall_mem_cons.mpr ⟨fresh, others⟩
      · exact List.forall_mem_cons.mpr ⟨first, ih others⟩

theorem put_c_strings (environ : Environ) (cStrings : CStrings environ) (name : EnvName) (value : Bytes)
    (nulFree : 0 ∉ value) : CStrings (SysEnvProc.put environ name.bytes value) := by
  rw [SysEnvProc.put, c_string_whole name.bytes name.nulFree, c_string_whole value nulFree]
  split
  · rw [unsetenv, if_pos (valid_name name)]
    exact fun entry member => cStrings entry (List.mem_filter.mp member).1
  · rw [setenv, if_pos (valid_name name)]
    exact replace_c_strings name value nulFree environ cStrings

theorem getA_nul_free (environ : Environ) (cStrings : CStrings environ) (name : EnvName) :
    0 ∉ SysEnvProc.getA environ name.bytes := by
  rw [getA_getenv]
  cases found : getenv environ name.bytes with
  | none => simp
  | some value =>
      obtain ⟨entry, member, same⟩ := List.exists_of_findSome?_eq_some found
      have joined := value_of_some name entry value same
      have absent := cStrings entry member
      rw [joined] at absent
      simp only [List.mem_append, List.mem_cons, not_or] at absent
      exact absent.2.2

end Rcp.Utils
