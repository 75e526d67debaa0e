import RcpLib.Semantics.Assoc
import RcpLib.Semantics.CString

set_option autoImplicit false

namespace Rcp.Utils

open Semantics

abbrev Bytes := List UInt8

def equalSign : UInt8 := 61

-- The process environment: `environ` as its strings, without the final null.
abbrev Environ := List Bytes

def valueOf (name entry : Bytes) : Option Bytes :=
  if name ++ [equalSign] <+: entry then some (entry.drop (name.length + 1)) else none

def validName (name : Bytes) : Bool := name ≠ [] ∧ equalSign ∉ name

def getenv (environ : Environ) (name : Bytes) : Option Bytes := environ.findSome? (valueOf name)

def replaceEntry (name value : Bytes) : Environ → Environ
  | [] => [name ++ equalSign :: value]
  | entry :: rest =>
      if (valueOf name entry).isSome then (name ++ equalSign :: value) :: rest else entry :: replaceEntry name value rest

-- setenv with a nonzero overwrite; an invalid name is EINVAL.
def setenv (environ : Environ) (name value : Bytes) : Environ :=
  if validName name then replaceEntry name value environ else environ

def unsetenv (environ : Environ) (name : Bytes) : Environ :=
  if validName name then environ.filter fun entry => (valueOf name entry).isNone else environ

structure EnvText where
  bytes : Bytes
  nulFree : 0 ∉ bytes
deriving DecidableEq

structure EnvName where
  bytes : Bytes
  nulFree : 0 ∉ bytes
  nonempty : bytes ≠ []
  plain : equalSign ∉ bytes
deriving DecidableEq

def EnvText.empty : EnvText := ⟨[], by simp⟩

def entryOf (binding : EnvName × EnvText) : Bytes := binding.1.bytes ++ equalSign :: binding.2.bytes

def environOf (bindings : Assoc EnvName EnvText) : Environ := bindings.map entryOf

theorem name_ext (first second : EnvName) (same : first.bytes = second.bytes) : first = second := by
  cases first
  cases second
  cases same
  rfl

theorem text_empty_iff (value : EnvText) : value = EnvText.empty ↔ value.bytes = [] := by
  obtain ⟨bytes, nulFree⟩ := value
  simp [EnvText.empty]

theorem valid_name (name : EnvName) : validName name.bytes = true := by
  simp [validName, name.nonempty, name.plain]

theorem value_of_entry (name : EnvName) (binding : EnvName × EnvText) :
    valueOf name.bytes (entryOf binding) = if binding.1 = name then some binding.2.bytes else none := by
  by_cases same : binding.1 = name
  · subst same
    have starts : binding.1.bytes ++ [equalSign] <+: entryOf binding := ⟨binding.2.bytes, by simp [entryOf]⟩
    rw [valueOf, if_pos starts, if_pos rfl, entryOf, drop_stop]
  · have apart : ¬ name.bytes ++ [equalSign] <+: entryOf binding := by
      intro prefixed
      obtain ⟨rest, joined⟩ := prefixed
      have names := congrArg (List.takeWhile (· ≠ equalSign)) joined
      rw [entryOf, take_while_stop equalSign _ _ binding.1.plain, List.append_assoc, List.singleton_append,
        take_while_stop equalSign _ _ name.plain] at names
      exact same (name_ext _ _ names.symm)
    simp only [valueOf, if_neg apart, if_neg same]

theorem getenv_entries (bindings : Assoc EnvName EnvText) (name : EnvName) :
    getenv (environOf bindings) name.bytes = (find name bindings).map EnvText.bytes := by
  induction bindings with
  | nil => rfl
  | cons binding rest ih =>
      obtain ⟨first, value⟩ := binding
      have rest' : List.findSome? (valueOf name.bytes) (List.map entryOf rest) = (find name rest).map EnvText.bytes := ih
      by_cases same : first = name
      · simp [getenv, environOf, find, value_of_entry, same]
      · simp [getenv, environOf, find, value_of_entry, same, rest']

theorem setenv_entries (bindings : Assoc EnvName EnvText) (name : EnvName) (value : EnvText) :
    setenv (environOf bindings) name.bytes value.bytes = environOf (store name value bindings) := by
  rw [setenv, if_pos (valid_name name)]
  induction bindings with
  | nil => rfl
  | cons binding rest ih =>
      obtain ⟨first, old⟩ := binding
      have rest' : replaceEntry name.bytes value.bytes (List.map entryOf rest) = List.map entryOf (store name value rest) := ih
      by_cases same : first = name
      · subst same
        simp only [environOf, List.map_cons, replaceEntry, store, value_of_entry, if_true, Option.isSome_some]
        rfl
      · simp [environOf, replaceEntry, store, value_of_entry, same, rest']

theorem unsetenv_entries (bindings : Assoc EnvName EnvText) (name : EnvName) :
    unsetenv (environOf bindings) name.bytes = environOf (remove name bindings) := by
  rw [unsetenv, if_pos (valid_name name), environOf, environOf, remove, List.filter_map]
  refine congrArg (List.map entryOf) (List.filter_congr fun binding _ => ?_)
  by_cases same : binding.1 = name <;> simp [value_of_entry, same]

end Rcp.Utils
