import RcpLib.Utils.EnvMap

set_option autoImplicit false

namespace Rcp.Utils

open Semantics

inductive Script where
  | done
  | put (name : EnvName) (val : EnvText) (rest : Script)
  | clear (name : EnvName) (rest : Script)
  | scope (name : EnvName) (val : EnvText) (body rest : Script)

def Script.run : Script → Environ → Environ
  | .done, environ => environ
  | .put name val rest, environ => rest.run (SysEnv.put environ name.bytes val.bytes)
  | .clear name rest, environ => rest.run (SysEnv.clear environ name.bytes)
  | .scope name val body rest, environ =>
      let (guard, inside) := EnvRAII.construct environ name.bytes val.bytes
      rest.run (guard.destroy (body.run inside))

def Script.Guarded : Script → List EnvName → Prop
  | .done, _ => True
  | .put name _ rest, guards => name ∈ guards ∧ rest.Guarded guards
  | .clear name rest, guards => name ∈ guards ∧ rest.Guarded guards
  | .scope name _ body rest, guards => body.Guarded (name :: guards) ∧ rest.Guarded guards

def Script.scoped : Script → List EnvName
  | .done => []
  | .put _ _ rest => rest.scoped
  | .clear _ rest => rest.scoped
  | .scope name _ body rest => name :: (body.scoped ++ rest.scoped)

def EnvMap.run (map : EnvMap) : Script → EnvMap
  | .done => map
  | .put name val rest => (map.put name val).run rest
  | .clear name rest => (map.put name EnvText.empty).run rest
  | .scope name val body rest => (((map.put name val).run body).put name (map.read name)).run rest

theorem script_represents (script : Script) (environ : Environ) (map : EnvMap) (represents : Represents environ map) :
    Represents (script.run environ) (map.run script) := by
  induction script generalizing environ map with
  | done => exact represents
  | put name val rest ih => exact ih _ _ (represents_put environ map represents name val)
  | clear name rest ih => exact ih _ _ (represents_clear environ map represents name)
  | scope name val body rest ihBody ihRest =>
      have entered := ihBody _ _ (represents_put environ map represents name val)
      have left := represents_put _ _ entered name (map.read name)
      rw [← represents_saved environ map represents name] at left
      exact ihRest _ _ left

-- What is left of a variable that was guarded: the empty text counts as absent.
def restored (value : Option EnvText) : Option EnvText := kept (value.getD EnvText.empty)

theorem restored_restored (value : Option EnvText) : restored (restored value) = restored value := by
  cases value with
  | none => simp [restored, kept, EnvText.empty]
  | some value => by_cases empty : value.bytes = [] <;> simp [restored, kept, empty, EnvText.empty]

-- By induction on the nesting: a script leaves the variables that no enclosing
-- scope guards as they were, up to what its own scopes do to an empty value.
theorem script_restores (script : Script) (guards : List EnvName) (guarded : script.Guarded guards) (map : EnvMap)
    (name : EnvName) (free : name ∉ guards) :
    map.run script name = if name ∈ script.scoped then restored (map name) else map name := by
  induction script generalizing guards map with
  | done => simp [EnvMap.run, Script.scoped]
  | put target val rest ih =>
      have other : name ≠ target := fun same => free (same ▸ guarded.1)
      rw [EnvMap.run, ih guards guarded.2 _ free, EnvMap.put, Function.update_of_ne other, Script.scoped]
  | clear target rest ih =>
      have other : name ≠ target := fun same => free (same ▸ guarded.1)
      rw [EnvMap.run, ih guards guarded.2 _ free, EnvMap.put, Function.update_of_ne other, Script.scoped]
  | scope target val body rest ihBody ihRest =>
      rw [EnvMap.run, ihRest guards guarded.2 _ free]
      by_cases same : name = target
      · subst same
        rw [EnvMap.put, Function.update_self]
        have saved : kept (map.read name) = restored (map name) := rfl
        simp [Script.scoped, saved, restored_restored]
      · rw [EnvMap.put, Function.update_of_ne same,
          ihBody (target :: guards) guarded.1 _ (by simp [same, free]), EnvMap.put, Function.update_of_ne same]
        by_cases inBody : name ∈ body.scoped <;> by_cases inRest : name ∈ rest.scoped <;>
          simp [Script.scoped, same, inBody, inRest, restored_restored]

theorem env_raii_restores (bindings : Assoc EnvName EnvText) (distinct : Distinct bindings) (script : Script)
    (guarded : script.Guarded []) :
    Represents (script.run (environOf bindings)) (fun name =>
        if name ∈ script.scoped ∧ find name bindings = some EnvText.empty then none else find name bindings) ∧
      ∀ name : EnvName, getenv (script.run (environOf bindings)) name.bytes =
        if name ∈ script.scoped ∧ getenv (environOf bindings) name.bytes = some [] then none
        else getenv (environOf bindings) name.bytes := by
  have after := script_represents script _ _ (represents_bindings bindings distinct)
  have same : (EnvMap.run (fun name => find name bindings) script) = fun name =>
      if name ∈ script.scoped ∧ find name bindings = some EnvText.empty then none else find name bindings := by
    funext name
    rw [script_restores script [] guarded _ name (by simp)]
    cases bound : find name bindings with
    | none => simp [restored, kept, EnvText.empty]
    | some value =>
        by_cases inside : name ∈ script.scoped <;> by_cases empty : value.bytes = [] <;>
          simp [inside, restored, kept, text_empty_iff, empty]
  rw [same] at after
  refine ⟨after, fun name => ?_⟩
  rw [represents_getenv _ _ after, getenv_entries]
  cases bound : find name bindings with
  | none => simp
  | some value =>
      by_cases inside : name ∈ script.scoped <;> by_cases empty : value.bytes = [] <;> simp [inside, text_empty_iff, empty]

def sampleName : EnvName := ⟨[65], by decide, by decide, by decide⟩

theorem env_raii_restores_sample :
    getenv ((Script.scope sampleName ⟨[49], by decide⟩ (.scope sampleName EnvText.empty (.clear sampleName .done) .done)
      .done).run (environOf [(sampleName, ⟨[50], by decide⟩)])) sampleName.bytes = some [50] := by
  rw [(env_raii_restores [(sampleName, ⟨[50], by decide⟩)] (by simp [Distinct]) _ (by simp [Script.Guarded])).2 sampleName]
  decide

def RestoresExactly : Prop :=
  ∀ (bindings : Assoc EnvName EnvText) (script : Script), Distinct bindings → script.Guarded [] → ∀ name : EnvName,
    getenv (script.run (environOf bindings)) name.bytes = getenv (environOf bindings) name.bytes

theorem env_raii_loses_empty : ¬ RestoresExactly := by
  intro restores
  have lost := restores [(sampleName, EnvText.empty)] (.scope sampleName ⟨[49], by decide⟩ .done .done)
    (by simp [Distinct]) (by simp [Script.Guarded]) sampleName
  revert lost
  decide

end Rcp.Utils
