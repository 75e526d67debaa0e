import RcpLib.Utils.EnvMap
import RcpLib.Utils.IntegerText

set_option autoImplicit false

namespace Rcp.Utils

open Semantics

inductive EnvAction where
  | put (name : EnvName) (value : EnvText)
  | putInteger (name : EnvName) (val : Int)
  | clear (name : EnvName)
  | construct (id : Nat) (name : EnvName) (value : EnvText)
  | destroy (id : Nat)

structure Process where
  environ : Environ
  guards : Nat → Option EnvRAII

-- An id names one object at a time, and only a live object is destroyed.
def Process.apply (self : Process) : EnvAction → Process
  | .put name value => { self with environ := SysEnv.put self.environ name.bytes value.bytes }
  | .putInteger name val => { self with environ := SysEnv.putInteger self.environ name.bytes val }
  | .clear name => { self with environ := SysEnv.clear self.environ name.bytes }
  | .construct id name value =>
      match self.guards id with
      | some _ => self
      | none =>
          let (guard, environ) := EnvRAII.construct self.environ name.bytes value.bytes
          ⟨environ, Function.update self.guards id (some guard)⟩
  | .destroy id =>
      match self.guards id with
      | none => self
      | some guard => ⟨guard.destroy self.environ, Function.update self.guards id none⟩

-- The same history of a finite map: a guard saves the binding of its name, and
-- puts this binding back.
structure Model where
  map : EnvMap
  guards : Nat → Option (EnvName × Option EnvText)

def Model.apply (self : Model) : EnvAction → Model
  | .put name value => { self with map := self.map.put name value }
  | .putInteger name val => { self with map := Function.update self.map name (some (integerText val).toEnvText) }
  | .clear name => { self with map := Function.update self.map name none }
  | .construct id name value =>
      match self.guards id with
      | some _ => self
      | none => ⟨self.map.put name value, Function.update self.guards id (some (name, self.map name))⟩
  | .destroy id =>
      match self.guards id with
      | none => self
      | some (name, saved) => ⟨Function.update self.map name saved, Function.update self.guards id none⟩

def Bindable (saved : Option EnvText) : Prop := kept (saved.getD EnvText.empty) = saved

def GuardFits : Option EnvRAII → Option (EnvName × Option EnvText) → Prop
  | none, none => True
  | some guard, some (name, saved) =>
      guard = ⟨name.bytes, (saved.getD EnvText.empty).bytes⟩ ∧ Bindable saved
  | _, _ => False

theorem fits_none (saved : Option (EnvName × Option EnvText)) (fits : GuardFits none saved) : saved = none := by
  cases saved with
  | none => rfl
  | some entry => exact fits.elim

theorem fits_some (guard : EnvRAII) (saved : Option (EnvName × Option EnvText)) (fits : GuardFits (some guard) saved) :
    ∃ name value, saved = some (name, value) ∧ guard = ⟨name.bytes, (value.getD EnvText.empty).bytes⟩ ∧ Bindable value := by
  cases saved with
  | none => exact fits.elim
  | some entry => exact ⟨entry.1, entry.2, rfl, fits⟩

structure Refines (process : Process) (model : Model) : Prop where
  environ : Represents process.environ model.map
  bindable : ∀ name, Bindable (model.map name)
  guards : ∀ id, GuardFits (process.guards id) (model.guards id)

theorem bindable_kept (value : EnvText) : Bindable (kept value) := by
  by_cases empty : value.bytes = [] <;> simp [Bindable, kept, empty, EnvText.empty]

theorem bindable_put (map : EnvMap) (bindable : ∀ name, Bindable (map name)) (name : EnvName) (value : EnvText)
    (other : EnvName) : Bindable (map.put name value other) := by
  rw [EnvMap.put, Function.update_apply]
  split
  · exact bindable_kept value
  · exact bindable other

theorem put_saved (map : EnvMap) (name : EnvName) (saved : Option EnvText) (bindable : Bindable saved) :
    map.put name (saved.getD EnvText.empty) = Function.update map name saved := by
  rw [EnvMap.put, bindable]

theorem clear_map (map : EnvMap) (name : EnvName) : map.put name EnvText.empty = Function.update map name none := by
  simp [EnvMap.put, kept, EnvText.empty]

theorem put_integer (map : EnvMap) (name : EnvName) (val : Int) :
    map.put name (integerText val).toEnvText = Function.update map name (some (integerText val).toEnvText) := by
  rw [EnvMap.put, kept, if_neg (show (integerText val).bytes ≠ [] from to_string_nonempty val)]

theorem guards_update (process : Nat → Option EnvRAII) (model : Nat → Option (EnvName × Option EnvText))
    (guards : ∀ id, GuardFits (process id) (model id)) (id : Nat) (guard : Option EnvRAII)
    (saved : Option (EnvName × Option EnvText)) (fits : GuardFits guard saved) (other : Nat) :
    GuardFits (Function.update process id guard other) (Function.update model id saved other) := by
  by_cases same : other = id
  · subst same
    simpa only [Function.update_self] using fits
  · simpa only [Function.update_of_ne same] using guards other

theorem refines_apply (process : Process) (model : Model) (refines : Refines process model) (action : EnvAction) :
    Refines (process.apply action) (model.apply action) := by
  obtain ⟨represents, bindable, guards⟩ := refines
  cases action with
  | put name value => exact ⟨represents_put _ _ represents name value, bindable_put _ bindable name value, guards⟩
  | putInteger name val =>
      have bound := represents_put _ _ represents name (integerText val).toEnvText
      have still := bindable_put _ bindable name (integerText val).toEnvText
      rw [put_integer] at bound still
      exact ⟨bound, still, guards⟩
  | clear name =>
      have cleared := represents_clear _ _ represents name
      have still := bindable_put _ bindable name EnvText.empty
      rw [clear_map] at cleared still
      exact ⟨cleared, still, guards⟩
  | construct id name value =>
      have fits := guards id
      cases live : process.guards id with
      | some guard =>
          rw [live] at fits
          obtain ⟨first, old, saved, _⟩ := fits_some guard _ fits
          simp only [Process.apply, Model.apply, live, saved]
          exact ⟨represents, bindable, guards⟩
      | none =>
          rw [live] at fits
          have saved := fits_none _ fits
          simp only [Process.apply, Model.apply, live, saved, EnvRAII.construct]
          refine ⟨represents_put _ _ represents name value, bindable_put _ bindable name value, ?_⟩
          refine guards_update _ _ guards id _ _ ⟨?_, bindable name⟩
          rw [represents_saved _ _ represents name, EnvMap.read]
  | destroy id =>
      have fits := guards id
      cases live : process.guards id with
      | none =>
          rw [live] at fits
          have saved := fits_none _ fits
          simp only [Process.apply, Model.apply, live, saved]
          exact ⟨represents, bindable, guards⟩
      | some guard =>
          rw [live] at fits
          obtain ⟨name, value, saved, rfl, restorable⟩ := fits_some guard _ fits
          simp only [Process.apply, Model.apply, live, saved, EnvRAII.destroy]
          have restored := represents_put _ _ represents name (value.getD EnvText.empty)
          have still := bindable_put _ bindable name (value.getD EnvText.empty)
          rw [put_saved _ name value restorable] at restored still
          exact ⟨restored, still, guards_update _ _ guards id none none trivial⟩

theorem refines_history (actions : List EnvAction) (process : Process) (model : Model) (refines : Refines process model) :
    Refines (actions.foldl Process.apply process) (actions.foldl Model.apply model) := by
  induction actions generalizing process model with
  | nil => exact refines
  | cons action rest ih => exact ih _ _ (refines_apply process model refines action)

structure Answers (environ : Environ) (map : EnvMap) : Prop where
  get : ∀ name defVal, SysEnv.get environ (EnvName.bytes name) defVal = ((map name).map EnvText.bytes).getD defVal
  bound : ∀ name, SysEnv.envExists environ (EnvName.bytes name) = true ↔ map name ≠ none
  all : ∀ (Wide : Type) (utf82Wide : Bytes → Wide), ∃ bindings : Assoc EnvName EnvText, Distinct bindings ∧
    (∀ name value, (name, value) ∈ bindings ↔ map name = some value) ∧
      SysEnvProc.allW utf82Wide environ =
        bindings.map fun binding => (utf82Wide binding.1.bytes, utf82Wide binding.2.bytes)

theorem bindable_none : Bindable none := by simp [Bindable, kept, EnvText.empty]

theorem bindable_some (value : EnvText) (nonempty : value.bytes ≠ []) : Bindable (some value) := by
  simp [Bindable, kept, nonempty]

theorem bindable_nonempty (value : EnvText) (bindable : Bindable (some value)) : value.bytes ≠ [] := by
  intro empty
  simp [Bindable, kept, empty] at bindable

theorem refines_answers (process : Process) (model : Model) (refines : Refines process model) :
    Answers process.environ model.map := by
  obtain ⟨represents, bindable, _⟩ := refines
  have get : ∀ name defVal, SysEnv.get process.environ (EnvName.bytes name) defVal =
      ((model.map name).map EnvText.bytes).getD defVal := by
    intro name defVal
    rw [represents_get _ _ represents, EnvMap.read]
    cases bound : model.map name with
    | none => simp [EnvText.empty]
    | some value =>
        have nonempty := bindable_nonempty value (bound ▸ bindable name)
        simp [nonempty]
  refine ⟨get, fun name => ?_, fun Wide utf82Wide => ?_⟩
  · rw [SysEnv.envExists, get]
    cases bound : model.map name with
    | none => simp
    | some value =>
        have nonempty := bindable_nonempty value (bound ▸ bindable name)
        simp [nonempty]
  · obtain ⟨bindings, distinct, same, found⟩ := represents
    refine ⟨bindings, distinct, fun name value => ?_, by rw [same, all_entries]⟩
    rw [← find_iff_mem name value bindings distinct, found]

theorem sys_env_refines (bindings : Assoc EnvName EnvText) (distinct : Distinct bindings)
    (nonempty : ∀ binding ∈ bindings, binding.2.bytes ≠ []) (actions : List EnvAction) :
    Represents (actions.foldl Process.apply ⟨environOf bindings, fun _ => none⟩).environ
        (actions.foldl Model.apply ⟨fun name => find name bindings, fun _ => none⟩).map ∧
      Answers (actions.foldl Process.apply ⟨environOf bindings, fun _ => none⟩).environ
        (actions.foldl Model.apply ⟨fun name => find name bindings, fun _ => none⟩).map := by
  have start : Refines ⟨environOf bindings, fun _ => none⟩ ⟨fun name => find name bindings, fun _ => none⟩ := by
    refine ⟨represents_bindings bindings distinct, fun name => ?_, fun _ => trivial⟩
    cases bound : find name bindings with
    | none => simpa only [bound] using bindable_none
    | some value => simpa only [bound] using bindable_some value (nonempty _ (mem_of_find name value bindings bound))
  have refines := refines_history actions _ _ start
  exact ⟨refines.environ, refines_answers _ _ refines⟩

theorem sys_env_refines_sample :
    let name : EnvName := ⟨[65], by decide, by decide, by decide⟩
    SysEnv.get ([EnvAction.construct 0 name ⟨[49], by decide⟩, .putInteger name (-5), .destroy 0].foldl Process.apply
      ⟨environOf [(name, ⟨[120, 61, 121], by decide⟩)], fun _ => none⟩).environ name.bytes [] = [120, 61, 121] ∧
    Denotes (SysEnv.get ([EnvAction.putInteger name (-5)].foldl Process.apply
      ⟨environOf [(name, ⟨[120, 61, 121], by decide⟩)], fun _ => none⟩).environ name.bytes []) (-5) := by
  intro name
  constructor
  · rw [(sys_env_refines [(name, ⟨[120, 61, 121], by decide⟩)] (by simp [Distinct]) (by simp) _).2.get]
    rfl
  · rw [(sys_env_refines [(name, ⟨[120, 61, 121], by decide⟩)] (by simp [Distinct]) (by simp) _).2.get]
    exact (integerText (-5)).denotes

end Rcp.Utils
