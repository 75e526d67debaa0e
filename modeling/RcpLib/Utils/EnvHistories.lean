import RcpLib.Utils.EnvBackend

set_option autoImplicit false

namespace Rcp.Utils

open Semantics

theorem default_empty (text : Bytes) : (if text = [] then [] else text) = text := by
  by_cases empty : text = []
  · rw [if_pos empty, empty]
  · rw [if_neg empty]

variable {Env Char Name Text Key : Type} [OfNat Char 0]

-- Each variable that is set, once, under one of the names of its key.
structure Spelling.Lists (spelling : Spelling Char Name Text Key) (cells : Key → Text) (items : EnvsW Char) : Prop where
  listed : ∀ name, spelling.textChars (cells (spelling.key name)) ≠ [] → ∃ other, spelling.key other = spelling.key name ∧
    (spelling.nameChars other, spelling.textChars (cells (spelling.key name))) ∈ items
  named : ∀ item ∈ items, ∃ name, item = (spelling.nameChars name, spelling.textChars (cells (spelling.key name))) ∧ item.2 ≠ []
  distinct : (items.map Prod.fst).Nodup
  once : ∀ first second, spelling.key first = spelling.key second → spelling.nameChars first ∈ items.map Prod.fst →
    spelling.nameChars second ∈ items.map Prod.fst → spelling.nameChars first = spelling.nameChars second

-- What a platform must do for each function alone, in the states that represent cells.
structure Implements [DecidableEq Key] (backend : SysEnvBackend Env Char) (spelling : Spelling Char Name Text Key)
    (represents : Env → (Key → Text) → Prop) : Prop where
  getA : ∀ environ cells, represents environ cells → ∀ name,
    backend.getA environ (spelling.nameBytes name) = spelling.textBytes (cells (spelling.key name))
  getW : ∀ environ cells, represents environ cells → ∀ name,
    backend.getW environ (spelling.nameBytes name) = some (spelling.textChars (cells (spelling.key name)), environ)
  put : ∀ environ cells, represents environ cells → ∀ name value,
    represents (backend.put environ (spelling.nameBytes name) (spelling.textBytes value))
      (Function.update cells (spelling.key name) value)
  putW : ∀ environ cells, represents environ cells → ∀ name value, ∃ later,
    backend.putW environ (spelling.nameBytes name) (spelling.textChars value) = some later ∧
      represents later (Function.update cells (spelling.key name) value)
  allW : ∀ environ cells, represents environ cells → ∃ items,
    backend.allW environ = some (items, environ) ∧ spelling.Lists cells items

def guardOf (spelling : Spelling Char Name Text Key) (saved : Name × Text) : EnvRAII :=
  ⟨spelling.nameBytes saved.1, spelling.textBytes saved.2⟩

structure Simulates (spelling : Spelling Char Name Text Key) (represents : Env → (Key → Text) → Prop)
    (process : GuardedEnv Env) (model : Cells Name Text Key) : Prop where
  environ : represents process.environ model.cells
  guards : ∀ id, process.guards id = (model.guards id).map (guardOf spelling)

theorem guards_updated (spelling : Spelling Char Name Text Key) (process : Nat → Option EnvRAII)
    (model : Nat → Option (Name × Text)) (guards : ∀ id, process id = (model id).map (guardOf spelling)) (id : Nat)
    (saved : Option (Name × Text)) (other : Nat) :
    Function.update process id (saved.map (guardOf spelling)) other =
      (Function.update model id saved other).map (guardOf spelling) := by
  by_cases same : other = id
  · subst same
    rw [Function.update_self, Function.update_self]
  · rw [Function.update_of_ne same, Function.update_of_ne same]
    exact guards other

section Calls

variable [DecidableEq Key] (backend : SysEnvBackend Env Char) (spelling : Spelling Char Name Text Key)
  (represents : Env → (Key → Text) → Prop) (implements : Implements backend spelling represents)

include implements

theorem get_cells (environ : Env) (cells : Key → Text) (now : represents environ cells) (name : Name) (defVal : Bytes) :
    backend.get environ (spelling.nameBytes name) defVal =
      if spelling.textBytes (cells (spelling.key name)) = [] then defVal else spelling.textBytes (cells (spelling.key name)) := by
  rw [SysEnvBackend.get, implements.getA environ cells now name]

variable [DecidableEq Char]

theorem simulates_perform (process : GuardedEnv Env) (model : Cells Name Text Key)
    (simulates : Simulates spelling represents process model) (call : EnvCall Name Text) :
    ∃ later, process.perform backend spelling call = some later ∧
      Simulates spelling represents later (model.apply spelling call) := by
  obtain ⟨now, guards⟩ := simulates
  cases call with
  | put name value => exact ⟨_, rfl, implements.put _ _ now name value, guards⟩
  | putWide name value =>
      obtain ⟨later, written, after⟩ := implements.putW _ _ now name value
      exact ⟨⟨later, process.guards⟩, by simp [GuardedEnv.perform, written], after, guards⟩
  | putStr name val =>
      cases val with
      | none => exact ⟨_, rfl, now, guards⟩
      | some value =>
          have whole : cString (spelling.textBytes value) = spelling.textBytes value :=
            c_string_whole _ (spelling.bytesFree value)
          refine ⟨_, rfl, ?_, guards⟩
          simp only [Option.map_some, SysEnvBackend.putStr, whole]
          exact implements.put _ _ now name value
  | putStrWide name val =>
      cases val with
      | none => exact ⟨_, rfl, now, guards⟩
      | some value =>
          obtain ⟨later, written, after⟩ := implements.putW _ _ now name value
          have whole : cString (spelling.textChars value) = spelling.textChars value :=
            c_string_whole _ (spelling.charsFree value)
          exact ⟨⟨later, process.guards⟩, by simp [GuardedEnv.perform, SysEnvBackend.putStrWide, whole, written], after, guards⟩
  | putInteger name number =>
      refine ⟨_, rfl, ?_, guards⟩
      rw [SysEnvBackend.putInteger, ← spelling.integerBytes]
      exact implements.put _ _ now name (spelling.integer number)
  | clear name =>
      refine ⟨_, rfl, ?_, guards⟩
      rw [SysEnvBackend.clear, ← spelling.emptyBytes]
      exact implements.put _ _ now name spelling.empty
  | construct id name value =>
      cases live : model.guards id with
      | some saved =>
          have taken := guards id
          simp only [live, Option.map_some] at taken
          simp only [GuardedEnv.perform, Cells.apply, taken, live]
          exact ⟨process, rfl, now, guards⟩
      | none =>
          have vacant := guards id
          simp only [live, Option.map_none] at vacant
          have saved : backend.get process.environ (spelling.nameBytes name) [] =
              spelling.textBytes (model.cells (spelling.key name)) := by
            rw [get_cells backend spelling represents implements _ _ now, default_empty]
          simp only [GuardedEnv.perform, Cells.apply, vacant, live, SysEnvBackend.construct, saved]
          exact ⟨_, rfl, implements.put _ _ now name value, guards_updated spelling _ _ guards id (some (name, _))⟩
  | destroy id =>
      cases live : model.guards id with
      | none =>
          have vacant := guards id
          simp only [live, Option.map_none] at vacant
          simp only [GuardedEnv.perform, Cells.apply, vacant, live]
          exact ⟨process, rfl, now, guards⟩
      | some saved =>
          have present := guards id
          simp only [live, Option.map_some] at present
          simp only [GuardedEnv.perform, Cells.apply, present, live, SysEnvBackend.destroy]
          exact ⟨_, rfl, implements.put _ _ now saved.1 saved.2, guards_updated spelling _ _ guards id none⟩

theorem simulates_history (calls : List (EnvCall Name Text)) (process : GuardedEnv Env) (model : Cells Name Text Key)
    (simulates : Simulates spelling represents process model) :
    ∃ later, process.performAll backend spelling calls = some later ∧
      Simulates spelling represents later (calls.foldl (Cells.apply spelling) model) := by
  induction calls generalizing process model with
  | nil => exact ⟨process, rfl, simulates⟩
  | cons call rest ih =>
      obtain ⟨between, performed, still⟩ := simulates_perform backend spelling represents implements process model simulates call
      obtain ⟨later, others, after⟩ := ih between _ still
      exact ⟨later, by rw [GuardedEnv.performAll, performed, Option.bind_some, others], after⟩

end Calls

-- What a program can see of the environment, in terms of the cells.
structure Observed [LinearOrder Char] [OfNat Char 61] [OfNat Char 10] (backend : SysEnvBackend Env Char)
    (spelling : Spelling Char Name Text Key) (environ : Env) (cells : Key → Text) : Prop where
  get : ∀ name defVal, backend.get environ (spelling.nameBytes name) defVal =
    if spelling.textBytes (cells (spelling.key name)) = [] then defVal else spelling.textBytes (cells (spelling.key name))
  getWide : ∀ name defVal, backend.getWide environ (spelling.nameBytes name) defVal =
    some (if spelling.textBytes (cells (spelling.key name)) = [] then defVal else spelling.textChars (cells (spelling.key name)), environ)
  bound : ∀ name, backend.envExists environ (spelling.nameBytes name) = true ↔ spelling.textBytes (cells (spelling.key name)) ≠ []
  dump : ∀ stdSort, ∃ lines, spelling.Lists cells lines ∧ lines.Pairwise (fun first second => first.1 < second.1) ∧
    backend.dump stdSort environ = some (lines.flatMap fun it => it.1 ++ [61] ++ it.2 ++ [10], environ)

theorem lists_perm (spelling : Spelling Char Name Text Key) (cells : Key → Text) (items lines : EnvsW Char)
    (lists : spelling.Lists cells items) (perm : lines.Perm items) : spelling.Lists cells lines := by
  have names : (lines.map Prod.fst).Perm (items.map Prod.fst) := perm.map Prod.fst
  refine ⟨fun name present => ?_, fun item member => lists.named item (perm.mem_iff.mp member),
    names.nodup_iff.mpr lists.distinct, fun first second same left right => ?_⟩
  · obtain ⟨other, same, member⟩ := lists.listed name present
    exact ⟨other, same, perm.mem_iff.mpr member⟩
  · exact lists.once first second same (names.mem_iff.mp left) (names.mem_iff.mp right)

theorem observed_of_represents [LinearOrder Char] [OfNat Char 61] [OfNat Char 10] [DecidableEq Key]
    (backend : SysEnvBackend Env Char) (spelling : Spelling Char Name Text Key) (represents : Env → (Key → Text) → Prop)
    (implements : Implements backend spelling represents) (environ : Env) (cells : Key → Text) (now : represents environ cells) :
    Observed backend spelling environ cells := by
  have get := get_cells backend spelling represents implements environ cells now
  refine ⟨get, fun name defVal => ?_, fun name => ?_, fun stdSort => ?_⟩
  · rw [SysEnvBackend.getWide, implements.getW environ cells now]
    by_cases empty : spelling.textBytes (cells (spelling.key name)) = []
    · have blank := (spelling.blank _).mp empty
      simp [empty, blank]
    · have present : spelling.textChars (cells (spelling.key name)) ≠ [] := fun blank => empty ((spelling.blank _).mpr blank)
      simp [empty, present]
  · rw [SysEnvBackend.envExists, get]
    by_cases empty : spelling.textBytes (cells (spelling.key name)) = [] <;> simp [empty]
  · obtain ⟨items, all, lists⟩ := implements.allW environ cells now
    have perm : (stdSort.sort nameLess items).Perm items :=
      stdSort.perm nameLess (strict_weak_of_key Prod.fst nameLess name_less_iff) items
    refine ⟨stdSort.sort nameLess items, lists_perm spelling cells items _ lists perm,
      sort_strict Prod.fst nameLess name_less_iff stdSort items lists.distinct, ?_⟩
    rw [SysEnvBackend.dump, all]
    simp only [Option.bind_eq_bind, Option.bind_some, dump_lines, Option.pure_def]

theorem history_observed [LinearOrder Char] [OfNat Char 61] [OfNat Char 10] [DecidableEq Key]
    (backend : SysEnvBackend Env Char) (spelling : Spelling Char Name Text Key) (represents : Env → (Key → Text) → Prop)
    (implements : Implements backend spelling represents) (environ : Env) (cells : Key → Text) (now : represents environ cells)
    (calls : List (EnvCall Name Text)) :
    ∃ later, GuardedEnv.performAll backend spelling calls ⟨environ, fun _ => none⟩ = some later ∧
      represents later.environ (calls.foldl (Cells.apply spelling) ⟨cells, fun _ => none⟩).cells ∧
      Observed backend spelling later.environ (calls.foldl (Cells.apply spelling) ⟨cells, fun _ => none⟩).cells := by
  obtain ⟨later, performed, simulates⟩ := simulates_history backend spelling represents implements calls
    ⟨environ, fun _ => none⟩ ⟨cells, fun _ => none⟩ ⟨now, fun _ => rfl⟩
  exact ⟨later, performed, simulates.environ,
    observed_of_represents backend spelling represents implements later.environ _ simulates.environ⟩

end Rcp.Utils
