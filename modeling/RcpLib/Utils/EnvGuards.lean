import RcpLib.Utils.EnvCells
import RcpLib.Utils.EnvRefinement

set_option autoImplicit false

namespace Rcp.Utils

def EnvAction.writes (name : EnvName) : EnvAction → Option EnvText
  | .put target value => if target = name then some value else none
  | .putInteger target val => if target = name then some (integerText val).toEnvText else none
  | .clear target => if target = name then some EnvText.empty else none
  | .construct _ _ _ => none
  | .destroy _ => none

def lastWrite (name : EnvName) : List EnvAction → Option EnvText
  | [] => none
  | action :: later => (lastWrite name later).or (action.writes name)

-- The guards that are alive, and the names that have had their guard. An action may
-- write a guarded name only while its guard is alive, no name is guarded twice, and
-- in the end no guard is alive.
def Disciplined (guarded : List EnvName) : List EnvAction → (Nat → Option EnvName) → List EnvName → Prop
  | [], alive, _ => ∀ id, alive id = none
  | .construct id name _ :: later, alive, used => alive id = none ∧ name ∈ guarded ∧ name ∉ used ∧
      Disciplined guarded later (Function.update alive id (some name)) (name :: used)
  | .destroy id :: later, alive, used => alive id ≠ none ∧
      Disciplined guarded later (Function.update alive id none) used
  | .put name _ :: later, alive, used => (name ∈ guarded → ∃ id, alive id = some name) ∧ Disciplined guarded later alive used
  | .putInteger name _ :: later, alive, used =>
      (name ∈ guarded → ∃ id, alive id = some name) ∧ Disciplined guarded later alive used
  | .clear name :: later, alive, used => (name ∈ guarded → ∃ id, alive id = some name) ∧ Disciplined guarded later alive used

def savedGuard (original : EnvName → Bytes) (alive : Option EnvName) : Option EnvRAII :=
  alive.map fun name => ⟨name.bytes, original name⟩

-- While a guard is alive it has saved the original answer, and without a live guard
-- the variable has it.
structure Guarding (guarded : List EnvName) (original : EnvName → Bytes) (process : Process)
    (alive : Nat → Option EnvName) (used : List EnvName) : Prop where
  cStrings : CStrings process.environ
  saved : ∀ id, process.guards id = savedGuard original (alive id)
  listed : ∀ id name, alive id = some name → name ∈ guarded ∧ name ∈ used
  apart : ∀ id other name, alive id = some name → alive other = some name → id = other
  quiet : ∀ name ∈ guarded, (∀ id, alive id ≠ some name) → SysEnvProc.getA process.environ name.bytes = original name
  nulFree : ∀ name, 0 ∉ original name

theorem saved_update (original : EnvName → Bytes) (guards : Nat → Option EnvRAII) (alive : Nat → Option EnvName)
    (saved : ∀ id, guards id = savedGuard original (alive id)) (id : Nat) (name : Option EnvName) (other : Nat) :
    Function.update guards id (savedGuard original name) other = savedGuard original (Function.update alive id name other) := by
  by_cases same : other = id
  · rw [same, Function.update_self, Function.update_self]
  · rw [Function.update_of_ne same, Function.update_of_ne same]
    exact saved other

section Steps

variable {guarded : List EnvName} {original : EnvName → Bytes} {process : Process} {alive : Nat → Option EnvName}
  {used : List EnvName} (guarding : Guarding guarded original process alive used)

include guarding

theorem guarding_put (name : EnvName) (value : Bytes) (nulFree : 0 ∉ value)
    (allowed : name ∈ guarded → ∃ id, alive id = some name) :
    Guarding guarded original { process with environ := SysEnvProc.put process.environ name.bytes value } alive used := by
  refine ⟨put_c_strings process.environ guarding.cStrings name value nulFree, guarding.saved, guarding.listed,
    guarding.apart, ?_, guarding.nulFree⟩
  intro other inside quiet
  have different : other ≠ name := by
    intro same
    subst same
    obtain ⟨id, live⟩ := allowed inside
    exact quiet id live
  rw [getA_put process.environ name other value nulFree, if_neg different]
  exact guarding.quiet other inside quiet

theorem guarding_construct (id : Nat) (name : EnvName) (value : EnvText) (vacant : alive id = none)
    (inside : name ∈ guarded) (fresh : name ∉ used) :
    Guarding guarded original (process.apply (.construct id name value)) (Function.update alive id (some name))
      (name :: used) := by
  have absent : process.guards id = none := by rw [guarding.saved id, vacant]; rfl
  have unguarded : ∀ other, alive other ≠ some name := fun other live => fresh (guarding.listed other name live).2
  have kept : SysEnv.get process.environ name.bytes [] = original name := by
    rw [← guarding.quiet name inside unguarded, SysEnv.get]
    by_cases empty : SysEnvProc.getA process.environ name.bytes = [] <;> simp [empty]
  simp only [Process.apply, absent, EnvRAII.construct, SysEnv.put, kept]
  refine ⟨put_c_strings _ guarding.cStrings name value.bytes value.nulFree, ?_, ?_, ?_, ?_, guarding.nulFree⟩
  · exact saved_update original process.guards alive guarding.saved id (some name)
  · intro other target live
    by_cases same : other = id
    · subst same
      rw [Function.update_self] at live
      cases live
      exact ⟨inside, List.mem_cons_self⟩
    · rw [Function.update_of_ne same] at live
      exact ⟨(guarding.listed other target live).1, List.mem_cons_of_mem _ (guarding.listed other target live).2⟩
  · intro first second target left right
    by_cases here : first = id <;> by_cases there : second = id
    · exact here.trans there.symm
    · rw [here, Function.update_self] at left
      rw [Function.update_of_ne there] at right
      cases left
      exact absurd right (unguarded second)
    · rw [there, Function.update_self] at right
      rw [Function.update_of_ne here] at left
      cases right
      exact absurd left (unguarded first)
    · rw [Function.update_of_ne here] at left
      rw [Function.update_of_ne there] at right
      exact guarding.apart first second target left right
  · intro other member quiet
    have different : other ≠ name := by
      intro same
      exact quiet id (by rw [Function.update_self, same])
    rw [getA_put process.environ name other value.bytes value.nulFree, if_neg different]
    refine guarding.quiet other member fun earlier live => quiet earlier ?_
    have elsewhere : earlier ≠ id := by
      intro same
      rw [same, vacant] at live
      cases live
    rw [Function.update_of_ne elsewhere]
    exact live

theorem guarding_destroy (id : Nat) (name : EnvName) (live : alive id = some name) :
    Guarding guarded original (process.apply (.destroy id)) (Function.update alive id none) used := by
  have present : process.guards id = some ⟨name.bytes, original name⟩ := by rw [guarding.saved id, live]; rfl
  simp only [Process.apply, present, EnvRAII.destroy, SysEnv.put]
  have remaining : ∀ other target, Function.update alive id none other = some target →
      other ≠ id ∧ alive other = some target := by
    intro other target still
    by_cases same : other = id
    · rw [same, Function.update_self] at still
      cases still
    · rw [Function.update_of_ne same] at still
      exact ⟨same, still⟩
  refine ⟨put_c_strings _ guarding.cStrings name _ (guarding.nulFree name), ?_, ?_, ?_, ?_, guarding.nulFree⟩
  · exact saved_update original process.guards alive guarding.saved id none
  · exact fun other target still => guarding.listed other target (remaining other target still).2
  · exact fun first second target left right =>
      guarding.apart first second target (remaining first target left).2 (remaining second target right).2
  · intro other member quiet
    rw [getA_put process.environ name other _ (guarding.nulFree name)]
    split
    · rename_i same
      rw [same]
    · rename_i different
      refine guarding.quiet other member fun earlier still => ?_
      have elsewhere : earlier ≠ id := by
        intro same
        rw [same, live] at still
        exact different (Option.some.inj still).symm
      exact quiet earlier (by rw [Function.update_of_ne elsewhere]; exact still)

end Steps

theorem writes_put (environ : Environ) (target name : EnvName) (value : EnvText) :
    SysEnvProc.getA (SysEnvProc.put environ target.bytes value.bytes) name.bytes =
      ((if target = name then some value else none).map EnvText.bytes).getD (SysEnvProc.getA environ name.bytes) := by
  rw [getA_put environ target name value.bytes value.nulFree]
  by_cases same : name = target
  · simp [same]
  · simp [same, Ne.symm same]

theorem guarding_step (guarded : List EnvName) (original : EnvName → Bytes) (action : EnvAction) (later : List EnvAction)
    (process : Process) (alive : Nat → Option EnvName) (used : List EnvName)
    (guarding : Guarding guarded original process alive used)
    (disciplined : Disciplined guarded (action :: later) alive used) :
    (∃ alive' used', Guarding guarded original (process.apply action) alive' used' ∧
      Disciplined guarded later alive' used') ∧
    ∀ name ∉ guarded, SysEnvProc.getA (process.apply action).environ name.bytes =
      ((action.writes name).map EnvText.bytes).getD (SysEnvProc.getA process.environ name.bytes) := by
  cases action with
  | put target value =>
      refine ⟨⟨alive, used, ?_, disciplined.2⟩, fun name _ => writes_put process.environ target name value⟩
      exact guarding_put guarding target value.bytes value.nulFree disciplined.1
  | putInteger target val =>
      refine ⟨⟨alive, used, ?_, disciplined.2⟩, fun name _ => writes_put process.environ target name (integerText val).toEnvText⟩
      exact guarding_put guarding target _ (to_string_nul_free val) disciplined.1
  | clear target =>
      refine ⟨⟨alive, used, ?_, disciplined.2⟩, fun name _ => writes_put process.environ target name EnvText.empty⟩
      exact guarding_put guarding target [] (by simp) disciplined.1
  | construct id target value =>
      obtain ⟨vacant, member, fresh, rest⟩ := disciplined
      refine ⟨⟨_, _, guarding_construct guarding id target value vacant member fresh, rest⟩, fun name outside => ?_⟩
      have absent : process.guards id = none := by
        rw [guarding.saved id, vacant]
        rfl
      have different : name ≠ target := fun same => outside (same ▸ member)
      simp only [Process.apply, absent, EnvRAII.construct, SysEnv.put]
      rw [getA_put process.environ target name value.bytes value.nulFree, if_neg different]
      rfl
  | destroy id =>
      obtain ⟨present, rest⟩ := disciplined
      obtain ⟨target, live⟩ := Option.ne_none_iff_exists'.mp present
      refine ⟨⟨_, _, guarding_destroy guarding id target live, rest⟩, fun name outside => ?_⟩
      have guard : process.guards id = some ⟨target.bytes, original target⟩ := by
        rw [guarding.saved id, live]
        rfl
      have different : name ≠ target := fun same => outside (same ▸ (guarding.listed id target live).1)
      simp only [Process.apply, guard, EnvRAII.destroy, SysEnv.put]
      rw [getA_put process.environ target name _ (guarding.nulFree target), if_neg different]
      rfl

theorem guarding_run (guarded : List EnvName) (original : EnvName → Bytes) (actions : List EnvAction) (process : Process)
    (alive : Nat → Option EnvName) (used : List EnvName) (guarding : Guarding guarded original process alive used)
    (disciplined : Disciplined guarded actions alive used) (name : EnvName) :
    SysEnvProc.getA (actions.foldl Process.apply process).environ name.bytes =
      if name ∈ guarded then original name
      else ((lastWrite name actions).map EnvText.bytes).getD (SysEnvProc.getA process.environ name.bytes) := by
  induction actions generalizing process alive used with
  | nil =>
      split
      · rename_i inside
        refine guarding.quiet name inside fun id live => ?_
        rw [disciplined id] at live
        cases live
      · rfl
  | cons action later ih =>
      obtain ⟨⟨alive', used', still, rest⟩, outside⟩ :=
        guarding_step guarded original action later process alive used guarding disciplined
      rw [List.foldl_cons, ih (process.apply action) alive' used' still rest]
      split
      · rfl
      · rename_i free
        rw [outside name free, lastWrite]
        cases lastWrite name later <;> rfl

def answered (text defVal : Bytes) : Bytes := if text = [] then defVal else text

theorem get_answered (environ : Environ) (name : EnvName) (defVal : Bytes) :
    SysEnv.get environ name.bytes defVal = answered (SysEnvProc.getA environ name.bytes) defVal := rfl

theorem guards_independent (environ : { environ : Environ // CStrings environ }) (guarded : List EnvName)
    (actions : List EnvAction) (disciplined : Disciplined guarded actions (fun _ => none) []) (name : EnvName) :
    let final := (actions.foldl Process.apply ⟨environ, fun _ => none⟩).environ
    (name ∈ guarded → (∀ defVal, SysEnv.get final name.bytes defVal = SysEnv.get environ name.bytes defVal) ∧
      SysEnv.envExists final name.bytes = SysEnv.envExists environ name.bytes) ∧
    (name ∉ guarded → ∀ written, lastWrite name actions = some written →
      (∀ defVal, SysEnv.get final name.bytes defVal = answered written.bytes defVal) ∧
        (SysEnv.envExists final name.bytes = true ↔ written.bytes ≠ [])) ∧
    (name ∉ guarded → lastWrite name actions = none →
      (∀ defVal, SysEnv.get final name.bytes defVal = SysEnv.get environ name.bytes defVal) ∧
        SysEnv.envExists final name.bytes = SysEnv.envExists environ name.bytes) := by
  intro final
  have start : Guarding guarded (fun name => SysEnvProc.getA environ name.bytes) ⟨environ, fun _ => none⟩
      (fun _ => none) [] := by
    refine ⟨environ.property, fun _ => rfl, ?_, ?_, fun _ _ _ => rfl, getA_nul_free environ environ.property⟩
    · intro id name live
      cases live
    · intro id other name live
      cases live
  have run := guarding_run guarded _ actions _ _ _ start disciplined name
  have same : SysEnvProc.getA final name.bytes = SysEnvProc.getA environ name.bytes →
      (∀ defVal, SysEnv.get final name.bytes defVal = SysEnv.get environ name.bytes defVal) ∧
        SysEnv.envExists final name.bytes = SysEnv.envExists environ name.bytes := by
    intro unchanged
    have answers : ∀ defVal, SysEnv.get final name.bytes defVal = SysEnv.get environ name.bytes defVal := by
      intro defVal
      rw [get_answered, get_answered, unchanged]
    exact ⟨answers, by rw [SysEnv.envExists, SysEnv.envExists, answers]⟩
  refine ⟨fun inside => same ?_, fun outside written last => ?_, fun outside last => same ?_⟩
  · rw [run, if_pos inside]
  · rw [if_neg outside, last] at run
    have answers : ∀ defVal, SysEnv.get final name.bytes defVal = answered written.bytes defVal := by
      intro defVal
      rw [get_answered, run]
      rfl
    refine ⟨answers, ?_⟩
    rw [SysEnv.envExists, answers, answered]
    by_cases empty : written.bytes = [] <;> simp [empty]
  · rw [run, if_neg outside, last]
    rfl

def guardName : EnvName := ⟨[71], by decide, by decide, by decide⟩

def otherName : EnvName := ⟨[72], by decide, by decide, by decide⟩

def looseName : EnvName := ⟨[73], by decide, by decide, by decide⟩

def lateClear : List EnvAction := [.construct 0 guardName ⟨[50], by decide⟩, .destroy 0, .clear guardName]

theorem clear_after_guard :
    let environ : Environ := [[71, 61, 120]]
    let final := lateClear.foldl Process.apply ⟨environ, fun _ => none⟩
    (∀ id, final.guards id = none) ∧
    (SysEnv.get environ guardName.bytes [] = [120] ∧ SysEnv.get final.environ guardName.bytes [] = []) ∧
    (SysEnv.envExists environ guardName.bytes = true ∧ SysEnv.envExists final.environ guardName.bytes = false) := by
  refine ⟨fun id => ?_, ⟨by decide, by decide⟩, by decide, by decide⟩
  simp [lateClear, Process.apply, EnvRAII.construct]

def crossedGuards : List EnvAction :=
  [.construct 0 guardName EnvText.empty, .construct 1 otherName ⟨[49], by decide⟩, .put guardName ⟨[50], by decide⟩,
    .destroy 0, .clear otherName, .putInteger looseName (-7), .destroy 1]

theorem crossed_disciplined : Disciplined [guardName, otherName] crossedGuards (fun _ => none) [] := by
  refine ⟨rfl, by decide, by decide, rfl, by decide, by decide, fun _ => ⟨0, rfl⟩, by decide, fun _ => ⟨1, rfl⟩,
    fun member => ?_, by decide, fun id => ?_⟩
  · have outside : looseName ∉ [guardName, otherName] := by decide
    exact absurd member outside
  · by_cases first : id = 0
    · subst first
      rfl
    · by_cases second : id = 1
      · subst second
        rfl
      · simp [first, second]

theorem guards_independent_sample :
    let environ : Environ := [[71, 61, 120], [72, 61]]
    let final := (crossedGuards.foldl Process.apply ⟨environ, fun _ => none⟩).environ
    SysEnv.get final guardName.bytes [] = [120] ∧ SysEnv.envExists final otherName.bytes = false ∧
      SysEnv.get final looseName.bytes [] = [45, 55] := by
  have cStrings : CStrings [[71, 61, 120], [72, 61]] := by simp [CStrings]
  have independent := guards_independent ⟨_, cStrings⟩ [guardName, otherName] crossedGuards crossed_disciplined
  refine ⟨?_, ?_, ?_⟩
  · exact ((independent guardName).1 (by decide)).1 []
  · exact ((independent otherName).1 (by decide)).2
  · exact ((independent looseName).2.1 (by decide) (integerText (-7)).toEnvText rfl).1 []

end Rcp.Utils
