import Mathlib.Data.List.Basic
import RcpLib.Utils.SysEnvWin

set_option autoImplicit false

namespace Rcp.Utils.Win

open Semantics

variable {Char : Type} [OfNat Char 0]

abbrev Variables (Char : Type) [OfNat Char 0] := List Char → Option (EnvValue Char)

-- SetEnvironmentVariable by another thread: the name, and the value or null.
abbrev Setting (Char : Type) [OfNat Char 0] := List Char × Option (EnvValue Char)

abbrev Shared (Char : Type) [OfNat Char 0] :=
  Config Unit (ReadOp Char) ReadReply (Variables Char) (fun _ => List Char)

abbrev Label (Char : Type) [OfNat Char 0] := PoolLabel Unit (ReadOp Char) ReadReply (Setting Char)

abbrev Trail (Char : Type) [OfNat Char 0] := List (Shared Char × Label Char)

def replyOf (env : Variables Char) : (op : ReadOp Char) → ReadReply op
  | .getEnvironmentVariable name buffer size => getEnvironmentVariable (env name) buffer size

def readMachine : Machine Unit (ReadOp Char) ReadReply (Variables Char) (Setting Char) where
  handler _ := ⟨fun env op reply => reply = replyOf env op, fun env _ _ => env⟩
  moves env setting later := ∀ name,
    (name = setting.1 → later name = setting.2) ∧ (name ≠ setting.1 → later name = env name)

def readRuns (program : ReadM Char (List Char)) (env : Variables Char) : Lts (Shared Char) (Label Char) :=
  pool readMachine fun config => config = ⟨env, fun _ => program⟩

def Held (name : List Char) (trail : Trail Char) (config : Shared Char) (chars : List Char) : Prop :=
  ∃ moment, (moment = config ∨ ∃ label, (moment, label) ∈ trail) ∧
    ∃ value, moment.world name = some value ∧ value.chars = chars

def Linearizable (name : List Char) (trail : Trail Char) (config : Shared Char) (result : List Char) : Prop :=
  result = [] ∨ Held name trail config result

def reads (name : List Char) : Trail Char → List (Option (EnvValue Char))
  | [] => []
  | (config, .call _ _ _) :: earlier => reads name earlier ++ [config.world name]
  | (_, .event _) :: earlier => reads name earlier

-- Between the two calls the length of the value has not changed, or one of the
-- two found the variable absent or empty.
def LengthsAgree : List (Option (EnvValue Char)) → Prop
  | [some first, some second] =>
      first.chars = [] ∨ second.chars = [] ∨ second.chars.length = first.chars.length
  | _ => True

theorem reads_held (name : List Char) (trail : Trail Char) (config : Shared Char) (value : EnvValue Char)
    (read : some value ∈ reads name trail) : Held name trail config value.chars := by
  induction trail with
  | nil => simp [reads] at read
  | cons entry earlier ih =>
      obtain ⟨before, label⟩ := entry
      have later : some value ∈ reads name earlier → Held name ((before, label) :: earlier) config value.chars := by
        intro inside
        obtain ⟨moment, here | ⟨taken, member⟩, held⟩ := ih inside
        · exact ⟨moment, .inl here, held⟩
        · exact ⟨moment, .inr ⟨taken, List.mem_cons_of_mem _ member⟩, held⟩
      cases label with
      | event setting => exact later read
      | call party op reply =>
          rcases List.mem_append.mp read with inside | last
          · exact later inside
          · refine ⟨before, .inr ⟨_, List.mem_cons_self⟩, value, ?_, rfl⟩
            exact (List.mem_singleton.mp last).symm

def outcome (first : EnvValue Char) (second : Option (EnvValue Char)) : List Char :=
  let reply := getEnvironmentVariable second (List.replicate first.chars.length 0 ++ [0]) (first.chars.length + 1)
  if reply.1 ≠ 0 then reply.2.take first.chars.length else []

theorem get_fits (value : EnvValue Char) (buffer : List Char) (size : Nat) (fits : value.chars.length < size) :
    getEnvironmentVariable (some value) buffer size =
      (value.chars.length, value.chars ++ 0 :: buffer.drop (value.chars.length + 1)) := if_pos fits

theorem get_grown (value : EnvValue Char) (buffer : List Char) (size : Nat) (grown : ¬ value.chars.length < size) :
    getEnvironmentVariable (some value) buffer size = (value.chars.length + 1, buffer) := if_neg grown

theorem outcome_agree (first second : EnvValue Char) (agree : LengthsAgree [some first, some second]) :
    outcome first (some second) = [] ∨ outcome first (some second) = second.chars := by
  by_cases fits : second.chars.length < first.chars.length + 1
  · simp only [outcome, get_fits second _ _ fits]
    rcases agree with empty | empty | same
    · exact .inl (by simp [empty])
    · exact .inl (by simp [empty])
    · by_cases none : second.chars = []
      · exact .inl (by simp [none])
      · exact .inr (by simp [none, ← same])
  · simp only [outcome, get_grown second _ _ fits]
    rcases agree with empty | empty | same
    · exact .inl (by simp [empty])
    · simp [empty] at fits
    · omega

-- A value that has grown leaves the zeros of the buffer, and one that has shrunk
-- is followed by its NUL.
theorem outcome_disagree (first second : EnvValue Char) (disagree : ¬ LengthsAgree [some first, some second]) :
    (0 : Char) ∈ outcome first (some second) := by
  simp only [LengthsAgree, not_or] at disagree
  obtain ⟨nonempty, present, different⟩ := disagree
  by_cases fits : second.chars.length < first.chars.length + 1
  · obtain ⟨extra, room⟩ : ∃ extra, first.chars.length - second.chars.length = extra + 1 :=
      ⟨first.chars.length - second.chars.length - 1, by omega⟩
    simp [outcome, get_fits second _ _ fits, present, List.take_append, room]
  · simp [outcome, get_grown second _ _ fits, nonempty]

inductive Progress (name : List Char) : List (Option (EnvValue Char)) → ReadM Char (List Char) → Prop where
  | start : Progress name [] (readVariable name)
  | absent : Progress name [none] (.ret [])
  | sized (first : EnvValue Char) : Progress name [some first] (secondRead name (first.chars.length + 1))
  | finished (first : EnvValue Char) (second : Option (EnvValue Char)) :
      Progress name [some first, second] (.ret (outcome first second))

theorem progress_first (name : List Char) (value : Option (EnvValue Char)) :
    Progress name [value] (if (getEnvironmentVariable value [] 0).1 < 1 then .ret []
      else secondRead name (getEnvironmentVariable value [] 0).1) := by
  cases value with
  | none => exact .absent
  | some first => exact .sized first

theorem progress_second (name : List Char) (first : EnvValue Char) (value : Option (EnvValue Char))
    (reply : Nat × List Char) (answered : reply =
      getEnvironmentVariable value (List.replicate first.chars.length 0 ++ [0]) (first.chars.length + 1)) :
    Progress name [some first, value] (if reply.1 ≠ 0 then .ret (reply.2.take first.chars.length) else .ret []) := by
  have finished : Progress name [some first, value] (.ret (outcome first value)) := .finished first value
  rw [outcome, ← answered] at finished
  split
  · rename_i found
    rwa [if_pos found] at finished
  · rename_i missing
    rwa [if_neg missing] at finished

theorem progress_call (name : List Char) (earlier : List (Option (EnvValue Char))) (env : Variables Char)
    (op : ReadOp Char) (next : ReadReply op → ReadM Char (List Char)) (reply : ReadReply op)
    (progress : Progress name earlier (.call op next)) (answered : reply = replyOf env op) :
    Progress name (earlier ++ [env name]) (next reply) := by
  generalize same : Program.call op next = program at progress
  cases progress with
  | start =>
      rw [read_variable_run] at same
      cases same
      subst answered
      exact progress_first name (env name)
  | absent => cases same
  | sized first =>
      cases same
      exact progress_second name first (env name) reply answered
  | finished => cases same

theorem read_progress (name : List Char) (env : Variables Char) (trail : Trail Char) (config : Shared Char)
    (run : Run (readRuns (readVariable name) env) trail config) :
    Progress name (reads name trail) (config.program ()) := by
  refine run_invariant (readRuns (readVariable name) env)
    (fun trail config => Progress name (reads name trail) (config.program ())) ?_ ?_ trail config run
  · intro start initial
    obtain rfl := initial
    exact .start
  · intro trail before label after _ progress taken
    cases taken with
    | event setting later moved => exact progress
    | call party op next reply current answered =>
        rw [current] at progress
        rw [resumed_here]
        exact progress_call name _ before.world op next reply progress answered

theorem reads_linearizable (name : List Char) (env : Variables Char) (trail : Trail Char) (config : Shared Char)
    (run : Run (readRuns (readVariable name) env) trail config) (result : List Char)
    (returned : Returned config () result) :
    Linearizable name trail config result ↔ LengthsAgree (reads name trail) := by
  have progress := read_progress name env trail config run
  rw [show config.program () = .ret result from returned] at progress
  generalize read : reads name trail = values at progress
  cases progress with
  | absent => exact ⟨fun _ => trivial, fun _ => .inl rfl⟩
  | finished first second =>
      cases second with
      | none => exact ⟨fun _ => trivial, fun _ => .inl rfl⟩
      | some second =>
          refine ⟨fun linearizable => ?_, fun agree => ?_⟩
          · by_contra disagree
            have zero := outcome_disagree first second disagree
            rcases linearizable with empty | ⟨moment, _, value, _, same⟩
            · simp [empty] at zero
            · exact value.nulFree (same ▸ zero)
          · rcases outcome_agree first second agree with empty | same
            · exact .inl empty
            · rw [same]
              exact .inr (reads_held name trail config second (by simp [read]))

def LinearizableWhenAgree (program : ReadM Char (List Char)) (name : List Char) : Prop :=
  ∀ env trail config, Run (readRuns program env) trail config → ∀ result, Returned config () result →
    (Linearizable name trail config result ↔ LengthsAgree (reads name trail))

theorem environment_reads (ansii2Wide : List UInt8 → List UInt16) (varName : List UInt8) :
    LinearizableWhenAgree (getA varName) (cString varName) ∧
      LinearizableWhenAgree (getW ansii2Wide varName) (cString (ansii2Wide varName)) :=
  ⟨fun env trail config run => reads_linearizable (cString varName) env trail config run,
    fun env trail config run => reads_linearizable (cString (ansii2Wide varName)) env trail config run⟩

def AlwaysLinearizable (program : ReadM Char (List Char)) (name : List Char) : Prop :=
  ∀ env trail config, Run (readRuns program env) trail config → ∀ result, Returned config () result →
    Linearizable name trail config result

theorem setting_moves [DecidableEq Char] (env : Variables Char) (name : List Char) (value : Option (EnvValue Char)) :
    readMachine.moves env (name, value) (Function.update env name value) :=
  fun _ => ⟨fun same => by simp [same], fun other => Function.update_of_ne other _ _⟩

theorem environment_reads_torn :
    ¬ AlwaysLinearizable (getA [80]) [80] ∧ ¬ AlwaysLinearizable (getW (fun _ => [80]) [80]) [80] := by
  have short : (0 : UInt8) ∉ [99] := by decide
  have long : (0 : UInt16) ∉ [98, 99] := by decide
  refine ⟨fun always => ?_, fun always => ?_⟩
  · have start : Run (readRuns (getA [80]) fun _ => some ⟨[97, 98], by decide⟩) [] _ := .start _ rfl
    have sized := run_call _ _ _ _ start () (.getEnvironmentVariable [80] [] 0) _ (3, []) rfl rfl
    have written := Run.step _ _ _ _ sized (.event _ _ _ (setting_moves _ [80] (some ⟨[99], short⟩)))
    have read := run_call _ _ _ _ written () (.getEnvironmentVariable [80] [0, 0, 0] 3) _ (1, [99, 0, 0]) rfl rfl
    have agree := (reads_linearizable [80] _ _ _ read [99, 0] rfl).mp (always _ _ _ read [99, 0] rfl)
    simp [reads, LengthsAgree] at agree
  · have start : Run (readRuns (getW (fun _ => [80]) [80]) fun _ => some ⟨[97], by decide⟩) [] _ := .start _ rfl
    have sized := run_call _ _ _ _ start () (.getEnvironmentVariable [80] [] 0) _ (2, []) rfl rfl
    have written := Run.step _ _ _ _ sized (.event _ _ _ (setting_moves _ [80] (some ⟨[98, 99], long⟩)))
    have read := run_call _ _ _ _ written () (.getEnvironmentVariable [80] [0, 0] 2) _ (3, [0, 0]) rfl rfl
    have agree := (reads_linearizable [80] _ _ _ read [0] rfl).mp (always _ _ _ read [0] rfl)
    simp [reads, LengthsAgree] at agree

end Rcp.Utils.Win
