import RcpLib.Threads.PromiseRun

set_option autoImplicit false

namespace Rcp.Threads.PromiseWin

open Semantics

variable {E T : Type}

def TestsAfterStore (config : Shared E T) : Label E T → Prop
  | .call .getter .loadException _ => config.world.m_exception ≠ none
  | _ => True

-- set_exception never signals the event.
def StoresOnly (p : E) (world : PromiseExImpl E T) (producing : Producing E T) : Prop :=
  world.signalled = false ∧
    (producing = .storingException p ∧ world.m_exception = none ∨
      (producing = .exiting ∨ producing = .exited) ∧ world.m_exception = some p)

theorem stores_only_moves (p : E) (world later : PromiseExImpl E T) (producing moved : Producing E T)
    (getting next : Getting E T) (label : Label E T) (stores : StoresOnly p world producing)
    (moves : Moves false world producing getting label later moved next) : StoresOnly p later moved := by
  obtain ⟨unsignalled, stage⟩ := stores
  cases moves with
  | storeException other =>
      rcases stage with ⟨same, _⟩ | ⟨same | same, _⟩ <;> cases same
      exact ⟨unsignalled, .inr ⟨.inl rfl, rfl⟩⟩
  | storeVal => rcases stage with ⟨same, _⟩ | ⟨same | same, _⟩ <;> cases same
  | setEvent => rcases stage with ⟨same, _⟩ | ⟨same | same, _⟩ <;> cases same
  | exit =>
      rcases stage with ⟨same, _⟩ | ⟨_, stored⟩
      · cases same
      · exact ⟨unsignalled, .inr ⟨.inr rfl, stored⟩⟩
  | kill _ _ allowed => simp at allowed
  | testStored | testEmpty | rethrow | rethrowNull => exact ⟨unsignalled, stage⟩
  | wakeEvent _ signalled => simp [unsignalled] at signalled
  | wakeThread => exact ⟨unsignalled, stage⟩
  | load => exact ⟨unsignalled, stage⟩

def delivered (p : E) : Except (Thrown E) T := .error (.rethrown p)

-- On time, the getter has not tested yet, or has seen the exception. After a test that
-- came too early it waits until the thread has ended.
def Answers (p : E) (onTime : Prop) (world : PromiseExImpl E T) (getting : Getting E T) : Prop :=
  onTime ∧ (getting = .testing ∨ getting = .rethrowing ∧ world.m_exception = some p ∨ getting = .finished (delivered p)) ∨
    ¬ onTime ∧ (getting = .waiting ∨ getting = .finished terminated)

theorem stored_unique (p other : E) (world : PromiseExImpl E T) (producing : Producing E T)
    (stores : StoresOnly p world producing) (stored : world.m_exception = some other) : other = p := by
  rcases stores.2 with ⟨_, empty⟩ | ⟨_, written⟩
  · rw [empty] at stored
    cases stored
  · rw [written] at stored
    exact (Option.some.inj stored).symm

theorem answers_producer (p : E) (onTime test : Prop) (world later : PromiseExImpl E T) (getting : Getting E T)
    (answers : Answers p onTime world getting) (holds : test) (kept : world.m_exception = some p → later.m_exception = some p) :
    Answers p (test ∧ onTime) later getting := by
  have same : (test ∧ onTime) = onTime := by simp [holds]
  rw [same]
  exact answers.imp_left (And.imp_right (Or.imp_right (Or.imp_left (And.imp_right kept))))

theorem answers_moves (p : E) (config : Shared E T) (later : PromiseExImpl E T) (producing moved : Producing E T)
    (getting next : Getting E T) (label : Label E T) (onTime : Prop) (stores : StoresOnly p config.world producing)
    (answers : Answers p onTime config.world getting)
    (moves : Moves false config.world producing getting label later moved next) :
    Answers p (TestsAfterStore config label ∧ onTime) later next := by
  cases moves with
  | storeException other =>
      have same : other = p := by
        rcases stores.2 with ⟨now, _⟩ | ⟨now | now, _⟩ <;> cases now
        rfl
      exact answers_producer p onTime _ config.world _ getting answers trivial fun _ => congrArg some same
  | storeVal | setEvent | exit => exact answers_producer p onTime _ config.world _ getting answers trivial id
  | kill _ _ allowed => simp at allowed
  | testStored _ other stored =>
      rw [stored_unique p other _ _ stores stored] at stored
      have now : onTime := by
        rcases answers with ⟨now, _⟩ | ⟨_, impossible | impossible⟩
        · exact now
        · cases impossible
        · cases impossible
      exact .inl ⟨⟨by simp [TestsAfterStore, stored], now⟩, .inr (.inl ⟨rfl, stored⟩)⟩
  | testEmpty _ empty => exact .inr ⟨fun ⟨stored, _⟩ => stored empty, .inl rfl⟩
  | rethrow _ other stored =>
      rcases answers with ⟨now, impossible | ⟨_, held⟩ | impossible⟩ | ⟨_, impossible | impossible⟩
      · cases impossible
      · refine .inl ⟨⟨by simp [TestsAfterStore, stored], now⟩, .inr (.inr ?_)⟩
        rw [delivered, stored_unique p other _ _ stores stored]
      · cases impossible
      · cases impossible
      · cases impossible
  | rethrowNull _ empty =>
      rcases answers with ⟨_, impossible | ⟨_, held⟩ | impossible⟩ | ⟨_, impossible | impossible⟩
      · cases impossible
      · simp [empty] at held
      · cases impossible
      · cases impossible
      · cases impossible
  | wakeEvent _ signalled => simp [stores.1] at signalled
  | wakeThread =>
      rcases answers with ⟨_, impossible | ⟨impossible, _⟩ | impossible⟩ | ⟨late, _⟩
      · cases impossible
      · cases impossible
      · cases impossible
      · exact .inr ⟨fun ⟨_, now⟩ => late now, .inr rfl⟩
  | load =>
      rcases answers with ⟨_, impossible | ⟨impossible, _⟩ | impossible⟩ | ⟨_, impossible | impossible⟩ <;> cases impossible

section Runs

variable [OfNat T 0]

def exceptionRuns (message : DWORD → String) (p : E) : Lts (Shared E T) (Label E T) :=
  promiseRuns false false message (setException (some p))

theorem exception_runs (message : DWORD → String) (p : E) (trail : List (Shared E T × Label E T)) (config : Shared E T)
    (run : Run (exceptionRuns message p) trail config) :
    ∃ producing getting, Stands config producing getting ∧ StoresOnly p config.world producing ∧
      Answers p (Along TestsAfterStore trail) config.world getting := by
  refine run_invariant (exceptionRuns message p) (fun trail config => ∃ producing getting,
    Stands config producing getting ∧ StoresOnly p config.world producing ∧
      Answers p (Along TestsAfterStore trail) config.world getting) ?_ ?_ trail config run
  · intro start initial
    obtain rfl := initial
    exact ⟨.storingException p, .testing, ⟨rfl, rfl⟩, ⟨rfl, .inl ⟨rfl, rfl⟩⟩, .inl ⟨along_nil _, .inl rfl⟩⟩
  · intro trail before label after _ earlier taken
    obtain ⟨producing, getting, stands, stores, answers⟩ := earlier
    obtain ⟨moved, next, moves, stood⟩ := step_moves false before after label producing getting stands taken
    refine ⟨moved, next, stood, stores_only_moves p _ _ _ _ _ _ label stores moves, ?_⟩
    rw [along_cons]
    exact answers_moves p before _ _ _ _ _ label _ stores answers moves

theorem exception_delivered (message : DWORD → String) (p : E) (trail : List (Shared E T × Label E T))
    (config : Shared E T) (run : Run (exceptionRuns message p) trail config) (along : Along TestsAfterStore trail) :
    (∀ outcome, Returned config .getter outcome → outcome = .error (.rethrown p)) ∧
      (config.world.m_exception = some p → ¬ Blocked (promiseMachine false false) config .getter) := by
  obtain ⟨producing, getting, stands, _, answers⟩ := exception_runs message p trail config run
  obtain ⟨_, untested | ⟨seen, _⟩ | done⟩ | ⟨late, _⟩ := answers
  · subst untested
    refine ⟨fun outcome returned => ?_, fun _ blocked => ?_⟩
    · have program := stands.getter.symm.trans returned
      rw [Getting.program, get_run] at program
      cases program
    · have waiting := (blocked_waiting false config producing .testing stands blocked).1
      rw [Getting.program, get_run] at waiting
      cases waiting
  · subst seen
    refine ⟨fun outcome returned => ?_, fun _ blocked => ?_⟩
    · cases stands.getter.symm.trans returned
    · cases (blocked_waiting false config producing .rethrowing stands blocked).1
  · subst done
    refine ⟨fun outcome returned => ?_, fun _ => returned_not_blocked _ config .getter _ stands.getter⟩
    cases stands.getter.symm.trans returned
    rfl
  · exact absurd along late

theorem exception_lost (message : DWORD → String) (p : E) (trail : List (Shared E T × Label E T)) (config : Shared E T)
    (run : Run (exceptionRuns message p) trail config) (early : ¬ Along TestsAfterStore trail)
    (outcome : Except (Thrown E) T) (returned : Returned config .getter outcome) : outcome = terminated := by
  obtain ⟨producing, getting, stands, _, answers⟩ := exception_runs message p trail config run
  obtain ⟨now, _⟩ | ⟨_, rfl | rfl⟩ := answers
  · exact absurd now early
  · cases stands.getter.symm.trans returned
  · cases stands.getter.symm.trans returned
    rfl

end Runs

def AlwaysRethrows (runs : Lts (Shared E T) (Label E T)) (p : E) : Prop :=
  ∀ trail config, Run runs trail config → ∀ outcome, Returned config .getter outcome → outcome = .error (.rethrown p)

def NeverLeftWaiting (runs : Lts (Shared E T) (Label E T)) (p : E) : Prop :=
  ∀ trail config, Run runs trail config → config.world.m_exception = some p →
    ¬ Blocked (promiseMachine false false) config .getter

def sampleRuns : Lts (Shared Nat Nat) (Label Nat Nat) := exceptionRuns (fun _ => "") 7

theorem exception_delivered_sample : ∃ trail config, Run sampleRuns trail config ∧
    Returned config .getter (delivered 7) ∧
      ∀ outcome, Returned config .getter outcome → outcome = .error (.rethrown 7) := by
  have start : Run sampleRuns [] _ := .start _ rfl
  have stored := run_call _ _ _ _ start .producer (.storeException (some 7)) _ () rfl ⟨rfl, .inl rfl⟩
  have tested := run_call _ _ _ _ stored .getter .loadException _ (some 7) rfl (.inl rfl)
  have rethrown := run_call _ _ _ _ tested .getter .loadException _ (some 7) rfl (.inl rfl)
  refine ⟨_, _, rethrown, rfl, (exception_delivered (fun _ => "") 7 _ _ rethrown ?_).1⟩
  simp only [along_cons, along_nil, TestsAfterStore, and_true]
  constructor
  · intro absent
    cases absent
  · intro absent
    cases absent

-- The getter tests, and then the producer stores the exception and ends.
theorem exception_not_delivered : ¬ AlwaysRethrows sampleRuns 7 ∧ ¬ NeverLeftWaiting sampleRuns 7 := by
  have start : Run sampleRuns [] _ := .start _ rfl
  have tested := run_call _ _ _ _ start .getter .loadException _ none rfl (.inl rfl)
  have stored := run_call _ _ _ _ tested .producer (.storeException (some 7)) _ () rfl ⟨rfl, .inl rfl⟩
  have ended := run_call _ _ _ _ stored .producer .exitThread _ () rfl ⟨rfl, .inl rfl⟩
  have woken := run_call _ _ _ _ ended .getter (.waitForMultipleObjects handles) _ (waitObject0 + 1) rfl (.inl rfl)
  refine ⟨fun rethrows => ?_, fun never => ?_⟩
  · have impossible := rethrows _ _ woken terminated rfl
    cases impossible
  · refine never _ _ stored rfl ⟨_, _, rfl, ?_⟩
    intro reply answered
    rcases answered with answered | ⟨impossible, _⟩
    · cases answered
    · cases impossible

end Rcp.Threads.PromiseWin
