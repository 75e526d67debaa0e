import RcpLib.Threads.PromiseRun

set_option autoImplicit false

namespace Rcp.Threads.PromiseWin

open Semantics

variable {E T : Type}

def publish : Label E T := .call .producer .setEvent true

-- Before the event is set. A getter that has failed has seen the thread end, and
-- an ended thread sets no event.
structure Pending (task : Option T) (world : PromiseExImpl E T) (producing : Producing E T) (getting : Getting E T) :
    Prop where
  empty : world.m_exception = none
  unsignalled : world.signalled = false
  producer : (∃ val, producing = .storingVal val ∧ task = some val) ∨ (producing = .setting ∧ task = some world.m_val) ∨
    producing = .exiting ∨ producing = .exited
  getter : getting = .testing ∨ getting = .waiting ∨ (getting = .finished terminated ∧ world.ended = true)

-- After it. The event stays set until the getter has taken it.
structure Published (task : Option T) (world : PromiseExImpl E T) (producing : Producing E T) (getting : Getting E T) :
    Prop where
  empty : world.m_exception = none
  value : task = some world.m_val
  producer : producing = .exiting ∨ producing = .exited
  getter : (getting = .testing ∨ getting = .waiting) ∧ world.signalled = true ∨
    getting = .loading ∨ getting = .finished (.ok world.m_val)

theorem pending_moves (task : Option T) (world later : PromiseExImpl E T) (producing moved : Producing E T)
    (getting next : Getting E T) (label : Label E T) (pending : Pending task world producing getting)
    (moves : Moves true world producing getting label later moved next) :
    label = publish ∧ Published task later moved next ∨ label ≠ publish ∧ Pending task later moved next := by
  obtain ⟨empty, unsignalled, producer, getter⟩ := pending
  cases moves with
  | storeException p => rcases producer with ⟨_, same, _⟩ | ⟨same, _⟩ | same | same <;> cases same
  | storeVal val =>
      refine .inr ⟨by rintro ⟨⟩, empty, unsignalled, .inr (.inl ⟨rfl, ?_⟩), getter⟩
      rcases producer with ⟨_, same, assigned⟩ | ⟨same, _⟩ | same | same <;> cases same
      exact assigned
  | setEvent _ alive =>
      refine .inl ⟨rfl, empty, ?_, .inl rfl, ?_⟩
      · rcases producer with ⟨_, same, _⟩ | ⟨_, stored⟩ | same | same
        · cases same
        · exact stored
        · cases same
        · cases same
      · rcases getter with testing | waiting | ⟨_, ended⟩
        · exact .inl ⟨.inl testing, rfl⟩
        · exact .inl ⟨.inr waiting, rfl⟩
        · simp [alive] at ended
  | exit =>
      refine .inr ⟨by rintro ⟨⟩, empty, unsignalled, .inr (.inr (.inr rfl)), ?_⟩
      exact getter.imp_right (Or.imp_right fun done => ⟨done.1, rfl⟩)
  | kill =>
      refine .inr ⟨by rintro ⟨⟩, empty, unsignalled, producer, ?_⟩
      exact getter.imp_right (Or.imp_right fun done => ⟨done.1, rfl⟩)
  | testStored _ p stored => simp [empty] at stored
  | rethrow | rethrowNull => rcases getter with impossible | impossible | ⟨impossible, _⟩ <;> cases impossible
  | testEmpty => exact .inr ⟨by rintro ⟨⟩, empty, unsignalled, producer, .inr (.inl rfl)⟩
  | wakeEvent _ signalled => simp [unsignalled] at signalled
  | wakeThread _ _ ended => exact .inr ⟨by rintro ⟨⟩, empty, unsignalled, producer, .inr (.inr ⟨rfl, ended⟩)⟩
  | load => rcases getter with impossible | impossible | ⟨impossible, _⟩ <;> cases impossible

theorem published_moves (task : Option T) (world later : PromiseExImpl E T) (producing moved : Producing E T)
    (getting next : Getting E T) (label : Label E T) (published : Published task world producing getting)
    (moves : Moves true world producing getting label later moved next) : Published task later moved next := by
  obtain ⟨empty, value, producer, getter⟩ := published
  cases moves with
  | storeException => rcases producer with same | same <;> cases same
  | storeVal => rcases producer with same | same <;> cases same
  | setEvent => rcases producer with same | same <;> cases same
  | exit => exact ⟨empty, value, .inr rfl, getter⟩
  | kill => exact ⟨empty, value, producer, getter⟩
  | testStored _ p stored => simp [empty] at stored
  | rethrow | rethrowNull => rcases getter with ⟨impossible | impossible, _⟩ | impossible | impossible <;> cases impossible
  | testEmpty =>
      refine ⟨empty, value, producer, .inl ⟨.inr rfl, ?_⟩⟩
      rcases getter with ⟨_, signalled⟩ | impossible | impossible
      · exact signalled
      · cases impossible
      · cases impossible
  | wakeEvent => exact ⟨empty, value, producer, .inr (.inl rfl)⟩
  | wakeThread _ unsignalled =>
      rcases getter with ⟨_, signalled⟩ | impossible | impossible
      · simp [unsignalled] at signalled
      · cases impossible
      · cases impossible
  | load => exact ⟨empty, value, producer, .inr (.inr rfl)⟩

def setOnce (task : Option T) : PromiseM E T Unit :=
  match task with
  | some val => set val
  | none => pure ()

section Runs

variable [OfNat T 0]

def valueRuns (message : DWORD → String) (task : Option T) : Lts (Shared E T) (Label E T) :=
  promiseRuns true false message (setOnce task)

theorem value_runs (message : DWORD → String) (task : Option T) (trail : List (Shared E T × Label E T))
    (config : Shared E T) (run : Run (valueRuns message task) trail config) :
    ∃ producing getting, Stands config producing getting ∧
      (Occurs publish trail ∧ Published task config.world producing getting ∨
        ¬ Occurs publish trail ∧ Pending task config.world producing getting) := by
  refine run_invariant (valueRuns message task) (fun trail config => ∃ producing getting,
    Stands config producing getting ∧ (Occurs publish trail ∧ Published task config.world producing getting ∨
      ¬ Occurs publish trail ∧ Pending task config.world producing getting)) ?_ ?_ trail config run
  · intro start initial
    obtain rfl := initial
    cases task with
    | none => exact ⟨.exiting, .testing, ⟨rfl, rfl⟩, .inr ⟨not_occurs_nil _, rfl, rfl, .inr (.inr (.inl rfl)), .inl rfl⟩⟩
    | some val =>
        exact ⟨.storingVal val, .testing, ⟨rfl, rfl⟩, .inr ⟨not_occurs_nil _, rfl, rfl, .inl ⟨val, rfl, rfl⟩, .inl rfl⟩⟩
  · intro trail before label after _ earlier taken
    obtain ⟨producing, getting, stands, progress⟩ := earlier
    obtain ⟨moved, next, moves, stood⟩ := step_moves true before after label producing getting stands taken
    refine ⟨moved, next, stood, ?_⟩
    simp only [occurs_cons]
    rcases progress with ⟨occurred, published⟩ | ⟨absent, pending⟩
    · exact .inl ⟨.inr occurred, published_moves task _ _ _ _ _ _ label published moves⟩
    · rcases pending_moves task _ _ _ _ _ _ label pending moves with ⟨now, published⟩ | ⟨other, still⟩
      · exact .inl ⟨.inl now.symm, published⟩
      · exact .inr ⟨not_or.mpr ⟨Ne.symm other, absent⟩, still⟩

theorem value_delivered (message : DWORD → String) (task : Option T) (trail : List (Shared E T × Label E T))
    (config : Shared E T) (run : Run (valueRuns message task) trail config) :
    (Occurs publish trail → ∀ outcome, Returned config .getter outcome → ∃ val, task = some val ∧ outcome = .ok val) ∧
    (¬ Occurs publish trail → ∀ outcome, Returned config .getter outcome → ∃ thrown, outcome = .error thrown) ∧
    (config.world.ended = true → ¬ Blocked (promiseMachine true false) config .getter) := by
  obtain ⟨producing, getting, stands, progress⟩ := value_runs message task trail config run
  refine ⟨fun occurred outcome returned => ?_, fun absent outcome returned => ?_, fun ended blocked => ?_⟩
  · obtain ⟨_, _, value, _, getter⟩ | ⟨absent, _⟩ := progress
    · obtain ⟨testing | waiting, _⟩ | loading | done := getter
      all_goals subst getting
      · have program := stands.getter.symm.trans returned
        rw [Getting.program, get_run] at program
        cases program
      · cases stands.getter.symm.trans returned
      · cases stands.getter.symm.trans returned
      · cases stands.getter.symm.trans returned
        exact ⟨config.world.m_val, value, rfl⟩
    · exact absurd occurred absent
  · obtain ⟨occurred, _⟩ | ⟨_, _, _, _, getter⟩ := progress
    · exact absurd occurred absent
    · obtain testing | waiting | ⟨done, _⟩ := getter
      all_goals subst getting
      · have program := stands.getter.symm.trans returned
        rw [Getting.program, get_run] at program
        cases program
      · cases stands.getter.symm.trans returned
      · cases stands.getter.symm.trans returned
        exact ⟨_, rfl⟩
  · have running := (blocked_waiting true config producing getting stands blocked).2.2
    simp [ended] at running

end Runs

-- The producer is terminated after SetEvent, and both objects are signalled when
-- the getter comes to its wait.
theorem value_delivered_sample : ∃ trail config,
    Run (valueRuns (fun _ => "") (some 5) : Lts (Shared Nat Nat) (Label Nat Nat)) trail config ∧
      config.world.ended = true ∧ Returned config .getter (.ok 5) ∧
      ∀ outcome, Returned config .getter outcome → ∃ val, some 5 = some val ∧ outcome = .ok val := by
  have start : Run (valueRuns (fun _ => "") (some 5) : Lts (Shared Nat Nat) (Label Nat Nat)) [] _ := .start _ rfl
  have stored := run_call _ _ _ _ start .producer (.storeVal 5) _ () rfl ⟨rfl, .inl rfl⟩
  have signalled := run_call _ _ _ _ stored .producer .setEvent _ true rfl ⟨rfl, .inl rfl⟩
  have killed := Run.step _ _ _ _ signalled (.event _ () _ ⟨rfl, rfl⟩)
  have tested := run_call _ _ _ _ killed .getter .loadException _ none rfl (.inl rfl)
  have woken := run_call _ _ _ _ tested .getter (.waitForMultipleObjects handles) _ waitObject0 rfl (.inl rfl)
  have loaded := run_call _ _ _ _ woken .getter .loadVal _ 5 rfl (.inl rfl)
  refine ⟨_, _, loaded, rfl, rfl, (value_delivered (fun _ => "") (some 5) _ _ loaded).1 ?_⟩
  simp [publish]

end Rcp.Threads.PromiseWin
