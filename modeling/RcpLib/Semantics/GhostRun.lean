import RcpLib.Semantics.Pool

set_option autoImplicit false

namespace Semantics

variable {Party Op : Type} {Reply : Op → Type} {World Event Ghost : Type} {Res : Party → Type}

def Disciplined (protocol : Protocol Op Reply Ghost) (final : (party : Party) → Res party → Ghost → Prop)
    (start : Party → Ghost) (threads : (party : Party) → Program Op Reply (Res party)) : Prop :=
  ∀ party, (threads party).Follows protocol (final party) (start party)

section Runs

variable [DecidableEq Party]

-- The ghost state of each party is a function of the trail: it moves with the
-- calls of its own party and with nothing else.
def ghosts (protocol : Protocol Op Reply Ghost) (start : Party → Ghost) :
    List (Config Party Op Reply World Res × PoolLabel Party Op Reply Event) → Party → Ghost
  | [] => start
  | (_, .call party op reply) :: trail =>
      let earlier := ghosts protocol start trail
      Function.update earlier party (protocol.advance (earlier party) op reply)
  | (_, .event _) :: trail => ghosts protocol start trail

theorem ghosts_here (protocol : Protocol Op Reply Ghost) (start : Party → Ghost)
    (trail : List (Config Party Op Reply World Res × PoolLabel Party Op Reply Event))
    (config : Config Party Op Reply World Res) (party : Party) (op : Op) (reply : Reply op) :
    ghosts protocol start ((config, .call party op reply) :: trail) party =
      protocol.advance (ghosts protocol start trail party) op reply := by
  simp [ghosts]

theorem ghosts_elsewhere (protocol : Protocol Op Reply Ghost) (start : Party → Ghost)
    (trail : List (Config Party Op Reply World Res × PoolLabel Party Op Reply Event))
    (config : Config Party Op Reply World Res) (party other : Party) (op : Op) (reply : Reply op)
    (different : other ≠ party) :
    ghosts protocol start ((config, .call party op reply) :: trail) other = ghosts protocol start trail other := by
  simp [ghosts, Function.update_of_ne different]

theorem ghosts_both {View : Type} (first : Protocol Op Reply View) (second : Protocol Op Reply Ghost) (view : Ghost → View)
    (start : Party → Ghost) (trail : List (Config Party Op Reply World Res × PoolLabel Party Op Reply Event)) :
    ghosts (first.both second view) start trail = ghosts second start trail := by
  induction trail with
  | nil => rfl
  | cons entry trail ih =>
      obtain ⟨config, label⟩ := entry
      cases label with
      | call party op reply => rw [ghosts, ghosts, ih, Protocol.both]
      | event event => exact ih

section Discipline

variable (machine : Machine Party Op Reply World Event) (protocol : Protocol Op Reply Ghost)
variable (final : (party : Party) → Res party → Ghost → Prop) (start : Party → Ghost)
variable (origin : Config Party Op Reply World Res) (disciplined : Disciplined protocol final start origin.program)

include disciplined

theorem run_disciplined (trail : List (Config Party Op Reply World Res × PoolLabel Party Op Reply Event))
    (config : Config Party Op Reply World Res) (run : Run (pool machine (· = origin)) trail config) :
    Disciplined protocol final (ghosts protocol start trail) config.program := by
  refine run_invariant (pool machine (· = origin)) (fun trail config =>
    Disciplined protocol final (ghosts protocol start trail) config.program) ?_ ?_ trail config run
  · intro state initial
    obtain rfl := initial
    exact disciplined
  · intro trail before label after _ ih taken
    cases taken with
    | call party op next reply current answered =>
        intro other
        by_cases same : other = party
        · subst same
          have follows := ih other
          rw [current] at follows
          rw [resumed_here, ghosts_here]
          exact follows.2 reply
        · rw [resumed_elsewhere before _ party other _ same,
            ghosts_elsewhere protocol start trail before party other op reply same]
          exact ih other
    | event event later moved => exact ih

theorem call_permitted (trail : List (Config Party Op Reply World Res × PoolLabel Party Op Reply Event))
    (config : Config Party Op Reply World Res) (run : Run (pool machine (· = origin)) trail config)
    (party : Party) (op : Op) (next : Reply op → Program Op Reply (Res party))
    (current : config.program party = .call op next) : protocol.permits (ghosts protocol start trail party) op := by
  have follows := run_disciplined machine protocol final start origin disciplined trail config run party
  rw [current] at follows
  exact follows.1

theorem returned_final (trail : List (Config Party Op Reply World Res × PoolLabel Party Op Reply Event))
    (config : Config Party Op Reply World Res) (run : Run (pool machine (· = origin)) trail config)
    (party : Party) (value : Res party) (returned : Returned config party value) :
    final party value (ghosts protocol start trail party) := by
  have follows := run_disciplined machine protocol final start origin disciplined trail config run party
  rw [Returned.eq_1] at returned
  rw [returned] at follows
  exact follows

theorem ghost_invariant (holds : World → (Party → Ghost) → Prop) (base : holds origin.world start)
    (called : ∀ world own party op reply, holds world own → protocol.permits (own party) op →
      (machine.handler party).answers world op reply →
      holds ((machine.handler party).after world op reply)
        (Function.update own party (protocol.advance (own party) op reply)))
    (moved : ∀ world own event later, holds world own → machine.moves world event later → holds later own)
    (trail : List (Config Party Op Reply World Res × PoolLabel Party Op Reply Event))
    (config : Config Party Op Reply World Res) (run : Run (pool machine (· = origin)) trail config) :
    holds config.world (ghosts protocol start trail) := by
  refine run_invariant (pool machine (· = origin)) (fun trail config =>
    holds config.world (ghosts protocol start trail)) ?_ ?_ trail config run
  · intro state initial
    obtain rfl := initial
    exact base
  · intro trail before label after previous ih taken
    cases taken with
    | call party op next reply current answered =>
        exact called _ _ party op reply ih
          (call_permitted machine protocol final start origin disciplined trail before previous party op next current) answered
    | event event later change => exact moved _ _ event later ih change

end Discipline

end Runs

end Semantics
