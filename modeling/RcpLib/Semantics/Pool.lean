import Mathlib.Logic.Function.Basic
import RcpLib.Semantics.Program
import RcpLib.Semantics.Transition

set_option autoImplicit false

namespace Semantics

-- A pool of sequential programs over one shared world. Each party has its own
-- handler, so that a party can be stopped; `moves` is what happens to the world
-- outside of the parties.
structure Machine (Party Op : Type) (Reply : Op → Type) (World Event : Type) where
  handler : Party → Handler Op Reply World
  moves : World → Event → World → Prop

structure Config (Party Op : Type) (Reply : Op → Type) (World : Type) (Res : Party → Type) where
  world : World
  program : (party : Party) → Program Op Reply (Res party)

inductive PoolLabel (Party Op : Type) (Reply : Op → Type) (Event : Type) where
  | call (party : Party) (op : Op) (reply : Reply op)
  | event (event : Event)

variable {Party Op : Type} {Reply : Op → Type} {World Event : Type} {Res : Party → Type}

def Returned (config : Config Party Op Reply World Res) (party : Party) (value : Res party) : Prop :=
  config.program party = .ret value

def Enabled (machine : Machine Party Op Reply World Event) (config : Config Party Op Reply World Res)
    (party : Party) : Prop :=
  ∃ op next reply, config.program party = .call op next ∧ (machine.handler party).answers config.world op reply

-- The party is inside of a call that nothing answers as the world stands.
def Blocked (machine : Machine Party Op Reply World Event) (config : Config Party Op Reply World Res)
    (party : Party) : Prop :=
  ∃ op next, config.program party = .call op next ∧ ∀ reply, ¬ (machine.handler party).answers config.world op reply

theorem returned_not_blocked (machine : Machine Party Op Reply World Event) (config : Config Party Op Reply World Res)
    (party : Party) (value : Res party) (returned : Returned config party value) : ¬ Blocked machine config party := by
  intro blocked
  obtain ⟨op, next, current, _⟩ := blocked
  rw [Returned.eq_1, current] at returned
  cases returned

section Steps

variable [DecidableEq Party]

def Config.resumed (config : Config Party Op Reply World Res) (later : World) (party : Party)
    (program : Program Op Reply (Res party)) : Config Party Op Reply World Res :=
  ⟨later, Function.update config.program party program⟩

@[simp] theorem resumed_world (config : Config Party Op Reply World Res) (later : World) (party : Party)
    (program : Program Op Reply (Res party)) : (config.resumed later party program).world = later := rfl

@[simp] theorem resumed_here (config : Config Party Op Reply World Res) (later : World) (party : Party)
    (program : Program Op Reply (Res party)) : (config.resumed later party program).program party = program := by
  simp [Config.resumed]

theorem resumed_elsewhere (config : Config Party Op Reply World Res) (later : World) (party other : Party)
    (program : Program Op Reply (Res party)) (different : other ≠ party) :
    (config.resumed later party program).program other = config.program other := by
  simp [Config.resumed, Function.update_of_ne different]

inductive PoolStep (machine : Machine Party Op Reply World Event) :
    Config Party Op Reply World Res → PoolLabel Party Op Reply Event → Config Party Op Reply World Res → Prop where
  | call (config : Config Party Op Reply World Res) (party : Party) (op : Op)
      (next : Reply op → Program Op Reply (Res party)) (reply : Reply op)
      (current : config.program party = .call op next)
      (answered : (machine.handler party).answers config.world op reply) :
      PoolStep machine config (.call party op reply)
        (config.resumed ((machine.handler party).after config.world op reply) party (next reply))
  | event (config : Config Party Op Reply World Res) (event : Event) (later : World)
      (moved : machine.moves config.world event later) :
      PoolStep machine config (.event event) ⟨later, config.program⟩

def pool (machine : Machine Party Op Reply World Event) (start : Config Party Op Reply World Res → Prop) :
    Lts (Config Party Op Reply World Res) (PoolLabel Party Op Reply Event) where
  initial := start
  step := PoolStep machine

theorem run_call (machine : Machine Party Op Reply World Event) (start : Config Party Op Reply World Res → Prop)
    (trail : List (Config Party Op Reply World Res × PoolLabel Party Op Reply Event))
    (config : Config Party Op Reply World Res) (run : Run (pool machine start) trail config) (party : Party) (op : Op)
    (next : Reply op → Program Op Reply (Res party)) (reply : Reply op)
    (current : config.program party = .call op next)
    (answered : (machine.handler party).answers config.world op reply) :
    Run (pool machine start) ((config, .call party op reply) :: trail)
      (config.resumed ((machine.handler party).after config.world op reply) party (next reply)) :=
  .step trail config _ _ run (.call config party op next reply current answered)

end Steps

end Semantics
