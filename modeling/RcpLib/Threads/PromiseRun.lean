import RcpLib.Threads.PromiseWin

set_option autoImplicit false

namespace Rcp.Threads.PromiseWin

open Semantics

inductive Party where
  | producer
  | getter
deriving DecidableEq, Repr

@[reducible] def Res (E T : Type) : Party → Type
  | .producer => Except (Thrown E) Unit
  | .getter => Except (Thrown E) T

variable {E T : Type}

abbrev Shared (E T : Type) := Config Party (PromiseOp E T) PromiseReply (PromiseExImpl E T) (Res E T)

abbrev Label (E T : Type) := PoolLabel Party (PromiseOp E T) PromiseReply Unit

-- An ended thread performs nothing more. The only event from outside is that the
-- producer is terminated, which may happen at any moment when it is killable.
def promiseMachine (killable failing : Bool) :
    Machine Party (PromiseOp E T) PromiseReply (PromiseExImpl E T) Unit where
  handler
    | .producer => ⟨fun world op reply => world.ended = false ∧ world.answers failing op reply, PromiseExImpl.after⟩
    | .getter => ⟨fun world op reply => world.answers failing op reply, PromiseExImpl.after⟩
  moves world _ later := killable = true ∧ later = { world with ended := true }

def threadProc (body : PromiseM E T Unit) : PromiseM E T Unit := do
  body
  callWin .exitThread

def programs (body : PromiseM E T Unit) : (party : Party) → Program (PromiseOp E T) PromiseReply (Res E T party)
  | .producer => (threadProc body).run
  | .getter => (get : PromiseM E T T).run

def promiseRuns [OfNat T 0] (killable failing : Bool) (message : DWORD → String) (body : PromiseM E T Unit) :
    Lts (Shared E T) (Label E T) :=
  pool (promiseMachine killable failing) fun config => config = ⟨fresh message, programs body⟩

inductive Producing (E T : Type) where
  | storingException (p : E)
  | storingVal (val : T)
  | setting
  | exiting
  | exited

def exiting : Program (PromiseOp E T) PromiseReply (Except (Thrown E) Unit) := .call .exitThread fun _ => .ret (.ok ())

def Producing.program : Producing E T → Program (PromiseOp E T) PromiseReply (Except (Thrown E) Unit)
  | .storingException p => .call (.storeException (some p)) fun _ => PromiseWin.exiting
  | .storingVal val => .call (.storeVal val) fun _ => .call .setEvent fun _ => PromiseWin.exiting
  | .setting => .call .setEvent fun _ => PromiseWin.exiting
  | .exiting => PromiseWin.exiting
  | .exited => .ret (.ok ())

inductive Getting (E T : Type) where
  | testing
  | rethrowing
  | waiting
  | loading
  | finished (outcome : Except (Thrown E) T)

def Getting.program : Getting E T → Program (PromiseOp E T) PromiseReply (Except (Thrown E) T)
  | .testing => (get : PromiseM E T T).run
  | .rethrowing => rethrow
  | .waiting => .call (.waitForMultipleObjects handles) fun waitResult =>
      (do checkWait 2 waitResult; callWin .loadVal : PromiseM E T T).run
  | .loading => .call .loadVal fun val => .ret (.ok val)
  | .finished outcome => .ret outcome

structure Stands (config : Shared E T) (producing : Producing E T) (getting : Getting E T) : Prop where
  producer : config.program .producer = producing.program
  getter : config.program .getter = getting.program

def terminated : Except (Thrown E) T := .error (.runtimeError terminatedText)

-- The moves where no call of the system fails.
inductive Moves (killable : Bool) (world : PromiseExImpl E T) :
    Producing E T → Getting E T → Label E T → PromiseExImpl E T → Producing E T → Getting E T → Prop where
  | storeException (p : E) (getting : Getting E T) (alive : world.ended = false) :
      Moves killable world (.storingException p) getting (.call .producer (.storeException (some p)) ())
        { world with m_exception := some p } .exiting getting
  | storeVal (val : T) (getting : Getting E T) (alive : world.ended = false) :
      Moves killable world (.storingVal val) getting (.call .producer (.storeVal val) ())
        { world with m_val := val } .setting getting
  | setEvent (getting : Getting E T) (alive : world.ended = false) :
      Moves killable world .setting getting (.call .producer .setEvent true)
        { world with signalled := true } .exiting getting
  | exit (getting : Getting E T) (alive : world.ended = false) :
      Moves killable world .exiting getting (.call .producer .exitThread ()) { world with ended := true } .exited getting
  | kill (producing : Producing E T) (getting : Getting E T) (allowed : killable = true) :
      Moves killable world producing getting (.event ()) { world with ended := true } producing getting
  | testStored (producing : Producing E T) (p : E) (stored : world.m_exception = some p) :
      Moves killable world producing .testing (.call .getter .loadException (some p)) world producing .rethrowing
  | testEmpty (producing : Producing E T) (empty : world.m_exception = none) :
      Moves killable world producing .testing (.call .getter .loadException none) world producing .waiting
  | rethrow (producing : Producing E T) (p : E) (stored : world.m_exception = some p) :
      Moves killable world producing .rethrowing (.call .getter .loadException (some p)) world producing
        (.finished (.error (.rethrown p)))
  | rethrowNull (producing : Producing E T) (empty : world.m_exception = none) :
      Moves killable world producing .rethrowing (.call .getter .loadException none) world producing
        (.finished (.error .undefined))
  | wakeEvent (producing : Producing E T) (signalled : world.signalled = true) :
      Moves killable world producing .waiting (.call .getter (.waitForMultipleObjects handles) waitObject0)
        { world with signalled := false } producing .loading
  | wakeThread (producing : Producing E T) (unsignalled : world.signalled = false) (ended : world.ended = true) :
      Moves killable world producing .waiting (.call .getter (.waitForMultipleObjects handles) (waitObject0 + 1))
        world producing (.finished terminated)
  | load (producing : Producing E T) :
      Moves killable world producing .loading (.call .getter .loadVal world.m_val) world producing
        (.finished (.ok world.m_val))

theorem wait_reply (world : PromiseExImpl E T) : world.reply (.waitForMultipleObjects handles) =
    if world.signalled = true then some waitObject0
    else if world.ended = true then some (waitObject0 + 1) else none := by
  cases signalled : world.signalled <;> cases ended : world.ended <;>
    simp [PromiseExImpl.reply, handles, List.findIdx?_cons, PromiseExImpl.ready, signalled, ended]

theorem wait_after (world : PromiseExImpl E T) (reply : DWORD) (succeeded : reply ≠ waitFailed) :
    world.after (.waitForMultipleObjects handles) reply = { world with signalled := false } := by
  cases signalled : world.signalled <;> cases ended : world.ended <;>
    simp [PromiseExImpl.after, handles, PromiseExImpl.ready, succeeded, signalled, ended]
  all_goals cases world; simp_all

theorem after_message (world : PromiseExImpl E T) (op : PromiseOp E T) (reply : PromiseReply op) :
    (world.after op reply).message = world.message := by
  unfold PromiseExImpl.after
  split <;> first | rfl | (split <;> rfl)

theorem event_succeeded : waitObject0 ≠ waitFailed := by decide

theorem thread_succeeded : waitObject0 + 1 ≠ waitFailed := by decide

theorem stands_producer (config : Shared E T) (world : PromiseExImpl E T) (producing moved : Producing E T)
    (getting : Getting E T) (stands : Stands config producing getting) :
    Stands (config.resumed world .producer moved.program) moved getting :=
  ⟨resumed_here config world .producer _, (resumed_elsewhere config world .producer .getter _ (by decide)).trans stands.getter⟩

theorem stands_getter (config : Shared E T) (world : PromiseExImpl E T) (producing : Producing E T)
    (getting moved : Getting E T) (stands : Stands config producing getting) :
    Stands (config.resumed world .getter moved.program) producing moved :=
  ⟨(resumed_elsewhere config world .getter .producer _ (by decide)).trans stands.producer, resumed_here config world .getter _⟩

theorem producer_moves (killable : Bool) (config : Shared E T) (producing : Producing E T) (getting : Getting E T)
    (stands : Stands config producing getting) (op : PromiseOp E T)
    (next : PromiseReply op → Program (PromiseOp E T) PromiseReply (Res E T .producer)) (reply : PromiseReply op)
    (current : producing.program = .call op next) (alive : config.world.ended = false)
    (answered : config.world.reply op = some reply) :
    ∃ moved, Moves killable config.world producing getting (.call .producer op reply) (config.world.after op reply) moved
        getting ∧
      Stands (config.resumed (config.world.after op reply) .producer (next reply)) moved getting := by
  cases producing with
  | storingException p =>
      cases current
      exact ⟨.exiting, .storeException p getting alive, stands_producer config _ _ .exiting getting stands⟩
  | storingVal val =>
      cases current
      exact ⟨.setting, .storeVal val getting alive, stands_producer config _ _ .setting getting stands⟩
  | setting =>
      cases current
      cases answered
      exact ⟨.exiting, .setEvent getting alive, stands_producer config _ _ .exiting getting stands⟩
  | exiting =>
      cases current
      exact ⟨.exited, .exit getting alive, stands_producer config _ _ .exited getting stands⟩
  | exited => cases current

theorem getter_moves (killable : Bool) (config : Shared E T) (producing : Producing E T) (getting : Getting E T)
    (stands : Stands config producing getting) (op : PromiseOp E T)
    (next : PromiseReply op → Program (PromiseOp E T) PromiseReply (Res E T .getter)) (reply : PromiseReply op)
    (current : getting.program = .call op next) (answered : config.world.reply op = some reply) :
    ∃ moved, Moves killable config.world producing getting (.call .getter op reply) (config.world.after op reply)
        producing moved ∧
      Stands (config.resumed (config.world.after op reply) .getter (next reply)) producing moved := by
  cases getting with
  | testing =>
      rw [Getting.program, get_run] at current
      cases current
      have stored : config.world.m_exception = reply := Option.some.inj answered
      cases reply with
      | none => exact ⟨.waiting, .testEmpty producing stored, stands_getter config _ producing _ .waiting stands⟩
      | some p => exact ⟨.rethrowing, .testStored producing p stored, stands_getter config _ producing _ .rethrowing stands⟩
  | rethrowing =>
      cases current
      have stored : config.world.m_exception = reply := Option.some.inj answered
      cases reply with
      | none => exact ⟨.finished _, .rethrowNull producing stored, stands_getter config _ producing _ (.finished _) stands⟩
      | some p => exact ⟨.finished _, .rethrow producing p stored, stands_getter config _ producing _ (.finished _) stands⟩
  | waiting =>
      cases current
      rw [wait_reply] at answered
      split at answered
      · rename_i signalled
        cases answered
        rw [wait_after _ _ event_succeeded]
        exact ⟨.loading, .wakeEvent producing signalled, stands_getter config _ producing _ .loading stands⟩
      · rename_i unsignalled
        split at answered
        · rename_i ended
          cases answered
          rw [wait_after _ _ thread_succeeded]
          have unset : config.world.signalled = false := by simpa using unsignalled
          have same : ({ config.world with signalled := false } : PromiseExImpl E T) = config.world := by rw [← unset]
          rw [same]
          exact ⟨.finished terminated, .wakeThread producing unset ended,
            stands_getter config _ producing _ (.finished terminated) stands⟩
        · cases answered
  | loading =>
      cases current
      cases answered
      exact ⟨.finished _, .load producing, stands_getter config _ producing _ (.finished _) stands⟩
  | finished outcome => cases current

theorem step_moves (killable : Bool) (before after : Shared E T) (label : Label E T) (producing : Producing E T)
    (getting : Getting E T) (stands : Stands before producing getting)
    (taken : PoolStep (promiseMachine killable false) before label after) :
    ∃ producing' getting', Moves killable before.world producing getting label after.world producing' getting' ∧
      Stands after producing' getting' := by
  cases taken with
  | call party op next reply current answered =>
      cases party with
      | producer =>
          obtain ⟨moved, moves, stood⟩ := producer_moves killable before producing getting stands op next reply
            (stands.producer.symm.trans current) answered.1 ((answers_reliable _ _ _).mp answered.2)
          exact ⟨moved, getting, moves, stood⟩
      | getter =>
          obtain ⟨moved, moves, stood⟩ := getter_moves killable before producing getting stands op next reply
            (stands.getter.symm.trans current) ((answers_reliable _ _ _).mp answered)
          exact ⟨producing, moved, moves, stood⟩
  | event event later moved =>
      obtain ⟨allowed, rfl⟩ := moved
      exact ⟨producing, getting, .kill producing getting allowed, stands.producer, stands.getter⟩

theorem blocked_waiting (killable : Bool) (config : Shared E T) (producing : Producing E T) (getting : Getting E T)
    (stands : Stands config producing getting) (blocked : Blocked (promiseMachine killable false) config .getter) :
    getting.program = Getting.waiting.program ∧ config.world.signalled = false ∧ config.world.ended = false := by
  obtain ⟨op, next, current, unanswered⟩ := blocked
  have silent : ∀ reply, config.world.reply op ≠ some reply := fun reply answered => unanswered reply (.inl answered)
  rw [stands.getter] at current
  cases getting with
  | testing =>
      rw [Getting.program, get_run] at current
      cases current
      exact absurd rfl (silent config.world.m_exception)
  | rethrowing =>
      cases current
      exact absurd rfl (silent config.world.m_exception)
  | waiting =>
      cases current
      have none : config.world.reply (.waitForMultipleObjects handles) = .none :=
        Option.eq_none_iff_forall_not_mem.mpr silent
      rw [wait_reply] at none
      refine ⟨rfl, ?_⟩
      cases signalled : config.world.signalled <;> cases ended : config.world.ended <;> simp [signalled, ended] at none ⊢
  | loading =>
      cases current
      exact absurd rfl (silent config.world.m_val)
  | finished outcome => cases current

end Rcp.Threads.PromiseWin
