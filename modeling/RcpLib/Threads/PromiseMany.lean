import RcpLib.Semantics.Tally
import RcpLib.Threads.PromiseRun
import RcpLib.Threads.PromiseStd

set_option autoImplicit false

namespace Rcp.Threads.PromiseMany

open Semantics PromiseWin PromiseStd

variable {Caller E T : Type}

abbrev Result (E T : Type) := Except (Thrown E) (Option T)

abbrev ManyConfig (Caller E T : Type) :=
  Config Caller (PromiseOp E T) PromiseReply (PromiseExImpl E T) fun _ => Result E T

abbrev ManyLabel (Caller E T : Type) := PoolLabel Caller (PromiseOp E T) PromiseReply Unit

def makeCall : Call E T → PromiseM E T (Option T)
  | .set val => do
      PromiseWin.set val
      return none
  | .setException p => do
      PromiseWin.setException (some p)
      return none
  | .get => do return some (← PromiseWin.get)

-- Every caller is a thread of its own. The thread whose handle the getters wait
-- for may end at any moment.
def manyMachine (failing : Bool) : Machine Caller (PromiseOp E T) PromiseReply (PromiseExImpl E T) Unit where
  handler _ := ⟨fun world op reply => world.answers failing op reply, PromiseExImpl.after⟩
  moves world _ later := later = { world with ended := true }

inductive Stage (E T : Type) where
  | storingVal (val : T)
  | setting
  | storingException (p : E)
  | testing
  | rethrowing
  | waiting
  | failed
  | probing (lastError : DWORD)
  | explaining (lastError : DWORD)
  | loading
  | finished (result : Result E T)

abbrev CallProgram (E T : Type) := Program (PromiseOp E T) PromiseReply (Result E T)

def fatal (event : DWORD) (reason : String) : Result E T := .error (.runtimeError (fatalError event reason))

def explain (lastError : DWORD) : CallProgram E T :=
  .call (.message lastError) fun text => .ret (fatal waitFailed ("failed: " ++ text))

def probe (lastError : DWORD) : CallProgram E T :=
  .call (.waitForSingleObject .threadHandle 0) fun checkExist =>
    if checkExist ≠ waitObject0 then .ret (fatal checkExist "thread terminated") else explain lastError

def Stage.program : Stage E T → CallProgram E T
  | .storingVal val => .call (.storeVal val) fun _ => .call .setEvent fun _ => .ret (.ok none)
  | .setting => .call .setEvent fun _ => .ret (.ok none)
  | .storingException p => .call (.storeException (some p)) fun _ => .ret (.ok none)
  | .testing => (makeCall .get).run
  | .rethrowing => rethrow
  | .waiting => .call (.waitForMultipleObjects handles) fun waitResult =>
      (do
        let val ← (do checkWait 2 waitResult; PromiseWin.callWin .loadVal : PromiseM E T T)
        return some val : PromiseM E T (Option T)).run
  | .failed => .call .getLastError probe
  | .probing lastError => probe lastError
  | .explaining lastError => explain lastError
  | .loading => .call .loadVal fun val => .ret (.ok (some val))
  | .finished result => .ret result

def Stage.ofCall : Call E T → Stage E T
  | .set val => .storingVal val
  | .setException p => .storingException p
  | .get => .testing

theorem make_call_run (call : Call E T) : (makeCall call).run = (Stage.ofCall call).program := by
  cases call <;> rfl

theorem testing_program : (Stage.testing : Stage E T).program = .call .loadException fun exception =>
    if exception.isSome then (Stage.rethrowing : Stage E T).program else (Stage.waiting : Stage E T).program := by
  refine congrArg (Program.call PromiseOp.loadException) (funext fun exception => ?_)
  cases exception with
  | none => rfl
  | some p =>
      refine congrArg (Program.call PromiseOp.loadException) (funext fun again => ?_)
      cases again <;> rfl

theorem failed_program : (do
    let val ← (do checkWait 2 waitFailed; PromiseWin.callWin .loadVal : PromiseM E T T)
    return some val : PromiseM E T (Option T)).run = (Stage.failed : Stage E T).program := by
  refine congrArg (Program.call PromiseOp.getLastError) (funext fun lastError => ?_)
  refine congrArg (Program.call (PromiseOp.waitForSingleObject .threadHandle 0)) (funext fun checkExist => ?_)
  by_cases there : checkExist = waitObject0
  · subst there
    rfl
  · rw [if_pos there]
    dsimp only [Program.bind, ExceptT.bindCont, Function.comp]
    rw [if_pos there]
    rfl

inductive Moves (failing : Bool) (world : PromiseExImpl E T) :
    Stage E T → (op : PromiseOp E T) → PromiseReply op → Stage E T → Prop where
  | storeVal (val : T) : Moves failing world (.storingVal val) (.storeVal val) () .setting
  | setEvent : Moves failing world .setting .setEvent true (.finished (.ok none))
  | setFails (allowed : failing = true) : Moves failing world .setting .setEvent false (.finished (.ok none))
  | storeException (p : E) : Moves failing world (.storingException p) (.storeException (some p)) () (.finished (.ok none))
  | testStored (p : E) (stored : world.m_exception = some p) :
      Moves failing world .testing .loadException (some p) .rethrowing
  | testEmpty : Moves failing world .testing .loadException none .waiting
  | rethrow (p : E) (stored : world.m_exception = some p) :
      Moves failing world .rethrowing .loadException (some p) (.finished (.error (.rethrown p)))
  | rethrowNull (empty : world.m_exception = none) :
      Moves failing world .rethrowing .loadException none (.finished (.error .undefined))
  | wakeEvent (signalled : world.signalled = true) :
      Moves failing world .waiting (.waitForMultipleObjects handles) waitObject0 .loading
  | wakeThread (unsignalled : world.signalled = false) (ended : world.ended = true) :
      Moves failing world .waiting (.waitForMultipleObjects handles) (waitObject0 + 1)
        (.finished (.error (.runtimeError terminatedText)))
  | waitFails (allowed : failing = true) :
      Moves failing world .waiting (.waitForMultipleObjects handles) waitFailed .failed
  | lastError (error : DWORD) : Moves failing world .failed .getLastError error (.probing error)
  | probeEnded (lastError : DWORD) (ended : world.ended = true) :
      Moves failing world (.probing lastError) (.waitForSingleObject .threadHandle 0) waitObject0 (.explaining lastError)
  | probeOther (lastError checkExist : DWORD) (other : checkExist ≠ waitObject0) :
      Moves failing world (.probing lastError) (.waitForSingleObject .threadHandle 0) checkExist
        (.finished (fatal checkExist "thread terminated"))
  | explain (lastError : DWORD) :
      Moves failing world (.explaining lastError) (.message lastError) (world.message lastError)
        (.finished (fatal waitFailed ("failed: " ++ world.message lastError)))
  | load : Moves failing world .loading .loadVal world.m_val (.finished (.ok (some world.m_val)))

theorem stage_moves (failing : Bool) (world : PromiseExImpl E T) (stage : Stage E T) (op : PromiseOp E T)
    (next : PromiseReply op → CallProgram E T) (reply : PromiseReply op) (current : stage.program = .call op next)
    (answered : world.answers failing op reply) : ∃ moved, Moves failing world stage op reply moved ∧ next reply = moved.program := by
  cases stage with
  | storingVal val =>
      cases current
      exact ⟨.setting, .storeVal val, rfl⟩
  | setting =>
      cases current
      rcases answered with answered | ⟨allowed, failure⟩
      · cases answered
        exact ⟨_, .setEvent, rfl⟩
      · obtain rfl : reply = false := failure
        exact ⟨_, .setFails allowed, rfl⟩
  | storingException p =>
      cases current
      exact ⟨_, .storeException p, rfl⟩
  | testing =>
      rw [testing_program] at current
      cases current
      have stored : world.m_exception = reply := answered.elim Option.some.inj fun impossible => impossible.2.elim
      cases reply with
      | none => exact ⟨_, .testEmpty, rfl⟩
      | some p => exact ⟨_, .testStored p stored, rfl⟩
  | rethrowing =>
      cases current
      have stored : world.m_exception = reply := answered.elim Option.some.inj fun impossible => impossible.2.elim
      cases reply with
      | none => exact ⟨_, .rethrowNull stored, rfl⟩
      | some p => exact ⟨_, .rethrow p stored, rfl⟩
  | waiting =>
      cases current
      rcases answered with answered | ⟨allowed, failure⟩
      · rw [wait_reply] at answered
        split at answered
        · rename_i signalled
          cases answered
          exact ⟨_, .wakeEvent signalled, rfl⟩
        · rename_i unsignalled
          split at answered
          · rename_i ended
            cases answered
            exact ⟨_, .wakeThread (by simpa using unsignalled) ended, rfl⟩
          · cases answered
      · obtain rfl : reply = waitFailed := failure
        exact ⟨_, .waitFails allowed, failed_program⟩
  | failed =>
      cases current
      exact ⟨_, .lastError reply, rfl⟩
  | probing lastError =>
      cases current
      by_cases there : reply = waitObject0
      · subst there
        refine ⟨_, .probeEnded lastError ?_, rfl⟩
        rcases answered with answered | ⟨_, failure⟩
        · by_contra running
          simp [PromiseExImpl.reply, PromiseExImpl.ready, running, waitObject0, waitTimeout] at answered
        · cases failure
      · exact ⟨_, .probeOther lastError reply there, if_pos there⟩
  | explaining lastError =>
      cases current
      obtain rfl : world.message lastError = reply := answered.elim Option.some.inj fun impossible => impossible.2.elim
      exact ⟨_, .explain lastError, rfl⟩
  | loading =>
      cases current
      obtain rfl : world.m_val = reply := answered.elim Option.some.inj fun impossible => impossible.2.elim
      exact ⟨_, .load, rfl⟩
  | finished result => cases current

section Runs

variable [DecidableEq Caller] [OfNat T 0]

def manyRuns (failing : Bool) (message : DWORD → String) (calls : Caller → Call E T) :
    Lts (ManyConfig Caller E T) (ManyLabel Caller E T) :=
  pool (manyMachine failing) (· = ⟨fresh message, fun caller => (makeCall (calls caller)).run⟩)

end Runs

abbrev ManyTrail (Caller E T : Type) := List (ManyConfig Caller E T × ManyLabel Caller E T)

def publishes : ManyLabel Caller E T → Bool
  | .call _ .setEvent reply => reply
  | _ => false

def wakes : ManyLabel Caller E T → Bool
  | .call _ (.waitForMultipleObjects _) reply => reply = waitObject0
  | _ => false

def callerOf : ManyLabel Caller E T → Option Caller
  | .call caller _ _ => some caller
  | .event _ => none

def Stored (calls : Caller → Call E T) (trail : ManyTrail Caller E T) (val : T) : Prop :=
  ∃ caller, calls caller = .set val ∧ Occurs (.call caller (.storeVal val) ()) trail

def Raised (calls : Caller → Call E T) (trail : ManyTrail Caller E T) (p : E) : Prop :=
  ∃ caller, calls caller = .setException p ∧ Occurs (.call caller (.storeException (some p)) ()) trail

def Woken (trail : ManyTrail Caller E T) (caller : Caller) : Prop :=
  ∃ entry ∈ trail, wakes entry.2 = true ∧ callerOf entry.2 = some caller

def WaitFailed (failing : Bool) (trail : ManyTrail Caller E T) (caller : Caller) : Prop :=
  failing = true ∧ Occurs (.call caller (.waitForMultipleObjects handles) waitFailed) trail

-- The errors of get itself: the wait has found the thread ended; or the wait has failed
-- and the probe has found the thread ended, or has answered anything else.
inductive OwnError (failing : Bool) (message : DWORD → String) (trail : ManyTrail Caller E T) (ended : Bool)
    (caller : Caller) : String → Prop where
  | terminated (now : ended = true) : OwnError failing message trail ended caller (fatalError 1 "thread terminated")
  | failed (wait : WaitFailed failing trail caller) (now : ended = true) (lastError : DWORD) :
      OwnError failing message trail ended caller (fatalError waitFailed ("failed: " ++ message lastError))
  | probed (wait : WaitFailed failing trail caller) (checkExist : DWORD) (other : checkExist ≠ waitObject0)
      (probe : Occurs (.call caller (.waitForSingleObject .threadHandle 0) checkExist) trail) :
      OwnError failing message trail ended caller (fatalError checkExist "thread terminated")

-- Where a caller stands, with what must have happened for it to stand there. Once
-- a value has been stored, m_val is a stored value.
def Reached (failing : Bool) (calls : Caller → Call E T) (trail : ManyTrail Caller E T) (world : PromiseExImpl E T)
    (caller : Caller) : Stage E T → Prop
  | .storingVal val => calls caller = .set val
  | .setting => Stored calls trail world.m_val
  | .storingException p => calls caller = .setException p
  | .testing => True
  | .rethrowing => world.m_exception ≠ none
  | .waiting => True
  | .failed => WaitFailed failing trail caller
  | .probing _ => WaitFailed failing trail caller
  | .explaining _ => WaitFailed failing trail caller ∧ world.ended = true
  | .loading => Woken trail caller ∧ Stored calls trail world.m_val
  | .finished (.ok none) => True
  | .finished (.ok (some val)) => Woken trail caller ∧ Stored calls trail val
  | .finished (.error (.rethrown p)) => Raised calls trail p
  | .finished (.error (.runtimeError what)) => OwnError failing world.message trail world.ended caller what
  | .finished (.error .undefined) => False

structure Facts (failing : Bool) (calls : Caller → Call E T) (trail : ManyTrail Caller E T) (world : PromiseExImpl E T)
    (stages : Caller → Stage E T) : Prop where
  signalled : world.signalled = true → Stored calls trail world.m_val
  exception : ∀ p, world.m_exception = some p → Raised calls trail p
  reached : ∀ caller, Reached failing calls trail world caller (stages caller)

theorem stored_later (calls : Caller → Call E T) (trail : ManyTrail Caller E T) (config : ManyConfig Caller E T)
    (label : ManyLabel Caller E T) (val : T) (stored : Stored calls trail val) :
    Stored calls ((config, label) :: trail) val := by
  obtain ⟨caller, call, occurs⟩ := stored
  exact ⟨caller, call, (occurs_cons _ label config trail).mpr (.inr occurs)⟩

theorem raised_later (calls : Caller → Call E T) (trail : ManyTrail Caller E T) (config : ManyConfig Caller E T)
    (label : ManyLabel Caller E T) (p : E) (raised : Raised calls trail p) : Raised calls ((config, label) :: trail) p := by
  obtain ⟨caller, call, occurs⟩ := raised
  exact ⟨caller, call, (occurs_cons _ label config trail).mpr (.inr occurs)⟩

theorem woken_later (trail : ManyTrail Caller E T) (config : ManyConfig Caller E T) (label : ManyLabel Caller E T)
    (caller : Caller) (woken : Woken trail caller) : Woken ((config, label) :: trail) caller := by
  obtain ⟨entry, member, woke⟩ := woken
  exact ⟨entry, List.mem_cons_of_mem _ member, woke⟩

theorem failed_later (failing : Bool) (trail : ManyTrail Caller E T) (config : ManyConfig Caller E T)
    (label : ManyLabel Caller E T) (caller : Caller) (failed : WaitFailed failing trail caller) :
    WaitFailed failing ((config, label) :: trail) caller :=
  ⟨failed.1, (occurs_cons _ label config trail).mpr (.inr failed.2)⟩

theorem own_error_later (failing : Bool) (message : DWORD → String) (trail : ManyTrail Caller E T)
    (config : ManyConfig Caller E T) (label : ManyLabel Caller E T) (ended later : Bool) (kept : ended = true → later = true)
    (caller : Caller) (what : String) (error : OwnError failing message trail ended caller what) :
    OwnError failing message ((config, label) :: trail) later caller what := by
  cases error with
  | terminated now => exact .terminated (kept now)
  | failed wait now lastError => exact .failed (failed_later failing trail config label caller wait) (kept now) lastError
  | probed wait checkExist other probe =>
      exact .probed (failed_later failing trail config label caller wait) checkExist other
        ((occurs_cons _ label config trail).mpr (.inr probe))

-- What every step leaves: an ended thread stays so, m_val stays stored, and a stored
-- exception is only replaced by another one.
structure Keeps (calls : Caller → Call E T) (trail : ManyTrail Caller E T) (config : ManyConfig Caller E T)
    (label : ManyLabel Caller E T) (later : PromiseExImpl E T) : Prop where
  ended : config.world.ended = true → later.ended = true
  exception : config.world.m_exception ≠ none → later.m_exception ≠ none
  message : later.message = config.world.message
  current : Stored calls trail config.world.m_val → Stored calls ((config, label) :: trail) later.m_val

theorem keeps_same (calls : Caller → Call E T) (trail : ManyTrail Caller E T) (config : ManyConfig Caller E T)
    (label : ManyLabel Caller E T) (later : PromiseExImpl E T) (ended : config.world.ended = true → later.ended = true)
    (exception : config.world.m_exception ≠ none → later.m_exception ≠ none)
    (message : later.message = config.world.message) (value : later.m_val = config.world.m_val) :
    Keeps calls trail config label later := by
  refine ⟨ended, exception, message, fun stored => ?_⟩
  rw [value]
  exact stored_later calls trail config label _ stored

theorem reached_later (failing : Bool) (calls : Caller → Call E T) (trail : ManyTrail Caller E T)
    (config : ManyConfig Caller E T) (label : ManyLabel Caller E T) (later : PromiseExImpl E T)
    (keeps : Keeps calls trail config label later) (caller : Caller) (stage : Stage E T)
    (reached : Reached failing calls trail config.world caller stage) :
    Reached failing calls ((config, label) :: trail) later caller stage := by
  cases stage with
  | storingVal val => exact reached
  | setting => exact keeps.current reached
  | storingException p => exact reached
  | testing => trivial
  | rethrowing => exact keeps.exception reached
  | waiting => trivial
  | failed => exact failed_later failing trail config label caller reached
  | probing lastError => exact failed_later failing trail config label caller reached
  | explaining lastError => exact ⟨failed_later failing trail config label caller reached.1, keeps.ended reached.2⟩
  | loading => exact ⟨woken_later trail config label caller reached.1, keeps.current reached.2⟩
  | finished result =>
      match result, reached with
      | .ok none, _ => trivial
      | .ok (some val), reached =>
          exact ⟨woken_later trail config label caller reached.1, stored_later calls trail config label val reached.2⟩
      | .error (.rethrown p), reached => exact raised_later calls trail config label p reached
      | .error (.runtimeError what), reached =>
          rw [Reached, keeps.message]
          exact own_error_later failing _ trail config label _ _ keeps.ended caller what reached
      | .error .undefined, reached => exact reached

def signal (config : ManyConfig Caller E T) : Nat := config.world.signalled.toNat

theorem signal_moves (failing : Bool) (world : PromiseExImpl E T) (caller : Caller) (stage : Stage E T)
    (op : PromiseOp E T) (reply : PromiseReply op) (moved : Stage E T) (moves : Moves failing world stage op reply moved) :
    let spent := (wakes (.call caller op reply)).toNat
    let gained := (publishes (.call caller op reply)).toNat
    (world.after op reply).signalled.toNat + spent ≤ world.signalled.toNat + gained ∧
      (0 < world.signalled.toNat + gained → 0 < (world.after op reply).signalled.toNat + spent) := by
  cases moves with
  | wakeEvent signalled =>
      rw [wait_after world _ event_succeeded]
      simp [wakes, publishes, signalled]
  | wakeThread unsignalled ended =>
      rw [wait_after world _ thread_succeeded]
      simp [wakes, publishes, unsignalled, waitObject0]
  | setEvent => simp [PromiseExImpl.after, wakes, publishes]
  | waitFails => simp [PromiseExImpl.after, wakes, publishes, waitFailed, waitObject0]
  | _ => simp [PromiseExImpl.after, wakes, publishes]

def Stage.past : Stage E T → Bool
  | .loading | .finished (.ok (some _)) => true
  | _ => false

theorem past_moves (failing : Bool) (world : PromiseExImpl E T) (caller : Caller) (stage : Stage E T)
    (op : PromiseOp E T) (reply : PromiseReply op) (moved : Stage E T) (moves : Moves failing world stage op reply moved)
    (past : stage.past = true ∨ wakes (.call caller op reply) = true) : moved.past = true := by
  cases moves with
  | wakeEvent | load => rfl
  | wakeThread | waitFails => rcases past with past | past <;> cases past
  | _ => simp [Stage.past, wakes] at past

theorem publishes_not_wakes (label : ManyLabel Caller E T) (published : publishes label = true) : wakes label = false := by
  cases label with
  | call caller op reply => cases op <;> first | rfl | cases published
  | event event => rfl

theorem blocked_waiting (config : ManyConfig Caller E T) (stages : Caller → Stage E T)
    (standing : ∀ caller, config.program caller = (stages caller).program) (caller : Caller)
    (blocked : Blocked (manyMachine false) config caller) :
    config.world.signalled = false ∧ (stages caller).past = false := by
  obtain ⟨op, next, current, unanswered⟩ := blocked
  have silent : ∀ reply, config.world.reply op ≠ some reply := fun reply answered => unanswered reply (.inl answered)
  have same := (standing caller).symm.trans current
  cases stage : stages caller with
  | waiting =>
      rw [stage] at same
      cases same
      refine ⟨?_, rfl⟩
      cases signalled : config.world.signalled with
      | false => rfl
      | true => exact absurd ((wait_reply config.world).trans (if_pos signalled)) (silent waitObject0)
  | testing =>
      rw [stage, testing_program] at same
      cases same
      exact absurd rfl (silent config.world.m_exception)
  | finished result =>
      rw [stage] at same
      cases same
  | _ =>
      rw [stage] at same
      cases same
      exact absurd rfl (silent _)

section Steps

variable [DecidableEq Caller]

theorem woken_moved (failing : Bool) (trail : ManyTrail Caller E T) (config : ManyConfig Caller E T)
    (stages : Caller → Stage E T) (woken : ∀ caller, Woken trail caller → (stages caller).past = true) (caller : Caller)
    (op : PromiseOp E T) (reply : PromiseReply op) (moved : Stage E T)
    (moves : Moves failing config.world (stages caller) op reply moved) (other : Caller)
    (now : Woken ((config, .call caller op reply) :: trail) other) :
    (Function.update stages caller moved other).past = true := by
  obtain ⟨entry, member, woke, who⟩ := now
  rcases List.mem_cons.mp member with here | earlier
  · subst here
    obtain rfl : caller = other := Option.some.inj who
    rw [Function.update_self]
    exact past_moves failing config.world caller _ op reply moved moves (.inr woke)
  · have before := woken other ⟨entry, earlier, woke, who⟩
    by_cases mine : other = caller
    · subst mine
      rw [Function.update_self]
      exact past_moves failing config.world other _ op reply moved moves (.inl before)
    · rw [Function.update_of_ne mine]
      exact before

theorem facts_later (failing : Bool) (calls : Caller → Call E T) (trail : ManyTrail Caller E T)
    (config : ManyConfig Caller E T) (stages : Caller → Stage E T)
    (facts : Facts failing calls trail config.world stages) (caller : Caller) (op : PromiseOp E T)
    (reply : PromiseReply op) (later : PromiseExImpl E T) (moved : Stage E T)
    (keeps : Keeps calls trail config (.call caller op reply) later)
    (signalled : later.signalled = true → Stored calls ((config, .call caller op reply) :: trail) later.m_val)
    (exception : later.m_exception = config.world.m_exception ∨
      ∃ p, later.m_exception = some p ∧ Raised calls ((config, .call caller op reply) :: trail) p)
    (reached : Reached failing calls ((config, .call caller op reply) :: trail) later caller moved) :
    Facts failing calls ((config, .call caller op reply) :: trail) later (Function.update stages caller moved) := by
  refine ⟨signalled, fun p stored => ?_, fun other => ?_⟩
  · rcases exception with same | ⟨q, replaced, raised⟩
    · exact raised_later calls trail config _ p (facts.exception p (same.symm.trans stored))
    · obtain rfl : q = p := Option.some.inj (replaced.symm.trans stored)
      exact raised
  · by_cases mine : other = caller
    · subst mine
      rw [Function.update_self]
      exact reached
    · rw [Function.update_of_ne mine]
      exact reached_later failing calls trail config _ later keeps other _ (facts.reached other)

theorem facts_local (failing : Bool) (calls : Caller → Call E T) (trail : ManyTrail Caller E T)
    (config : ManyConfig Caller E T) (stages : Caller → Stage E T)
    (facts : Facts failing calls trail config.world stages) (caller : Caller) (op : PromiseOp E T)
    (reply : PromiseReply op) (moved : Stage E T) (same : config.world.after op reply = config.world)
    (reached : Reached failing calls ((config, .call caller op reply) :: trail) config.world caller moved) :
    Facts failing calls ((config, .call caller op reply) :: trail) (config.world.after op reply)
      (Function.update stages caller moved) := by
  rw [same]
  have keeps : Keeps calls trail config (.call caller op reply) config.world := keeps_same calls trail config _ _ id id rfl rfl
  exact facts_later failing calls trail config stages facts caller op reply _ moved keeps
    (fun yes => keeps.current (facts.signalled yes)) (.inl rfl) reached

theorem facts_moved (failing : Bool) (calls : Caller → Call E T) (trail : ManyTrail Caller E T)
    (config : ManyConfig Caller E T) (stages : Caller → Stage E T)
    (facts : Facts failing calls trail config.world stages) (caller : Caller) (stage : Stage E T)
    (op : PromiseOp E T) (reply : PromiseReply op) (moved : Stage E T) (standing : stages caller = stage)
    (moves : Moves failing config.world stage op reply moved) :
    Facts failing calls ((config, .call caller op reply) :: trail) (config.world.after op reply)
      (Function.update stages caller moved) := by
  have here := facts.reached caller
  rw [standing] at here
  have now : Occurs (.call caller op reply) ((config, .call caller op reply) :: trail) :=
    (occurs_cons _ _ config trail).mpr (.inl rfl)
  cases moves with
  | storeVal val =>
      have stored : Stored calls ((config, .call caller (.storeVal val) ()) :: trail) val := ⟨caller, here, now⟩
      exact facts_later failing calls trail config stages facts caller _ _ _ _ ⟨id, id, rfl, fun _ => stored⟩
        (fun _ => stored) (.inl rfl) stored
  | setEvent =>
      have keeps : Keeps calls trail config (.call caller .setEvent true) (config.world.after .setEvent true) :=
        keeps_same calls trail config _ _ id id rfl rfl
      exact facts_later failing calls trail config stages facts caller _ _ _ _ keeps (fun _ => keeps.current here)
        (.inl rfl) trivial
  | storeException p =>
      have keeps : Keeps calls trail config (.call caller (.storeException (some p)) ())
          (config.world.after (.storeException (some p)) ()) :=
        keeps_same calls trail config _ _ id (fun _ => Option.some_ne_none p) rfl rfl
      have raised : Raised calls ((config, .call caller (.storeException (some p)) ()) :: trail) p := ⟨caller, here, now⟩
      exact facts_later failing calls trail config stages facts caller _ _ _ _ keeps
        (fun yes => keeps.current (facts.signalled yes)) (.inr ⟨p, rfl, raised⟩) trivial
  | setFails => exact facts_local failing calls trail config stages facts caller _ _ _ rfl trivial
  | testStored p stored =>
      refine facts_local failing calls trail config stages facts caller _ _ _ rfl ?_
      exact fun empty => Option.some_ne_none p (stored.symm.trans empty)
  | testEmpty => exact facts_local failing calls trail config stages facts caller _ _ _ rfl trivial
  | rethrow p stored =>
      exact facts_local failing calls trail config stages facts caller _ _ _ rfl
        (raised_later calls trail config _ p (facts.exception p stored))
  | rethrowNull empty => exact absurd empty here
  | wakeEvent signalled =>
      rw [wait_after _ _ event_succeeded]
      have keeps : Keeps calls trail config (.call caller (.waitForMultipleObjects handles) waitObject0)
          { config.world with signalled := false } := keeps_same calls trail config _ _ id id rfl rfl
      exact facts_later failing calls trail config stages facts caller _ _ _ _ keeps (fun yes => by cases yes) (.inl rfl)
        ⟨⟨_, List.mem_cons_self, by simp [wakes], rfl⟩, keeps.current (facts.signalled signalled)⟩
  | wakeThread unsignalled ended =>
      rw [wait_after _ _ thread_succeeded]
      have keeps : Keeps calls trail config (.call caller (.waitForMultipleObjects handles) (waitObject0 + 1))
          { config.world with signalled := false } := keeps_same calls trail config _ _ id id rfl rfl
      exact facts_later failing calls trail config stages facts caller _ _ _ _ keeps (fun yes => by cases yes) (.inl rfl)
        (.terminated ended)
  | waitFails allowed => exact facts_local failing calls trail config stages facts caller _ _ _ rfl ⟨allowed, now⟩
  | lastError error =>
      exact facts_local failing calls trail config stages facts caller _ _ _ rfl
        (failed_later failing trail config _ caller here)
  | probeEnded lastError ended =>
      exact facts_local failing calls trail config stages facts caller _ _ _ rfl
        ⟨failed_later failing trail config _ caller here, ended⟩
  | probeOther lastError checkExist other =>
      exact facts_local failing calls trail config stages facts caller _ _ _ rfl
        (.probed (failed_later failing trail config _ caller here) checkExist other now)
  | explain lastError =>
      exact facts_local failing calls trail config stages facts caller _ _ _ rfl
        (.failed (failed_later failing trail config _ caller here.1) here.2 lastError)
  | load =>
      exact facts_local failing calls trail config stages facts caller _ _ _ rfl
        ⟨woken_later trail config _ caller here.1, stored_later calls trail config _ _ here.2⟩

variable [OfNat T 0]

theorem facts_run (failing : Bool) (message : DWORD → String) (calls : Caller → Call E T) (trail : ManyTrail Caller E T)
    (config : ManyConfig Caller E T) (run : Run (manyRuns failing message calls) trail config) :
    ∃ stages, (∀ caller, config.program caller = (stages caller).program) ∧ config.world.message = message ∧
      Facts failing calls trail config.world stages ∧ ∀ caller, Woken trail caller → (stages caller).past = true := by
  refine run_invariant (manyRuns failing message calls) (fun trail config => ∃ stages,
    (∀ caller, config.program caller = (stages caller).program) ∧ config.world.message = message ∧
      Facts failing calls trail config.world stages ∧ ∀ caller, Woken trail caller → (stages caller).past = true)
    ?_ ?_ trail config run
  · intro start initial
    obtain rfl := initial
    refine ⟨fun caller => Stage.ofCall (calls caller), fun caller => make_call_run (calls caller), rfl,
      ⟨?_, ?_, fun caller => ?_⟩, ?_⟩
    · simp [fresh]
    · simp [fresh]
    · cases call : calls caller with
      | set val => exact call
      | setException p => exact call
      | get => trivial
    · simp [Woken]
  · intro trail before label after _ earlier taken
    obtain ⟨stages, standing, texts, facts, woken⟩ := earlier
    cases taken with
    | call caller op next reply current answered =>
        obtain ⟨moved, moves, left⟩ :=
          stage_moves failing before.world (stages caller) op next reply ((standing caller).symm.trans current) answered
        refine ⟨Function.update stages caller moved, fun other => ?_, (after_message before.world op reply).trans texts,
          facts_moved failing calls trail before stages facts caller _ op reply moved rfl moves,
          woken_moved failing trail before stages woken caller op reply moved moves⟩
        by_cases mine : other = caller
        · subst mine
          rw [resumed_here, Function.update_self, left]
        · rw [resumed_elsewhere before _ caller other _ mine, Function.update_of_ne mine]
          exact standing other
    | event event later moved =>
        obtain rfl := moved
        have keeps : Keeps calls trail before (.event event) { before.world with ended := true } :=
          keeps_same calls trail before _ _ (fun _ => rfl) id rfl rfl
        refine ⟨stages, standing, texts, ⟨fun yes => keeps.current (facts.signalled yes), fun p stored => ?_,
          fun caller => ?_⟩, fun caller now => ?_⟩
        · exact raised_later calls trail before _ p (facts.exception p stored)
        · exact reached_later failing calls trail before _ _ keeps caller _ (facts.reached caller)
        · obtain ⟨entry, member, woke, who⟩ := now
          rcases List.mem_cons.mp member with here | earlier
          · subst here
            cases woke
          · exact woken caller ⟨entry, earlier, woke, who⟩

theorem finished_of_returned (failing : Bool) (message : DWORD → String) (calls : Caller → Call E T)
    (trail : ManyTrail Caller E T) (config : ManyConfig Caller E T) (run : Run (manyRuns failing message calls) trail config)
    (caller : Caller) (result : Result E T) (returned : Returned config caller result) :
    Reached failing calls trail config.world caller (.finished result) := by
  obtain ⟨stages, standing, _, facts, _⟩ := facts_run failing message calls trail config run
  have reached := facts.reached caller
  have same := (standing caller).symm.trans returned
  cases stage : stages caller with
  | finished other =>
      rw [stage] at same reached
      cases same
      exact reached
  | testing =>
      rw [stage, testing_program] at same
      cases same
  | _ =>
      rw [stage] at same
      cases same

theorem step_signal (failing : Bool) (message : DWORD → String) (calls : Caller → Call E T) (trail : ManyTrail Caller E T)
    (before after : ManyConfig Caller E T) (label : ManyLabel Caller E T)
    (run : Run (manyRuns failing message calls) trail before)
    (taken : (manyRuns failing message calls).step before label after) :
    signal after + (wakes label).toNat ≤ signal before + (publishes label).toNat ∧
      (0 < signal before + (publishes label).toNat → 0 < signal after + (wakes label).toNat) := by
  cases taken with
  | call caller op next reply current answered =>
      obtain ⟨stages, standing, _⟩ := facts_run failing message calls trail before run
      obtain ⟨moved, moves, _⟩ :=
        stage_moves failing before.world (stages caller) op next reply ((standing caller).symm.trans current) answered
      exact signal_moves failing before.world caller _ op reply moved moves
  | event event later moved =>
      obtain rfl := moved
      exact ⟨Nat.le_refl _, id⟩

theorem set_kept (failing : Bool) (message : DWORD → String) (calls : Caller → Call E T) (trail : ManyTrail Caller E T)
    (config : ManyConfig Caller E T) (run : Run (manyRuns failing message calls) trail config)
    (later earlier : ManyTrail Caller E T) (before : ManyConfig Caller E T) (label : ManyLabel Caller E T)
    (parts : trail = later ++ (before, label) :: earlier) (published : publishes label = true) :
    0 < signal config + tally wakes later := by
  revert later earlier before label
  refine run_invariant (manyRuns failing message calls) (fun trail config =>
    ∀ later earlier before label, trail = later ++ (before, label) :: earlier → publishes label = true →
      0 < signal config + tally wakes later) ?_ ?_ trail config run
  · intro start initial later earlier before label parts
    simp at parts
  · intro trail from_ taken after previous ih step later earlier before label parts published
    have moved := (step_signal failing message calls trail from_ after taken previous step).2
    cases later with
    | nil =>
        obtain ⟨⟨-, rfl⟩, -⟩ : (from_ = before ∧ taken = label) ∧ trail = earlier := by simpa using parts
        rw [published, publishes_not_wakes taken published] at moved
        simpa using moved (by simp)
    | cons entry later =>
        obtain ⟨rfl, rest⟩ := List.cons.inj parts
        have kept := ih later earlier before label rest published
        rw [tally_cons]
        by_cases still : 0 < signal from_
        · have here := moved (by omega)
          omega
        · omega

theorem one_getter_a_set (failing : Bool) (message : DWORD → String) (calls : Caller → Call E T)
    (trail : ManyTrail Caller E T) (config : ManyConfig Caller E T)
    (run : Run (manyRuns failing message calls) trail config) :
    (∀ callers : List Caller, callers.Nodup → (∀ caller ∈ callers, ∃ val, Returned config caller (.ok (some val))) →
        callers.length ≤ tally publishes trail) ∧
      ∀ caller, Blocked (manyMachine false) config caller → ∀ later earlier before label,
        trail = later ++ (before, label) :: earlier → publishes label = true →
          ∃ other, other ≠ caller ∧ Woken later other := by
  refine ⟨fun callers distinct delivered => ?_, fun caller blocked later earlier before label parts published => ?_⟩
  · have bound : signal config + tally wakes trail ≤ 0 + tally publishes trail := by
      refine tally_bound (manyRuns failing message calls) signal 0 publishes wakes ?_ ?_ trail config run
      · intro start initial
        obtain rfl := initial
        simp [signal, fresh]
      · intro before label after reachable taken
        obtain ⟨earlier, previous⟩ := reachable
        exact (step_signal failing message calls earlier before after label previous taken).1
    have woken := distinct_le_tally wakes callerOf callers distinct trail fun caller member => by
      obtain ⟨val, returned⟩ := delivered caller member
      exact (finished_of_returned failing message calls trail config run caller _ returned).1
    omega
  · obtain ⟨stages, standing, _, _, woken⟩ := facts_run failing message calls trail config run
    obtain ⟨unsignalled, waits⟩ := blocked_waiting config stages standing caller blocked
    have kept := set_kept failing message calls trail config run later earlier before label parts published
    rw [signal, unsignalled] at kept
    have some_wake : 0 < tally wakes later := by simpa using kept
    obtain ⟨⟨state, label⟩, member, woke⟩ := List.countP_pos_iff.mp some_wake
    cases label with
    | event event => simp [wakes] at woke
    | call other op reply =>
        refine ⟨other, fun same => ?_, _, member, woke, rfl⟩
        have past := woken other ⟨_, parts ▸ List.mem_append_left _ member, woke, rfl⟩
        rw [same, waits] at past
        cases past

end Steps

def threeCalls : Option Bool → Call Nat Nat
  | none => .set 5
  | some _ => .get

theorem one_woken : ∃ trail config, Run (manyRuns true (fun _ => "") threeCalls) trail config ∧
    Returned config (some true) (.ok (some 5)) ∧ Blocked (manyMachine false) config (some false) ∧
    ∃ later earlier before, trail = later ++ (before, .call none .setEvent true) :: earlier := by
  have start : Run (manyRuns true (fun _ => "") threeCalls) [] _ := .start _ rfl
  have stored := run_call _ _ _ _ start none (.storeVal 5) _ () rfl (.inl rfl)
  have published := run_call _ _ _ _ stored none .setEvent _ true rfl (.inl rfl)
  have tested := run_call _ _ _ _ published (some true) .loadException _ none rfl (.inl rfl)
  have woken := run_call _ _ _ _ tested (some true) (.waitForMultipleObjects handles) _ waitObject0 rfl (.inl rfl)
  have loaded := run_call _ _ _ _ woken (some true) .loadVal _ 5 rfl (.inl rfl)
  have late := run_call _ _ _ _ loaded (some false) .loadException _ none rfl (.inl rfl)
  refine ⟨_, _, late, rfl, ⟨_, _, rfl, ?_⟩, [_, _, _, _], [_], _, rfl⟩
  intro reply answered
  rcases answered with answered | ⟨impossible, _⟩
  · cases answered
  · cases impossible

theorem one_getter_a_set_sample : ∃ trail config, Run (manyRuns true (fun _ => "") threeCalls) trail config ∧
    1 ≤ tally publishes trail ∧ ∃ other, other ≠ some false ∧ Woken trail other := by
  obtain ⟨trail, config, run, returned, blocked, later, earlier, before, parts⟩ := one_woken
  have bounds := one_getter_a_set true (fun _ => "") threeCalls trail config run
  refine ⟨trail, config, run, bounds.1 [some true] (by simp) fun caller member => ?_, ?_⟩
  · obtain rfl : caller = some true := by simpa using member
    exact ⟨5, returned⟩
  · obtain ⟨other, different, entry, member, woke⟩ := bounds.2 (some false) blocked later earlier before _ parts rfl
    exact ⟨other, different, entry, parts ▸ List.mem_append_left _ member, woke⟩

end Rcp.Threads.PromiseMany
