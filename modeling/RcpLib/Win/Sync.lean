import RcpLib.Semantics.GhostRun
import RcpLib.Semantics.RecursiveLock
import RcpLib.Threads.Os

set_option autoImplicit false

namespace Rcp.Win

open Semantics Rcp.Threads

-- The dynamic type of a SyncObject, with what an Event was constructed with.
inductive SyncClass where
  | criticalSection
  | event (initiallyOwn manualReset : Bool)
deriving DecidableEq, Repr

inductive Thrown (E : Type) where
  | runtimeError (what : String)
  | user (exception : E)
deriving DecidableEq, Repr

-- The Win32 calls of the sync objects, and the accesses of the user's code to the
-- datum that goes with an object.
inductive SyncOp (Obj V : Type) where
  | enterCriticalSection (obj : Obj)
  | leaveCriticalSection (obj : Obj)
  | waitForSingleObject (obj : Obj) (milliseconds : DWORD)
  | setEvent (obj : Obj)
  | resetEvent (obj : Obj)
  | load (obj : Obj)
  | store (obj : Obj) (val : V)

@[reducible] def SyncReply {Obj V : Type} : SyncOp Obj V → Type
  | .enterCriticalSection _ => Unit
  | .leaveCriticalSection _ => Unit
  | .waitForSingleObject _ _ => DWORD
  | .setEvent _ => Bool
  | .resetEvent _ => Bool
  | .load _ => V
  | .store _ _ => Unit

variable {Party Obj V E α : Type}

abbrev SyncM (Obj V E : Type) := ExceptT (Thrown E) (Program (SyncOp Obj V) SyncReply)

abbrev callSync (op : SyncOp Obj V) : SyncM Obj V E (SyncReply op) := ExceptT.lift (perform op)

def SyncObject.lock (obj : Obj) (dwTimeout : DWORD) : SyncM Obj V E Bool := do
  let ret ← callSync (.waitForSingleObject obj dwTimeout)
  if ret = waitObject0 ∨ ret = waitAbandoned then
    return true
  return false

def CriticalSection.lock (obj : Obj) (_ : DWORD) : SyncM Obj V E Bool := do
  callSync (.enterCriticalSection obj)
  return true

def CriticalSection.unlock (obj : Obj) : SyncM Obj V E Bool := do
  callSync (.leaveCriticalSection obj)
  return true

def Event.unlock (_ : Obj) : SyncM Obj V E Bool := return true

def Event.set (obj : Obj) : SyncM Obj V E Bool := callSync (.setEvent obj)

def Event.reset (obj : Obj) : SyncM Obj V E Bool := callSync (.resetEvent obj)

-- The virtual functions Lock and Unlock. Event does not override Lock.
def SyncClass.lock : SyncClass → Obj → DWORD → SyncM Obj V E Bool
  | .criticalSection => CriticalSection.lock
  | .event _ _ => SyncObject.lock

def SyncClass.unlock : SyncClass → Obj → SyncM Obj V E Bool
  | .criticalSection => CriticalSection.unlock
  | .event _ _ => Event.unlock

namespace SyncLock

def construct (classOf : Obj → SyncClass) (obj : Obj) : SyncM Obj V E Unit := do
  if !(← (classOf obj).lock obj infinite) then
    throw (.runtimeError "Unable to lock sync object.")

def destroy (classOf : Obj → SyncClass) (obj : Obj) : SyncM Obj V E Unit := do
  let _ ← (classOf obj).unlock obj

-- A scope that begins with a SyncLock on the stack. Its destructor runs when the
-- scope returns and when an exception leaves it.
def scope (classOf : Obj → SyncClass) (obj : Obj) (body : SyncM Obj V E α) : SyncM Obj V E α := do
  construct classOf obj
  let result ← ExceptT.lift body.run
  destroy classOf obj
  ExceptT.mk (pure result)

end SyncLock

-- Code over the sync objects. Lock and Unlock are not public, so only a SyncLock calls
-- them; ObjHandle is. `sets` are the events on which the code may call Set.
inductive Client (classOf : Obj → SyncClass) (sets : Obj → Prop) : {α : Type} → SyncM Obj V E α → Prop where
  | pure {α : Type} (value : α) : Client classOf sets (pure value)
  | throw {α : Type} (thrown : Thrown E) : Client classOf sets (throw thrown : SyncM Obj V E α)
  | bind {α β : Type} (body : SyncM Obj V E α) (next : α → SyncM Obj V E β) (first : Client classOf sets body)
      (later : ∀ value, Client classOf sets (next value)) : Client classOf sets (body >>= next)
  | tryCatch {α : Type} (body : SyncM Obj V E α) (handle : Thrown E → SyncM Obj V E α) (first : Client classOf sets body)
      (later : ∀ thrown, Client classOf sets (handle thrown)) : Client classOf sets (tryCatch body handle)
  | scope {α : Type} (obj : Obj) (body : SyncM Obj V E α) (inner : Client classOf sets body) :
      Client classOf sets (SyncLock.scope classOf obj body)
  | set (obj : Obj) (event : classOf obj ≠ .criticalSection) (allowed : sets obj) : Client classOf sets (Event.set obj)
  | reset (obj : Obj) (event : classOf obj ≠ .criticalSection) : Client classOf sets (Event.reset obj)
  | wait (obj : Obj) (milliseconds : DWORD) (event : classOf obj ≠ .criticalSection) :
      Client classOf sets (callSync (.waitForSingleObject obj milliseconds))
  | load (obj : Obj) : Client classOf sets (callSync (.load obj))
  | store (obj : Obj) (val : V) : Client classOf sets (callSync (.store obj val))

structure Sync (Party Obj V : Type) where
  m_sect : Obj → RecursiveLock Party
  signalled : Obj → Bool
  data : Obj → V
  stopped : Party → Bool

-- A stopped thread performs nothing. EnterCriticalSection waits while another
-- thread owns the section. A wait may fail at any time; no other wait than one for
-- a mutex is abandoned.
def Sync.answers [DecidableEq Party] (self : Sync Party Obj V) (party : Party) : (op : SyncOp Obj V) → SyncReply op → Prop
  | .enterCriticalSection obj, _ => self.stopped party = false ∧ (self.m_sect obj).available party = true
  | .waitForSingleObject obj milliseconds, reply => self.stopped party = false ∧
      (reply = waitObject0 ∧ self.signalled obj = true ∨ reply = waitTimeout ∧ milliseconds ≠ infinite ∨ reply = waitFailed)
  | .load obj, reply => self.stopped party = false ∧ reply = self.data obj
  | _, _ => self.stopped party = false

theorem running_of_answers [DecidableEq Party] (world : Sync Party Obj V) (party : Party) (op : SyncOp Obj V)
    (reply : SyncReply op) (answered : world.answers party op reply) : world.stopped party = false := by
  cases op with
  | enterCriticalSection | waitForSingleObject | load => exact answered.1
  | leaveCriticalSection | setEvent | resetEvent | store => exact answered

def Sync.after [DecidableEq Party] [DecidableEq Obj] (classOf : Obj → SyncClass) (self : Sync Party Obj V) (party : Party) :
    (op : SyncOp Obj V) → SyncReply op → Sync Party Obj V
  | .enterCriticalSection obj, _ =>
      { self with m_sect := Function.update self.m_sect obj ((self.m_sect obj).acquire party) }
  | .leaveCriticalSection obj, _ =>
      { self with m_sect := Function.update self.m_sect obj ((self.m_sect obj).release party) }
  | .waitForSingleObject obj _, reply =>
      match classOf obj with
      | .event _ false =>
          if reply = waitObject0 then { self with signalled := Function.update self.signalled obj false } else self
      | _ => self
  | .setEvent obj, true => { self with signalled := Function.update self.signalled obj true }
  | .resetEvent obj, true => { self with signalled := Function.update self.signalled obj false }
  | .store obj val, _ => { self with data := Function.update self.data obj val }
  | _, _ => self

theorem wait_signals [DecidableEq Party] [DecidableEq Obj] (classOf : Obj → SyncClass) (world : Sync Party Obj V)
    (party : Party) (obj : Obj) (milliseconds reply : DWORD) :
    ∃ signalled, world.after classOf party (.waitForSingleObject obj milliseconds) reply = { world with signalled } ∧
      ∀ other, other ≠ obj → signalled other = world.signalled other := by
  dsimp only [Sync.after]
  split
  · split
    · exact ⟨_, rfl, fun other different => Function.update_of_ne different false world.signalled⟩
    · exact ⟨world.signalled, rfl, fun _ _ => rfl⟩
  · exact ⟨world.signalled, rfl, fun _ _ => rfl⟩

-- From outside, a thread may be terminated while it owns no section; what a section
-- is after its owner has been terminated is undefined.
def syncMachine [DecidableEq Party] [DecidableEq Obj] (classOf : Obj → SyncClass) :
    Machine Party (SyncOp Obj V) SyncReply (Sync Party Obj V) Party where
  handler party := ⟨fun world op reply => world.answers party op reply,
    fun world op reply => world.after classOf party op reply⟩
  moves world party later := (∀ obj, (world.m_sect obj).depth party = 0) ∧
    later = { world with stopped := Function.update world.stopped party true }

def SyncClass.initially : SyncClass → Bool
  | .criticalSection => false
  | .event initiallyOwn _ => initiallyOwn

def constructed (classOf : Obj → SyncClass) (data : Obj → V) : Sync Party Obj V :=
  ⟨fun _ => .free, fun obj => (classOf obj).initially, data, fun _ => false⟩

end Rcp.Win
