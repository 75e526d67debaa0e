import RcpLib.Semantics.Pool
import RcpLib.Threads.PromiseStd
import RcpLib.Threads.Thread

set_option autoImplicit false

namespace Rcp.Threads.Start

open Semantics PromiseStd

inductive Party where
  | creator
  | newThread
deriving DecidableEq, Repr

inductive Thrown where
  | systemError (code : Int) (what : String)
  | futureError (code : FutureErrc)
deriving DecidableEq, Repr

-- The steps of the constructor with a callable and of threadProc. A call of the
-- user callable is two steps, so that other steps can fall between them. Each party
-- has one unique_ptr to the Callable; callablePtrOwns is the test of its destructor.
inductive StartOp where
  | makePromise
  | makeCallable (started : Bool)
  | createThread
  | releaseCallable
  | callablePtrOwns
  | destroyCallable
  | getFuture
  | futureGet
  | dropStarted
  | takeCallable
  | loadStarted
  | setStarted
  | enterCallable
  | leaveCallable
deriving DecidableEq

@[reducible] def StartReply : StartOp → Type
  | .createThread => Except Int (HANDLE × ThreadId)
  | .callablePtrOwns => Bool
  | .getFuture => Except FutureErrc Unit
  | .setStarted => Except FutureErrc Unit
  | .loadStarted => Bool
  | _ => Unit

abbrev StartM := ExceptT Thrown (Program StartOp StartReply)

abbrev callStart (op : StartOp) : StartM (StartReply op) := ExceptT.lift (perform op)

def destroyCallablePtr : Program StartOp StartReply Unit := do
  if ← perform StartOp.callablePtrOwns then
    perform StartOp.destroyCallable

def destroyStarted (started : Bool) : Program StartOp StartReply Unit := do
  if started then
    perform StartOp.dropStarted

def initializeThread : StartM (HANDLE × ThreadId) := do
  match ← callStart .createThread with
  | .error code => throw (.systemError code "create thread failure")
  | .ok created =>
      callStart .releaseCallable
      return created

-- started->get_future().get() on a promise that nobody breaks.
def waitForStarted : StartM Unit := do
  match ← callStart .getFuture with
  | .error code => throw (.futureError code)
  | .ok () => callStart .futureGet

def constructor (startStrategy : StartStrategy) : StartM (HANDLE × ThreadId) :=
  let started := startStrategy == .wait
  withDestructor (destroyStarted started) do
    if started then
      callStart .makePromise
    let created ← withDestructor destroyCallablePtr do
      callStart (.makeCallable started)
      initializeThread
    if started then
      waitForStarted
    return created

def execute : StartM Unit := do
  if ← callStart .loadStarted then
    if let .error code ← callStart .setStarted then
      throw (.futureError code)
  callStart .enterCallable
  callStart .leaveCallable

def threadProc : StartM Unit :=
  withDestructor destroyCallablePtr do
    callStart .takeCallable
    execute

-- The shared references to the promise, the promise, whether the CallableImpl
-- exists and holds a reference, whether the thread has been created, and whether
-- the unique_ptr of each party holds the Callable.
structure World where
  refs : Nat
  promise : Promise Unit Unit
  live : Bool
  carries : Bool
  created : Bool
  creatorOwns : Bool
  threadOwns : Bool

def World.initial : World := ⟨0, Promise.fresh, false, false, false, false, false⟩

def World.owns (self : World) : Party → Bool
  | .creator => self.creatorOwns
  | .newThread => self.threadOwns

def World.setOwns (self : World) (owns : Bool) : Party → World
  | .creator => { self with creatorOwns := owns }
  | .newThread => { self with threadOwns := owns }

def replied {α : Type} (result : Except FutureErrc α) : Except FutureErrc Unit := result.map fun _ => ()

def World.answers (self : World) (party : Party) : (op : StartOp) → StartReply op → Prop
  | .callablePtrOwns, reply => reply = self.owns party
  | .getFuture, reply => reply = replied self.promise.getFuture
  | .setStarted, reply => reply = replied (self.promise.setValue ())
  | .futureGet, _ => self.promise.result ≠ none
  | .loadStarted, reply => reply = self.carries
  | _, _ => True

def updated (self : Promise Unit Unit) (result : Except FutureErrc (Promise Unit Unit)) : Promise Unit Unit :=
  match result with
  | .ok later => later
  | .error _ => self

def World.after (self : World) (party : Party) : (op : StartOp) → StartReply op → World
  | .makePromise, _ => { self with refs := 1, promise := Promise.fresh }
  | .makeCallable started, _ =>
      { self with refs := self.refs + started.toNat, live := true, carries := started }.setOwns true party
  | .createThread, .ok _ => { self with created := true }
  | .releaseCallable, _ => self.setOwns false party
  | .takeCallable, _ => self.setOwns true party
  | .destroyCallable, _ => { self with refs := self.refs - self.carries.toNat, live := false }.setOwns false party
  | .getFuture, _ => { self with promise := updated self.promise self.promise.getFuture }
  | .setStarted, _ => { self with promise := updated self.promise (self.promise.setValue ()) }
  | .dropStarted, _ => { self with refs := self.refs - 1 }
  | _, _ => self

def startMachine : Machine Party StartOp StartReply World Empty where
  handler
    | .creator => ⟨fun world => world.answers .creator, fun world => world.after .creator⟩
    | .newThread =>
        ⟨fun world op reply => world.created = true ∧ world.answers .newThread op reply, fun world => world.after .newThread⟩
  moves _ event _ := event.elim

@[reducible] def Res : Party → Type
  | .creator => Except Thrown (HANDLE × ThreadId)
  | .newThread => Except Thrown Unit

abbrev Shared := Config Party StartOp StartReply World Res

abbrev Label := PoolLabel Party StartOp StartReply Empty

def programs (startStrategy : StartStrategy) : (party : Party) → Program StartOp StartReply (Res party)
  | .creator => (constructor startStrategy).run
  | .newThread => threadProc.run

def startRuns (startStrategy : StartStrategy) : Lts Shared Label :=
  pool startMachine fun config => config = ⟨World.initial, programs startStrategy⟩

end Rcp.Threads.Start
