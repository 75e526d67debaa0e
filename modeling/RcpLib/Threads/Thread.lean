import RcpLib.Threads.ThreadWin
import RcpLib.Threads.ThreadMac

set_option autoImplicit false

namespace Rcp.Threads

open Semantics Method

structure Platform where
  initializeThread : Member (HANDLE × ThreadId)
  joinImpl : Member Unit
  detachImpl : Member Unit
  terminateImpl : Member Unit

inductive Backend where
  | win
  | mac
deriving DecidableEq, Repr

def Backend.platform : Backend → Platform
  | .win => ⟨Win.initializeThread, Win.joinImpl, Win.detachImpl, Win.terminateImpl⟩
  | .mac => ⟨Mac.initializeThread, Mac.joinImpl, Mac.detachImpl, Mac.terminateImpl⟩

inductive StartStrategy where
  | wait
  | noWait
deriving DecidableEq, Repr

namespace Thread

def joinable (self : Thread) : Bool := self.handle != 0

def resetHandleAndId : Member Unit := assign Thread.none

-- The constructor with a callable, as far as the two fields are concerned.
def start (platform : Platform) (startStrategy : StartStrategy) : Member Unit := do
  let (handle, id) ← platform.initializeThread
  assign ⟨handle, id⟩
  if startStrategy = .wait then
    callOs .waitForStarted

-- `caller` is std::this_thread::get_id().
def join (platform : Platform) (caller : ThreadId) : Member Unit := do
  let self ← this
  if self.joinable then
    if caller = self.id then
      raise .crash
    else
      platform.joinImpl
      resetHandleAndId

theorem joinable_iff (self : Thread) : self.joinable = true ↔ self.handle ≠ 0 := by
  simp [joinable]

def andReset (implementation : Member Unit) (self : Thread) : Program OsCall OsReply (Except Failure Unit × Thread) :=
  implementation.run self >>= resume fun _ => resetHandleAndId

theorem join_run (platform : Platform) (caller : ThreadId) (self : Thread) :
    (join platform caller).run self =
      if self.joinable then
        if caller = self.id then .ret (.error .crash, self) else andReset platform.joinImpl self
      else .ret (.ok (), self) := by
  simp only [join, run_this_bind, run_ite, run_raise, run_pure]
  rfl

def detach (platform : Platform) : Member Unit := do
  let self ← this
  if self.joinable then
    platform.detachImpl
    resetHandleAndId

theorem detach_run (platform : Platform) (self : Thread) :
    (detach platform).run self =
      if self.joinable then andReset platform.detachImpl self else .ret (.ok (), self) := by
  simp only [detach, run_this_bind, run_ite, run_pure]
  rfl

def terminate (platform : Platform) : Member Unit := do
  let self ← this
  if self.joinable then
    platform.terminateImpl
    resetHandleAndId

theorem terminate_run (platform : Platform) (self : Thread) :
    (terminate platform).run self =
      if self.joinable then andReset platform.terminateImpl self else .ret (.ok (), self) := by
  simp only [terminate, run_this_bind, run_ite, run_pure]
  rfl

-- The members below call nothing, and work on the two objects at once.
def swap (self other : Thread) : Thread × Thread := (⟨other.handle, other.id⟩, ⟨self.handle, self.id⟩)

def moveConstruct (other : Thread) : Thread × Thread := swap Thread.none other

def moveAssign (self other : Thread) : Except Failure (Thread × Thread) :=
  if self.joinable then .error .crash else .ok (swap self other)

def destroy (self : Thread) : Except Failure Unit :=
  if self.joinable then .error .crash else .ok ()

end Thread

end Rcp.Threads
