import Mathlib.Data.Int.Init
import RcpLib.Threads.Os

set_option autoImplicit false

namespace Rcp.Threads.Win

open Semantics Method

-- {:#010x}: the prefix 0x and at least eight digits.
def hexText (value : DWORD) : String :=
  "0x" ++ String.ofList ((Nat.toDigits 16 value.toNat).leftpad 8 '0')

def impossible : String := "Impossible situation but happens..."

def waitText (waitResult : DWORD) : String :=
  if waitResult = waitTimeout then s!"waitForThread failed with error WAIT_TIMEOUT. {impossible}"
  else if waitResult = waitAbandoned then
    s!"waitForThread failed with error WAIT_ABANDONED (waiting for mutex). {impossible}"
  else s!"waitForThread failed with error {hexText waitResult}. {impossible}"

def waitForThread : Member Unit := do
  let hThread := (← this).handle
  let waitResult ← callOs (.waitForSingleObject hThread infinite)
  if waitResult = waitObject0 then
    return
  if waitResult = waitFailed then
    let lastError ← callOs .sysErrorTextA
    let checkExist ← callOs (.waitForSingleObject hThread 0)
    if checkExist ≠ waitObject0 then
      return
    else
      raise (.runtimeError s!"waitForThread failed with error WAIT_FAILED: {lastError}")
  else
    raise (.runtimeError (waitText waitResult))

-- The reference parameter is m_handle at every call.
def closeHandleAndCheck : Member Unit := do
  let self ← this
  if self.handle = 0 then
    return
  if ← callOs (.closeHandle self.handle) then
    assign { self with handle := 0 }
  else
    let text ← callOs .sysErrorTextA
    raise (.runtimeError s!"CloseHandleAndCheck failed with error: {text}")

theorem wait_for_thread_run (self : Thread) : waitForThread.run self =
    .call (.waitForSingleObject self.handle infinite) fun waitResult =>
      if waitResult = waitObject0 then .ret (.ok (), self)
      else if waitResult = waitFailed then
        .call .sysErrorTextA fun lastError => .call (.waitForSingleObject self.handle 0) fun checkExist =>
          if checkExist ≠ waitObject0 then .ret (.ok (), self)
          else .ret (.error (.runtimeError s!"waitForThread failed with error WAIT_FAILED: {lastError}"), self)
      else .ret (.error (.runtimeError (waitText waitResult)), self) := by
  simp only [waitForThread, run_this_bind, run_system_bind, run_ite, run_pure, run_raise]

theorem close_handle_run (self : Thread) (nonnull : self.handle ≠ 0) : closeHandleAndCheck.run self =
    .call (.closeHandle self.handle) fun closed =>
      if closed = true then .ret (.ok (), ⟨0, self.id⟩)
      else .call .sysErrorTextA fun text =>
        .ret (.error (.runtimeError s!"CloseHandleAndCheck failed with error: {text}"), self) := by
  simp only [closeHandleAndCheck, run_this_bind, run_ite, nonnull, if_false, run_system_bind, run_assign, run_raise]

def joinImpl : Member Unit := do
  waitForThread
  closeHandleAndCheck

def detachImpl : Member Unit := closeHandleAndCheck

def terminateImpl : Member Unit := do
  let self ← this
  if ← callOs (.terminateThread self.handle exitFailure) then
    closeHandleAndCheck
  else
    let text ← callOs .sysErrorTextA
    raise (.runtimeError s!"terminateImpl failed with error: {text}")

theorem terminate_impl_run (self : Thread) : terminateImpl.run self =
    .call (.terminateThread self.handle exitFailure) fun terminated =>
      if terminated = true then closeHandleAndCheck.run self
      else .call .sysErrorTextA fun text =>
        .ret (.error (.runtimeError s!"terminateImpl failed with error: {text}"), self) := by
  simp only [terminateImpl, run_this_bind, run_system_bind, run_ite, run_raise]

-- The error code of std::system_error is an int.
def initializeThread : Member (HANDLE × ThreadId) := do
  let created ← callOs .createThread
  match created with
  | none =>
      let lastError ← callOs .getLastError
      raise (.systemError (Int.bmod lastError.toNat 0x100000000) "create thread failure")
  | some (handle, dwordId) => return (handle, dwordId)

end Rcp.Threads.Win
