import RcpLib.Semantics.Pool
import RcpLib.Threads.Os

set_option autoImplicit false

namespace Rcp.Threads.PromiseWin

open Semantics

def waitAbandoned0 : DWORD := 0x80

inductive Waitable where
  | event
  | threadHandle
deriving DecidableEq, Repr

-- std::rethrow_exception of a null pointer is undefined.
inductive Thrown (E : Type) where
  | rethrown (p : E)
  | runtimeError (what : String)
  | undefined
deriving DecidableEq, Repr

-- The accesses to the three members, the Win32 calls, and the end of the thread
-- that performs it. A null std::exception_ptr is none.
inductive PromiseOp (E T : Type) where
  | loadException
  | storeException (p : Option E)
  | loadVal
  | storeVal (val : T)
  | setEvent
  | waitForMultipleObjects (handles : List Waitable)
  | waitForSingleObject (handle : Waitable) (milliseconds : DWORD)
  | getLastError
  | message (error : DWORD)
  | exitThread

@[reducible] def PromiseReply {E T : Type} : PromiseOp E T → Type
  | .loadException => Option E
  | .storeException _ => Unit
  | .loadVal => T
  | .storeVal _ => Unit
  | .setEvent => Bool
  | .waitForMultipleObjects _ => DWORD
  | .waitForSingleObject _ _ => DWORD
  | .getLastError => DWORD
  | .message _ => String
  | .exitThread => Unit

variable {E T : Type}

abbrev PromiseM (E T : Type) := ExceptT (Thrown E) (Program (PromiseOp E T) PromiseReply)

abbrev callWin (op : PromiseOp E T) : PromiseM E T (PromiseReply op) := ExceptT.lift (perform op)

-- The result of m_event.Set() is dropped.
def set (val : T) : PromiseM E T Unit := do
  callWin (.storeVal val)
  let _ ← callWin .setEvent

def setException (p : Option E) : PromiseM E T Unit := callWin (.storeException p)

def fatalError (event : DWORD) (reason : String) : String :=
  s!"WaitForMultipleObjects() for event = \x60{event}\x60 failed: \x60{reason}\x60"

def throwFatalError {α : Type} (event : DWORD) (reason : String) : PromiseM E T α :=
  throw (.runtimeError (fatalError event reason))

def checkWait (eventsCount waitResult : DWORD) : PromiseM E T Unit := do
  if waitResult = waitObject0 then
    return
  else if waitResult = waitObject0 + 1 then
    throwFatalError waitResult "thread terminated"
  else if waitResult ≥ waitAbandoned0 ∧ waitResult < waitAbandoned0 + eventsCount then
    throwFatalError (waitResult - waitAbandoned0) "abandoned"
  else if waitResult = waitFailed then
    let lastError ← callWin .getLastError
    let checkExist ← callWin (.waitForSingleObject .threadHandle 0)
    if checkExist ≠ waitObject0 then
      throwFatalError checkExist "thread terminated"
    let text ← callWin (.message lastError)
    throwFatalError waitResult ("failed: " ++ text)
  else if waitResult = waitTimeout then
    throwFatalError waitResult "timeout"
  else
    throwFatalError waitResult "returned unexpected value"

def handles : List Waitable := [.event, .threadHandle]

def rethrowException {α : Type} : Option E → PromiseM E T α
  | some p => throw (.rethrown p)
  | none => throw .undefined

def get : PromiseM E T T := do
  if (← callWin .loadException).isSome then
    rethrowException (← callWin .loadException)
  let waitResult ← callWin (.waitForMultipleObjects handles)
  checkWait (UInt32.ofNat handles.length) waitResult
  callWin .loadVal

def rethrow {α : Type} : Program (PromiseOp E T) PromiseReply (Except (Thrown E) α) :=
  .call .loadException fun
    | some p => .ret (.error (.rethrown p))
    | none => .ret (.error .undefined)

theorem get_run : (get : PromiseM E T T).run =
    .call .loadException fun exception =>
      if exception.isSome then rethrow
      else .call (.waitForMultipleObjects handles) fun waitResult =>
        (do checkWait 2 waitResult; callWin .loadVal : PromiseM E T T).run := by
  refine congrArg (Program.call PromiseOp.loadException) (funext fun exception => ?_)
  cases exception with
  | none => rfl
  | some p =>
      refine congrArg (Program.call PromiseOp.loadException) (funext fun again => ?_)
      cases again <;> rfl

def terminatedText : String := fatalError 1 "thread terminated"

-- The members, the state of the event and of the thread, and the last error.
structure PromiseExImpl (E T : Type) where
  m_exception : Option E
  m_val : T
  signalled : Bool
  ended : Bool
  lastError : DWORD
  message : DWORD → String

def PromiseExImpl.ready (self : PromiseExImpl E T) : Waitable → Bool
  | .event => self.signalled
  | .threadHandle => self.ended

-- A wait for one of several objects is answered by the lowest signalled one, and
-- blocks while there is none.
def PromiseExImpl.reply (self : PromiseExImpl E T) : (op : PromiseOp E T) → Option (PromiseReply op)
  | .loadException => some self.m_exception
  | .storeException _ => some ()
  | .loadVal => some self.m_val
  | .storeVal _ => some ()
  | .setEvent => some true
  | .waitForMultipleObjects handles => (handles.findIdx? self.ready).map fun index => waitObject0 + UInt32.ofNat index
  | .waitForSingleObject handle _ => some (if self.ready handle then waitObject0 else waitTimeout)
  | .getLastError => some self.lastError
  | .message error => some (self.message error)
  | .exitThread => some ()

-- A Win32 call that fails, as it may at any time; the last error is then its own.
def fails : (op : PromiseOp E T) → PromiseReply op → Prop
  | .setEvent, reply => reply = false
  | .waitForMultipleObjects _, reply => reply = waitFailed
  | .waitForSingleObject _ _, reply => reply = waitFailed
  | .getLastError, _ => True
  | _, _ => False

def PromiseExImpl.answers (self : PromiseExImpl E T) (failing : Bool) (op : PromiseOp E T) (reply : PromiseReply op) :
    Prop :=
  self.reply op = some reply ∨ failing = true ∧ fails op reply

@[simp] theorem answers_reliable (self : PromiseExImpl E T) (op : PromiseOp E T) (reply : PromiseReply op) :
    self.answers false op reply ↔ self.reply op = some reply := by
  simp [PromiseExImpl.answers]

-- The event is auto-reset: a wait that it satisfies resets it.
def PromiseExImpl.after (self : PromiseExImpl E T) : (op : PromiseOp E T) → PromiseReply op → PromiseExImpl E T
  | .storeException p, _ => { self with m_exception := p }
  | .storeVal val, _ => { self with m_val := val }
  | .setEvent, true => { self with signalled := true }
  | .waitForMultipleObjects handles, reply =>
      if reply ≠ waitFailed ∧ handles.find? self.ready = some .event then { self with signalled := false } else self
  | .exitThread, _ => { self with ended := true }
  | _, _ => self

def fresh [OfNat T 0] (message : DWORD → String) : PromiseExImpl E T := ⟨none, 0, false, false, 0, message⟩

end Rcp.Threads.PromiseWin
