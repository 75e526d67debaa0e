import Mathlib.Logic.Function.Basic
import RcpLib.Semantics.Program

set_option autoImplicit false

namespace Rcp.Threads

open Semantics

abbrev DWORD := UInt32

-- HANDLE and pthread_t are opaque values; 0 stands for nullptr.
abbrev HANDLE := Nat

-- std::thread::id; 0 stands for the default id.
abbrev ThreadId := Nat

def waitObject0 : DWORD := 0
def waitAbandoned : DWORD := 0x80
def waitTimeout : DWORD := 0x102
def waitFailed : DWORD := 0xFFFFFFFF
def infinite : DWORD := 0xFFFFFFFF
def exitFailure : Nat := 1

structure Thread where
  handle : HANDLE
  id : ThreadId
deriving DecidableEq, Repr

def Thread.none : Thread := ⟨0, 0⟩

inductive Failure where
  | runtimeError (what : String)
  | systemError (code : Int) (what : String)
  | crash
deriving DecidableEq, Repr

-- The calls that the Thread class makes out of itself, on both platforms.
-- createThread answers the handle and the id, or none for a null handle.
-- waitForStarted is started->get_future().get().
inductive OsCall where
  | createThread
  | waitForSingleObject (handle : HANDLE) (milliseconds : DWORD)
  | terminateThread (handle : HANDLE) (exitCode : Nat)
  | closeHandle (handle : HANDLE)
  | getLastError
  | sysErrorTextA
  | pthreadCreate
  | pthreadJoin (handle : HANDLE)
  | pthreadDetach (handle : HANDLE)
  | pthreadKill (handle : HANDLE) (signal : Nat)
  | waitForStarted

@[reducible] def OsReply : OsCall → Type
  | .createThread => Option (HANDLE × ThreadId)
  | .waitForSingleObject _ _ => DWORD
  | .terminateThread _ _ => Bool
  | .closeHandle _ => Bool
  | .getLastError => DWORD
  | .sysErrorTextA => String
  | .pthreadCreate => Except Int HANDLE
  | .pthreadJoin _ => Int
  | .pthreadDetach _ => Int
  | .pthreadKill _ _ => Int
  | .waitForStarted => Unit

abbrev Member := Method OsCall OsReply Failure Thread

abbrev callOs (op : OsCall) : Member (OsReply op) := Method.system op

inductive Status where
  | running
  | terminated
  | gone
deriving DecidableEq, Repr

-- The threads the system has started, numbered by the creation call, and the
-- handles that refer to them. Closed handle values may be handed out again.
structure Os where
  created : List (HANDLE × ThreadId)
  table : HANDLE → Option Nat
  status : Nat → Status
  lastFailed : HANDLE → Bool

def Os.boot : Os := ⟨[], fun _ => none, fun _ => .gone, fun _ => false⟩

def Os.opened (os : Os) (handle : HANDLE) (id : ThreadId) : Os where
  created := os.created ++ [(handle, id)]
  table := Function.update os.table handle (some os.created.length)
  status := Function.update os.status os.created.length .running
  lastFailed := Function.update os.lastFailed handle false

def Os.closed (os : Os) (handle : HANDLE) : Os := { os with table := Function.update os.table handle none }

-- What is assumed of the system. A wait may fail at any time, but two failures
-- in a row on one handle mean that the thread does not exist.
def Os.answers (os : Os) : (op : OsCall) → OsReply op → Prop
  | .createThread, reply => ∀ handle id, reply = some (handle, id) → handle ≠ 0 ∧ id ≠ 0 ∧ os.table handle = none
  | .waitForSingleObject handle milliseconds, reply => ∀ thread, os.table handle = some thread →
      (reply = waitObject0 → os.status thread = .terminated) ∧
      (milliseconds = 0 → reply = waitTimeout → os.status thread = .running) ∧
      (reply = waitFailed → os.lastFailed handle = true → os.status thread = .gone)
  | .closeHandle handle, reply => reply = true → os.table handle ≠ none
  | .pthreadCreate, reply => ∀ handle, reply = .ok handle → handle ≠ 0 ∧ os.table handle = none
  | .pthreadJoin handle, reply => reply = 0 → ∃ thread, os.table handle = some thread ∧ os.status thread = .terminated
  | .pthreadDetach handle, reply => reply = 0 → os.table handle ≠ none
  | _, _ => True

-- A closed handle, a joined and a detached pthread_t no longer refer to a thread.
def Os.after (os : Os) : (op : OsCall) → OsReply op → Os
  | .createThread, some (handle, id) => os.opened handle id
  | .waitForSingleObject handle _, reply =>
      { os with lastFailed := Function.update os.lastFailed handle (reply == waitFailed) }
  | .closeHandle handle, true => os.closed handle
  | .pthreadCreate, .ok handle => os.opened handle handle
  | .pthreadJoin handle, reply => if reply = 0 then os.closed handle else os
  | .pthreadDetach handle, reply => if reply = 0 then os.closed handle else os
  | _, _ => os

end Rcp.Threads
