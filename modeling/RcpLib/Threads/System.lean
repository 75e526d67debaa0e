import RcpLib.Semantics.Transition
import RcpLib.Threads.Thread

set_option autoImplicit false

namespace Rcp.Threads

open Semantics

abbrev ObjId := Nat

inductive MemberCall where
  | construct (startStrategy : StartStrategy)
  | join (caller : ThreadId)
  | detach
  | terminate

def MemberCall.constructs : MemberCall → Bool
  | .construct _ => true
  | _ => false

def MemberCall.body (platform : Platform) : MemberCall → Member Unit
  | .construct startStrategy => Thread.start platform startStrategy
  | .join caller => Thread.join platform caller
  | .detach => Thread.detach platform
  | .terminate => Thread.terminate platform

-- A call of a member function must belong to the platform and be about the handle
-- of its own object, and only an object without a handle may ask for one.
def Thread.permits (backend : Backend) (self : Thread) : OsCall → Prop
  | .createThread => backend = .win ∧ self = Thread.none
  | .waitForSingleObject handle _ => backend = .win ∧ self.handle = handle ∧ handle ≠ 0
  | .terminateThread handle _ => backend = .win ∧ self.handle = handle ∧ handle ≠ 0
  | .closeHandle handle => backend = .win ∧ self.handle = handle ∧ handle ≠ 0
  | .getLastError => backend = .win
  | .sysErrorTextA => backend = .win
  | .pthreadCreate => backend = .mac ∧ self = Thread.none
  | .pthreadJoin handle => backend = .mac ∧ self.handle = handle ∧ handle ≠ 0
  | .pthreadDetach handle => backend = .mac ∧ self.handle = handle ∧ handle ≠ 0
  | .pthreadKill handle _ => backend = .mac ∧ self.handle = handle ∧ handle ≠ 0
  | .waitForStarted => True

-- What an object owns changes with the reply of the system, before the code has
-- written its fields.
def Thread.advance (self : Thread) : (op : OsCall) → OsReply op → Thread
  | .createThread, some (handle, id) => ⟨handle, id⟩
  | .pthreadCreate, .ok handle => ⟨handle, handle⟩
  | .closeHandle _, true => Thread.none
  | .pthreadJoin _, reply => if reply = 0 then Thread.none else self
  | .pthreadDetach _, reply => if reply = 0 then Thread.none else self
  | _, _ => self

def ownership (backend : Backend) : Protocol OsCall OsReply Thread := ⟨Thread.permits backend, Thread.advance⟩

-- A member function in progress: the fields it was entered with, the thread they
-- referred to, and what is left to run.
structure Frame where
  call : MemberCall
  entry : Thread
  owned : Option Nat
  program : Program OsCall OsReply (Except Failure Unit × Thread)

-- A Thread object. Outside of member functions `fields` are m_handle and m_id;
-- inside of one they are what the object owns by the replies so far.
structure Slot where
  fields : Thread
  frame : Option Frame

def idle (fields : Thread) : Option Slot := some ⟨fields, none⟩

abbrev Objects := ObjId → Option Slot

structure System where
  os : Os
  objects : Objects
  crashed : Bool

inductive Action where
  | construct (o : ObjId)
  | moveConstruct (o source : ObjId)
  | moveAssign (o source : ObjId)
  | swap (o other : ObjId)
  | destroy (o : ObjId)
  | invoke (o : ObjId) (call : MemberCall)
  | perform (o : ObjId) (op : OsCall) (reply : OsReply op)
  | finish (o : ObjId) (outcome : Except Failure Unit)
  | thread (thread : Nat) (status : Status)

def exchange (objects : Objects) (o other : ObjId) (result : Thread × Thread) : Objects :=
  Function.update (Function.update objects o (idle result.1)) other (idle result.2)

-- An object whose constructor throws has never existed.
def settled (call : MemberCall) (outcome : Except Failure Unit) (self : Thread) : Option Slot :=
  match outcome with
  | .ok () => idle self
  | .error _ => if call.constructs then none else idle self

def crashes : Except Failure Unit → Bool
  | .error .crash => true
  | _ => false

-- Any number of objects, each in at most one member function at a time, and the
-- started threads. THREAD_FORCE_CRASH ends the run.
inductive Step (backend : Backend) : System → Action → System → Prop where
  | construct (os : Os) (objects : Objects) (o : ObjId) (absent : objects o = none) :
      Step backend ⟨os, objects, false⟩ (.construct o)
        ⟨os, Function.update objects o (idle Thread.none), false⟩
  | moveConstruct (os : Os) (objects : Objects) (o source : ObjId) (other : Thread)
      (absent : objects o = none) (live : objects source = idle other) :
      Step backend ⟨os, objects, false⟩ (.moveConstruct o source)
        ⟨os, exchange objects o source (Thread.moveConstruct other), false⟩
  | moveAssign (os : Os) (objects : Objects) (o source : ObjId) (self other : Thread) (result : Thread × Thread)
      (target : objects o = idle self) (live : objects source = idle other)
      (returned : Thread.moveAssign self other = .ok result) :
      Step backend ⟨os, objects, false⟩ (.moveAssign o source) ⟨os, exchange objects o source result, false⟩
  | moveAssignCrash (os : Os) (objects : Objects) (o source : ObjId) (self other : Thread) (failure : Failure)
      (target : objects o = idle self) (live : objects source = idle other)
      (crashed : Thread.moveAssign self other = .error failure) :
      Step backend ⟨os, objects, false⟩ (.moveAssign o source) ⟨os, objects, true⟩
  | swap (os : Os) (objects : Objects) (o other : ObjId) (left right : Thread)
      (first : objects o = idle left) (second : objects other = idle right) :
      Step backend ⟨os, objects, false⟩ (.swap o other)
        ⟨os, exchange objects o other (Thread.swap left right), false⟩
  | destroy (os : Os) (objects : Objects) (o : ObjId) (self : Thread)
      (live : objects o = idle self) (returned : Thread.destroy self = .ok ()) :
      Step backend ⟨os, objects, false⟩ (.destroy o) ⟨os, Function.update objects o none, false⟩
  | destroyCrash (os : Os) (objects : Objects) (o : ObjId) (self : Thread) (failure : Failure)
      (live : objects o = idle self) (crashed : Thread.destroy self = .error failure) :
      Step backend ⟨os, objects, false⟩ (.destroy o) ⟨os, objects, true⟩
  | invoke (os : Os) (objects : Objects) (o : ObjId) (call : MemberCall) (self : Thread)
      (ready : if call.constructs then objects o = none ∧ self = Thread.none else objects o = idle self) :
      Step backend ⟨os, objects, false⟩ (.invoke o call)
        ⟨os, Function.update objects o
          (some ⟨self, some ⟨call, self, os.table self.handle, (call.body backend.platform).run self⟩⟩), false⟩
  | perform (os : Os) (objects : Objects) (o : ObjId) (self entry : Thread) (call : MemberCall) (owned : Option Nat)
      (op : OsCall) (next : OsReply op → Program OsCall OsReply (Except Failure Unit × Thread)) (reply : OsReply op)
      (live : objects o = some ⟨self, some ⟨call, entry, owned, .call op next⟩⟩) (answered : os.answers op reply) :
      Step backend ⟨os, objects, false⟩ (.perform o op reply)
        ⟨os.after op reply, Function.update objects o
          (some ⟨self.advance op reply, some ⟨call, entry, owned, next reply⟩⟩), false⟩
  | finish (os : Os) (objects : Objects) (o : ObjId) (self entry result : Thread) (call : MemberCall)
      (owned : Option Nat) (outcome : Except Failure Unit)
      (live : objects o = some ⟨self, some ⟨call, entry, owned, .ret (outcome, result)⟩⟩) :
      Step backend ⟨os, objects, false⟩ (.finish o outcome)
        (if crashes outcome then ⟨os, objects, true⟩
          else ⟨os, Function.update objects o (settled call outcome result), false⟩)
  | thread (os : Os) (objects : Objects) (thread : Nat) (status : Status) (started : thread < os.created.length)
      (moves : os.status thread = .running ∧ status = .terminated ∨ status = .gone) :
      Step backend ⟨os, objects, false⟩ (.thread thread status)
        ⟨{ os with status := Function.update os.status thread status }, objects, false⟩

def threadSystem (backend : Backend) : Lts System Action where
  initial system := system = ⟨Os.boot, fun _ => none, false⟩
  step := Step backend

end Rcp.Threads
