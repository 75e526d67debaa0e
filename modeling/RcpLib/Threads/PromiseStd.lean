import RcpLib.Threads.PromiseWin

set_option autoImplicit false

namespace Rcp.Threads.PromiseStd

inductive FutureErrc where
  | promiseAlreadySatisfied
  | futureAlreadyRetrieved
deriving DecidableEq, Repr

-- std::promise: the shared state is satisfied once, and has one future.
structure Promise (E T : Type) where
  result : Option (Except E T)
  retrieved : Bool

variable {E T : Type}

def Promise.fresh : Promise E T := ⟨none, false⟩

def Promise.satisfy (self : Promise E T) (result : Except E T) : Except FutureErrc (Promise E T) :=
  match self.result with
  | some _ => .error .promiseAlreadySatisfied
  | none => .ok { self with result := some result }

def Promise.setValue (self : Promise E T) (val : T) : Except FutureErrc (Promise E T) := self.satisfy (.ok val)

def Promise.setException (self : Promise E T) (p : E) : Except FutureErrc (Promise E T) := self.satisfy (.error p)

def Promise.getFuture (self : Promise E T) : Except FutureErrc (Promise E T) :=
  if self.retrieved then .error .futureAlreadyRetrieved else .ok { self with retrieved := true }

inductive Call (E T : Type) where
  | set (val : T)
  | setException (p : E)
  | get

inductive Outcome (E T : Type) where
  | returned
  | value (val : T)
  | rethrown (p : E)
  | error
  | blocks

def changed (self : Promise E T) : Except FutureErrc (Promise E T) → Outcome E T × Promise E T
  | .ok later => (.returned, later)
  | .error _ => (.error, self)

-- future::get returns or rethrows the result, and blocks until there is one.
def futureGet (self : Promise E T) : Outcome E T :=
  match self.result with
  | some (.ok val) => .value val
  | some (.error p) => .rethrown p
  | none => .blocks

def call (self : Promise E T) : Call E T → Outcome E T × Promise E T
  | .set val => changed self (self.setValue val)
  | .setException p => changed self (self.setException p)
  | .get =>
      match self.getFuture with
      | .ok later => (futureGet later, later)
      | .error _ => (.error, self)

end Rcp.Threads.PromiseStd
