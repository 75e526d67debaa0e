import RcpLib.Utils.Dump
import RcpLib.Utils.EnvRefinement

set_option autoImplicit false

namespace Rcp.Utils

open Semantics

-- The static functions of details::SysEnvProc on one platform. None is an
-- exception, or the use of an object that is gone.
structure SysEnvBackend (Env Char : Type) where
  getA : Env → Bytes → Bytes
  getW : Env → Bytes → Option (List Char × Env)
  put : Env → Bytes → Bytes → Env
  putW : Env → Bytes → List Char → Option Env
  allW : Env → Option (EnvsW Char × Env)

namespace SysEnvBackend

variable {Env Char : Type} (backend : SysEnvBackend Env Char)

def get (environ : Env) (envVarName defVal : Bytes) : Bytes :=
  let val := backend.getA environ envVarName
  if val = [] then defVal else val

def getWide (environ : Env) (envVarName : Bytes) (defVal : List Char) : Option (List Char × Env) := do
  let (val, environ) ← backend.getW environ envVarName
  return (if val.isEmpty then defVal else val, environ)

def putInteger (environ : Env) (envVarName : Bytes) (number : IntegerValue) : Env :=
  backend.put environ envVarName (SysEnv.toString number.val)

-- SysEnvProc::putStr, which only logs a null pointer.
def putStr (environ : Env) (envVarName : Bytes) (val : Option Bytes) : Env :=
  match val with
  | none => environ
  | some val => backend.put environ envVarName (cString val)

def putStrWide [DecidableEq Char] [OfNat Char 0] (environ : Env) (envVarName : Bytes) (val : Option (List Char)) :
    Option Env :=
  match val with
  | none => some environ
  | some val => backend.putW environ envVarName (cString val)

def clear (environ : Env) (envVarName : Bytes) : Env := backend.put environ envVarName []

def envExists (environ : Env) (envVarName : Bytes) : Bool := !(backend.get environ envVarName []).isEmpty

def dump [LinearOrder Char] [OfNat Char 61] [OfNat Char 10] (stdSort : StdSort (EnvPairW Char)) (environ : Env) :
    Option (List Char × Env) := do
  let (allItems, environ) ← backend.allW environ
  return (SysEnv.dump stdSort allItems, environ)

def construct (environ : Env) (name val : Bytes) : EnvRAII × Env :=
  (⟨name, backend.get environ name []⟩, backend.put environ name val)

def destroy (environ : Env) (self : EnvRAII) : Env := backend.put environ self.m_name self.m_prevValue

end SysEnvBackend

-- The names and texts of a program, as the narrow and the wide functions take them.
-- Names with one key name one variable.
structure Spelling (Char Name Text Key : Type) [OfNat Char 0] where
  nameBytes : Name → Bytes
  nameChars : Name → List Char
  key : Name → Key
  textBytes : Text → Bytes
  textChars : Text → List Char
  empty : Text
  integer : IntegerValue → Text
  bytesFree : ∀ text, 0 ∉ textBytes text
  charsFree : ∀ text, 0 ∉ textChars text
  emptyBytes : textBytes empty = []
  integerBytes : ∀ number, textBytes (integer number) = SysEnv.toString number.val
  blank : ∀ text, textBytes text = [] ↔ textChars text = []

inductive EnvCall (Name Text : Type) where
  | put (name : Name) (value : Text)
  | putWide (name : Name) (value : Text)
  | putStr (name : Name) (val : Option Text)
  | putStrWide (name : Name) (val : Option Text)
  | putInteger (name : Name) (number : IntegerValue)
  | clear (name : Name)
  | construct (id : Nat) (name : Name) (value : Text)
  | destroy (id : Nat)

structure GuardedEnv (Env : Type) where
  environ : Env
  guards : Nat → Option EnvRAII

variable {Env Char Name Text Key : Type} [OfNat Char 0] [DecidableEq Char]

-- An id names one object at a time, and only a live object is destroyed.
def GuardedEnv.perform (backend : SysEnvBackend Env Char) (spelling : Spelling Char Name Text Key) (self : GuardedEnv Env) :
    EnvCall Name Text → Option (GuardedEnv Env)
  | .put name value =>
      some { self with environ := backend.put self.environ (spelling.nameBytes name) (spelling.textBytes value) }
  | .putWide name value => do
      let environ ← backend.putW self.environ (spelling.nameBytes name) (spelling.textChars value)
      return { self with environ := environ }
  | .putStr name val =>
      some { self with environ := backend.putStr self.environ (spelling.nameBytes name) (val.map spelling.textBytes) }
  | .putStrWide name val => do
      let environ ← backend.putStrWide self.environ (spelling.nameBytes name) (val.map spelling.textChars)
      return { self with environ := environ }
  | .putInteger name number =>
      some { self with environ := backend.putInteger self.environ (spelling.nameBytes name) number }
  | .clear name => some { self with environ := backend.clear self.environ (spelling.nameBytes name) }
  | .construct id name value =>
      match self.guards id with
      | some _ => some self
      | none =>
          let (guard, environ) := backend.construct self.environ (spelling.nameBytes name) (spelling.textBytes value)
          some ⟨environ, Function.update self.guards id (some guard)⟩
  | .destroy id =>
      match self.guards id with
      | none => some self
      | some guard => some ⟨backend.destroy self.environ guard, Function.update self.guards id none⟩

def GuardedEnv.performAll (backend : SysEnvBackend Env Char) (spelling : Spelling Char Name Text Key) :
    List (EnvCall Name Text) → GuardedEnv Env → Option (GuardedEnv Env)
  | [], self => some self
  | call :: later, self => (self.perform backend spelling call).bind (performAll backend spelling later)

-- What the environment is for: one text for each key, and the empty text stands for
-- no variable. A guard puts back what it has found.
structure Cells (Name Text Key : Type) where
  cells : Key → Text
  guards : Nat → Option (Name × Text)

def Cells.apply [DecidableEq Key] (spelling : Spelling Char Name Text Key) (self : Cells Name Text Key) :
    EnvCall Name Text → Cells Name Text Key
  | .put name value => { self with cells := Function.update self.cells (spelling.key name) value }
  | .putWide name value => { self with cells := Function.update self.cells (spelling.key name) value }
  | .putStr name val =>
      match val with
      | none => self
      | some value => { self with cells := Function.update self.cells (spelling.key name) value }
  | .putStrWide name val =>
      match val with
      | none => self
      | some value => { self with cells := Function.update self.cells (spelling.key name) value }
  | .putInteger name number =>
      { self with cells := Function.update self.cells (spelling.key name) (spelling.integer number) }
  | .clear name => { self with cells := Function.update self.cells (spelling.key name) spelling.empty }
  | .construct id name value =>
      match self.guards id with
      | some _ => self
      | none => ⟨Function.update self.cells (spelling.key name) value,
          Function.update self.guards id (some (name, self.cells (spelling.key name)))⟩
  | .destroy id =>
      match self.guards id with
      | none => self
      | some (name, saved) => ⟨Function.update self.cells (spelling.key name) saved, Function.update self.guards id none⟩

end Rcp.Utils
