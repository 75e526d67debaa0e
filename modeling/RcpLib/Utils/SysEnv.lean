import Mathlib.Data.Nat.Digits.Defs
import RcpLib.Utils.Environ

set_option autoImplicit false

namespace Rcp.Utils

open Semantics

namespace SysEnvProc

def getA (environ : Environ) (varName : Bytes) : Bytes :=
  match getenv environ (cString varName) with
  | some value => value
  | none => []

-- putX MUST delete variable if value empty
def put (environ : Environ) (varName value : Bytes) : Environ :=
  if value = [] then unsetenv environ (cString varName) else setenv environ (cString varName) (cString value)

def findEqual (current : Bytes) : Option Nat := current.findIdx? (· = equalSign)

def allW {Wide : Type} (utf82Wide : Bytes → Wide) : Environ → List (Wide × Wide)
  | [] => []
  | current :: rest =>
      match findEqual current with
      | some pEqual => (utf82Wide (current.take pEqual), utf82Wide (current.drop (pEqual + 1))) :: allW utf82Wide rest
      | none => allW utf82Wide rest

end SysEnvProc

namespace SysEnv

def get (environ : Environ) (envVarName defVal : Bytes) : Bytes :=
  let val := SysEnvProc.getA environ envVarName
  if val = [] then defVal else val

def put (environ : Environ) (envVarName val : Bytes) : Environ := SysEnvProc.put environ envVarName val

def minusSign : UInt8 := 45

def decimal (magnitude : Nat) : Bytes :=
  (if magnitude = 0 then [0] else (Nat.digits 10 magnitude).reverse).map fun digit => UInt8.ofNat (48 + digit)

def toString (val : Int) : Bytes := if val < 0 then minusSign :: decimal val.natAbs else decimal val.natAbs

def putInteger (environ : Environ) (envVarName : Bytes) (val : Int) : Environ :=
  SysEnvProc.put environ envVarName (toString val)

-- clear is put with a null pointer.
def clear (environ : Environ) (envVarName : Bytes) : Environ := SysEnvProc.put environ envVarName []

def envExists (environ : Environ) (envVarName : Bytes) : Bool := !(get environ envVarName []).isEmpty

end SysEnv

structure EnvRAII where
  m_name : Bytes
  m_prevValue : Bytes
deriving DecidableEq

def EnvRAII.construct (environ : Environ) (name val : Bytes) : EnvRAII × Environ :=
  (⟨name, SysEnv.get environ name []⟩, SysEnv.put environ name val)

-- The destructor. Nothing that it calls throws.
def EnvRAII.destroy (environ : Environ) (self : EnvRAII) : Environ := SysEnv.put environ self.m_name self.m_prevValue

end Rcp.Utils
