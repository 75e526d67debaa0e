import RcpLib.Semantics.CString
import RcpLib.Semantics.Pool

set_option autoImplicit false

namespace Rcp.Utils.Win

open Semantics

variable {Char : Type} [OfNat Char 0]

-- A value of a variable. The system stores it up to its NUL.
structure EnvValue (Char : Type) [OfNat Char 0] where
  chars : List Char
  nulFree : 0 ∉ chars

-- GetEnvironmentVariableA and GetEnvironmentVariableW. The buffer is what lpBuffer
-- points to; a null pointer is the empty buffer with the size 0.
inductive ReadOp (Char : Type) where
  | getEnvironmentVariable (name buffer : List Char) (size : Nat)

@[reducible] def ReadReply : ReadOp Char → Type
  | .getEnvironmentVariable _ _ _ => Nat × List Char

def getEnvironmentVariable (value : Option (EnvValue Char)) (buffer : List Char) (size : Nat) : Nat × List Char :=
  match value with
  | none => (0, buffer)
  | some value =>
      if value.chars.length < size then
        (value.chars.length, value.chars ++ 0 :: buffer.drop (value.chars.length + 1))
      else (value.chars.length + 1, buffer)

abbrev ReadM (Char : Type) := Program (ReadOp Char) (ReadReply)

-- The body that getA and getW share. `retVal` has its terminating NUL in the buffer.
def readVariable (name : List Char) : ReadM Char (List Char) := do
  let (newSize, _) ← perform (.getEnvironmentVariable name [] 0)
  if newSize < 1 then
    return []
  let retVal : List Char := List.replicate (newSize - 1) 0
  let (result, buffer) ← perform (.getEnvironmentVariable name (retVal ++ [0]) newSize)
  if result ≠ 0 then
    return buffer.take (newSize - 1)
  return []

def getA (varName : List UInt8) : ReadM UInt8 (List UInt8) := readVariable (cString varName)

def getW (ansii2Wide : List UInt8 → List UInt16) (varName : List UInt8) : ReadM UInt16 (List UInt16) :=
  let varNameW := ansii2Wide varName
  readVariable (cString varNameW)

def secondRead (name : List Char) (newSize : Nat) : ReadM Char (List Char) :=
  .call (.getEnvironmentVariable name (List.replicate (newSize - 1) 0 ++ [0]) newSize) fun reply =>
    if reply.1 ≠ 0 then .ret (reply.2.take (newSize - 1)) else .ret []

theorem read_variable_run (name : List Char) : readVariable name =
    .call (.getEnvironmentVariable name [] 0) fun reply =>
      if reply.1 < 1 then .ret [] else secondRead name reply.1 := rfl

end Rcp.Utils.Win
