import RcpLib.Platform.CodePage

set_option autoImplicit false

namespace Rcp.Platform

open Semantics

-- The conversions of the system, by code page; those to bytes also by whether
-- lpUsedDefaultChar is passed.
structure Windows where
  wideCharToMultiByte : UINT → Bool → Conversion UInt16 UInt8
  multiByteToWideChar : UINT → Conversion UInt8 UInt16
  sysErrorTextA : DWORD → String

def euroBytes (char : UInt16) : List UInt8 :=
  if char = 0x20AC then [0xE2, 0x82, 0xAC] else if char < 0x80 then [char.toUInt8] else [0x3F]

def euroWindows : Windows :=
  ⟨fun _ _ => perCharacter euroBytes (by decide), fun _ => perCharacter (fun char => [char.toUInt16]) (by decide),
    fun _ => "error"⟩

structure SystemError where
  code : Int
  what : String
deriving DecidableEq, Repr

def throwLastError (windows : Windows) (lastError : DWORD) : SystemError :=
  ⟨staticCastInt lastError.toNat, windows.sysErrorTextA lastError⟩

def CheckThrowOfFail (windows : Windows) (lastError : DWORD) (throwOfFail : Bool) : Except SystemError Unit :=
  if throwOfFail then .error (throwLastError windows lastError) else .ok ()

-- A string built from a pointer to a buffer; none when no NUL ends it in the buffer.
def ofData {β : Type} [DecidableEq β] [OfNat β 0] (buff : List β) : Option (List β) :=
  if 0 ∈ buff then some (cString buff) else none

theorem of_data_nul {β : Type} [DecidableEq β] [OfNat β 0] (text rest : List β) (nulFree : 0 ∉ text) :
    ofData (text ++ 0 :: rest) = some text := by
  rw [ofData, if_pos (by simp), c_string_append text rest nulFree]

theorem of_data_zeros {β : Type} [DecidableEq β] [OfNat β 0] (size : Nat) (positive : size ≠ 0) :
    ofData (List.replicate size (0 : β)) = some [] := by
  obtain ⟨rest, rfl⟩ := Nat.exists_eq_succ_of_ne_zero positive
  exact of_data_nul [] (List.replicate rest 0) (by simp)

def failureExit {β : Type} (windows : Windows) (lastError : DWORD) (throwOfFail : Bool) : Except SystemError (List β) :=
  match CheckThrowOfFail windows lastError throwOfFail with
  | .error error => .error error
  | .ok () => .ok []

theorem failure_exit {β : Type} (windows : Windows) (lastError : DWORD) (throwOfFail : Bool) :
    (failureExit windows lastError throwOfFail : Except SystemError (List β)) =
      if throwOfFail then .error ⟨staticCastInt lastError.toNat, windows.sysErrorTextA lastError⟩ else .ok [] := by
  cases throwOfFail <;> rfl

namespace Wide2Ansii

-- `written` is how many bytes the last call wrote.
structure Locals where
  buff : List UInt8
  written : Nat
  lastError : DWORD

def Locals.after (self : Locals) (call : Call UInt8) : Locals :=
  ⟨call.buffer, call.written, call.error.getD self.lastError⟩

def fnCall (windows : Windows) (codePage : UINT) (input : View UInt16) (self : Locals) (size : Nat) :
    Option (Nat × Locals) :=
  let buff := resize self.buff size
  let usedDefaultChar := decide (codePage = cpAcp)
  match (windows.wideCharToMultiByte codePage usedDefaultChar).call input.memory (-1) buff (staticCastInt buff.length) with
  | none => none
  | some call => some (call.result, self.after call)

def calls (windows : Windows) (codePage : UINT) (input : View UInt16) (self : Locals) : Option (Bool × Locals) :=
  match fnCall windows codePage input self (input.length * 2) with
  | none => none
  | some (result, first) =>
      if result ≠ 0 then some (false, first)
      else if first.lastError = errorInsufficientBuffer then
        match fnCall windows codePage input first 0 with
        | none => none
        | some (necessaryBytes, second) =>
            if necessaryBytes > 0 then
              match fnCall windows codePage input second necessaryBytes with
              | none => none
              | some (result, third) => some (decide (result = 0), third)
            else some (true, second)
      else some (true, first)

end Wide2Ansii

def Wide2AnsiiHelper (windows : Windows) (lastError : DWORD) (codePage : UINT) (input : View UInt16)
    (throwOfFail : Bool) : Option (Except SystemError (List UInt8)) :=
  if input.length = 0 then some (.ok [])
  else
    match Wide2Ansii.calls windows codePage input ⟨[], 0, lastError⟩ with
    | none => none
    | some (callFailed, locals) =>
        if callFailed then some (failureExit windows locals.lastError throwOfFail)
        else (ofData locals.buff).map .ok

def Ansii2WideHelper (windows : Windows) (lastError : DWORD) (codePage : UINT) (input : View UInt8)
    (throwOfFail : Bool) : Option (Except SystemError (List UInt16)) :=
  if input.length = 0 then some (.ok [])
  else
    let buff := List.replicate (input.length + 1) 0
    match (windows.multiByteToWideChar codePage).call input.memory (-1) buff (staticCastInt buff.length) with
    | none => none
    | some call =>
        if call.result = 0 then some (failureExit windows (call.error.getD lastError) throwOfFail)
        else (ofData call.buffer).map .ok

namespace PlatformBase

def Ansii2Wide (windows : Windows) (lastError : DWORD) (input : View UInt8) (throwOfFail : Bool) :
    Option (Except SystemError (List UInt16)) := Ansii2WideHelper windows lastError cpAcp input throwOfFail

end PlatformBase

end Rcp.Platform
