import RcpLib.Platform.PlatformWin
import RcpLib.Utils.EnvBlock
import RcpLib.Utils.EnvHistories
import RcpLib.Utils.EnvReads

set_option autoImplicit false

namespace Rcp.Utils.Win

open Semantics Platform

instance wcharOrder : LinearOrder UInt16 :=
  orderOfValues UInt16.toNat (fun _ _ => UInt16.toNat_inj.mp) (fun _ _ => UInt16.le_iff_toNat_le.symm)
    fun _ _ => UInt16.lt_iff_toNat_lt.symm

-- A variable keeps the spelling of the name that it was created with. Only the first
-- character of a name may be an equal sign.
structure WinVariable where
  name : WText
  value : EnvValue UInt16
  nonempty : name ≠ []
  nulFree : 0 ∉ name

def WinVariable.item (self : WinVariable) : EnvItem where
  chars := self.name ++ equalSignW :: self.value.chars
  nonempty := by simp
  nulFree := by
    have different : (0 : UInt16) ≠ equalSignW := by decide
    simp [self.nulFree, self.value.nulFree, different]

def WinVariable.assigned (old : Option WinVariable) (name : WText) (nonempty : name ≠ []) (nulFree : 0 ∉ name) (value : WText) :
    WinVariable :=
  match old with
  | some old => { old with value := ⟨cString value, c_string_nul_free value⟩ }
  | none => ⟨name, ⟨cString value, c_string_nul_free value⟩, nonempty, nulFree⟩

-- What the documentation says of the system: the ANSI code page contains ASCII, names
-- are compared in upper case, and the order of the block is left open.
structure WinSystem where
  windows : Windows
  lastError : DWORD
  upcase : UInt16 → UInt16
  arrange : List WinVariable → List WinVariable
  upcaseEqual : ∀ char, upcase char = equalSignW ↔ char = equalSignW
  arranged : ∀ entries, (arrange entries).Perm entries
  widening : NulSafe (windows.multiByteToWideChar cpAcp)
  narrowing : NulSafe (windows.wideCharToMultiByte cpAcp false)
  asciiWide : ∀ bytes : Bytes, (∀ byte ∈ bytes, byte.toNat < 128) →
    (windows.multiByteToWideChar cpAcp).convert bytes = .ok (bytes.map UInt8.toUInt16)
  asciiNarrow : ∀ bytes : Bytes, (∀ byte ∈ bytes, byte.toNat < 128) →
    (windows.wideCharToMultiByte cpAcp false).convert (bytes.map UInt8.toUInt16) = .ok bytes

abbrev WinEnviron := Assoc WText WinVariable

-- No name and no value of a variable is longer than 32,767 characters.
def variableLimit : Nat := 32767

def withinLimit {Char : Type} [DecidableEq Char] [OfNat Char 0] (lpName : List Char) (lpValue : Option (List Char)) : Prop :=
  (cString lpName).length ≤ variableLimit ∧ (cString (lpValue.getD [])).length ≤ variableLimit

instance {Char : Type} [DecidableEq Char] [OfNat Char 0] (lpName : List Char) (lpValue : Option (List Char)) :
    Decidable (withinLimit lpName lpValue) := inferInstanceAs (Decidable (_ ∧ _))

namespace WinSystem

variable (system : WinSystem)

def fold (name : WText) : WText := name.map system.upcase

def widen (text : Bytes) : Option WText := ((system.windows.multiByteToWideChar cpAcp).convert text).toOption

def narrow (text : WText) : Option Bytes := ((system.windows.wideCharToMultiByte cpAcp false).convert text).toOption

-- A null pointer for a value deletes the variable. A call that is refused changes nothing.
def setEnvironmentVariableW (environ : WinEnviron) (lpName : WText) (lpValue : Option WText) : WinEnviron :=
  if withinLimit lpName lpValue then
    if valid : cString lpName ≠ [] ∧ equalSignW ∉ (cString lpName).tail then
      let key := system.fold (cString lpName)
      match lpValue with
      | none => remove key environ
      | some value =>
          store key (WinVariable.assigned (find key environ) (cString lpName) valid.1 (c_string_nul_free lpName) value) environ
    else environ
  else environ

def setEnvironmentVariableA (environ : WinEnviron) (lpName : Bytes) (lpValue : Option Bytes) : WinEnviron :=
  if withinLimit lpName lpValue then
    match system.widen (cString lpName) with
    | none => environ
    | some name =>
        match lpValue with
        | none => system.setEnvironmentVariableW environ name none
        | some value =>
            match system.widen (cString value) with
            | none => environ
            | some value => system.setEnvironmentVariableW environ name (some value)
  else environ

def variablesW (environ : WinEnviron) : Variables UInt16 := fun name =>
  (find (system.fold name) environ).map WinVariable.value

def variablesA (environ : WinEnviron) : Variables UInt8 := fun name =>
  match system.widen name with
  | none => none
  | some name =>
      match find (system.fold name) environ with
      | none => none
      | some entry =>
          match system.narrow entry.value.chars with
          | none => none
          | some value => some ⟨cString value, c_string_nul_free value⟩

def getEnvironmentStringsW (environ : WinEnviron) : WText :=
  envBlock ((system.arrange (environ.map Prod.snd)).map WinVariable.item)

-- Pl::Ansii2Wide with its default for throwOfFail.
def ansii2Wide (text : Bytes) : Option WText :=
  match PlatformBase.Ansii2Wide system.windows system.lastError (View.ended text []) true with
  | some (.ok wide) => some wide
  | _ => none

end WinSystem

-- A program that reads alone, while no other thread sets a variable.
def answer {Char α : Type} [OfNat Char 0] (env : Variables Char) : Program (ReadOp Char) ReadReply α → α
  | .ret value => value
  | .call op next => answer env (next (replyOf env op))

namespace SysEnvProc

variable (system : WinSystem)

def getA (environ : WinEnviron) (varName : Bytes) : Bytes := answer (system.variablesA environ) (Win.getA varName)

def getW (environ : WinEnviron) (varName : Bytes) : Option (WText × WinEnviron) := do
  let varNameW ← system.ansii2Wide varName
  return (answer (system.variablesW environ) (readVariable (cString varNameW)), environ)

def put (environ : WinEnviron) (varName value : Bytes) : WinEnviron :=
  system.setEnvironmentVariableA environ varName (if value = [] then none else some value)

def putW (environ : WinEnviron) (varName : Bytes) (value : WText) : Option WinEnviron := do
  let varNameW ← system.ansii2Wide varName
  return system.setEnvironmentVariableW environ varNameW (if value = [] then none else some value)

end SysEnvProc

def backend (system : WinSystem) : SysEnvBackend WinEnviron UInt16 where
  getA := SysEnvProc.getA system
  getW := SysEnvProc.getW system
  put := SysEnvProc.put system
  putW := SysEnvProc.putW system
  allW environ := do
    let items ← allW (some (system.getEnvironmentStringsW environ))
    return (items, environ)

-- What both interfaces of the system hold for one text.
structure PageText (system : WinSystem) where
  bytes : Bytes
  chars : WText
  bytesFree : 0 ∉ bytes
  widened : (system.windows.multiByteToWideChar cpAcp).convert bytes = .ok chars
  narrowed : (system.windows.wideCharToMultiByte cpAcp false).convert chars = .ok bytes
  bytesShort : bytes.length < variableLimit
  charsShort : chars.length < variableLimit

structure PageName (system : WinSystem) extends PageText system where
  nonempty : chars ≠ []
  plain : equalSignW ∉ chars
  shorter : chars.length ≤ bytes.length

end Rcp.Utils.Win
