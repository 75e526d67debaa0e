import RcpLib.Semantics.Numeral
import RcpLib.Utils.SysEnv

set_option autoImplicit false

namespace Rcp.Utils

open Semantics

-- The width of long is that of the platform.
inductive DataModel where
  | lp64
  | llp64
deriving DecidableEq, Repr

inductive NumType where
  | int
  | long
  | longLong
  | unsignedLong
deriving DecidableEq, Repr

def DataModel.longModulus : DataModel → Nat
  | .lp64 => 0x10000000000000000
  | .llp64 => 0x100000000

def NumType.modulus (model : DataModel) : NumType → Nat
  | .int => 0x100000000
  | .long => model.longModulus
  | .longLong => 0x10000000000000000
  | .unsignedLong => model.longModulus

def NumType.signed : NumType → Bool
  | .unsignedLong => false
  | _ => true

def signedMin (modulus : Nat) : Int := -(modulus / 2 : Nat)

def signedMax (modulus : Nat) : Int := (modulus / 2 : Nat) - 1

def NumType.min (model : DataModel) (type : NumType) : Int := if type.signed then signedMin (type.modulus model) else 0

def NumType.max (model : DataModel) (type : NumType) : Int :=
  if type.signed then signedMax (type.modulus model) else type.modulus model - 1

def NumType.Holds (model : DataModel) (type : NumType) (z : Int) : Prop := type.min model ≤ z ∧ z ≤ type.max model

instance (model : DataModel) (type : NumType) (z : Int) : Decidable (type.Holds model z) :=
  inferInstanceAs (Decidable (_ ∧ _))

structure NumValue (model : DataModel) (type : NumType) where
  val : Int
  holds : type.Holds model val

theorem num_value_ext {model : DataModel} {type : NumType} (first second : NumValue model type)
    (same : first.val = second.val) : first = second := by
  cases first
  cases second
  cases same
  rfl

theorem modulus_cases (model : DataModel) (type : NumType) :
    type.modulus model = 0x100000000 ∨ type.modulus model = 0x10000000000000000 := by
  cases type <;> cases model <;> decide

-- The conversion to an integer type, modulo 2^w.
def wrap (modulus : Nat) (signed : Bool) (z : Int) : Int :=
  if signed then (z + (modulus / 2 : Nat)) % modulus - (modulus / 2 : Nat) else z % modulus

theorem wrap_holds (model : DataModel) (type : NumType) (z : Int) :
    type.Holds model (wrap (type.modulus model) type.signed z) := by
  simp only [NumType.Holds, NumType.min, NumType.max, signedMin, signedMax, wrap]
  rcases modulus_cases model type with same | same <;> rw [same] <;> split <;> omega

def NumType.convert (model : DataModel) (type : NumType) (z : Int) : NumValue model type :=
  ⟨wrap (type.modulus model) type.signed z, wrap_holds model type z⟩

theorem convert_holds (model : DataModel) (type : NumType) (z : Int) (holds : type.Holds model z) :
    (type.convert model z).val = z := by
  simp only [NumType.Holds, NumType.min, NumType.max, signedMin, signedMax] at holds
  simp only [NumType.convert, wrap]
  rcases modulus_cases model type with same | same <;> rw [same] at holds ⊢ <;> split at holds <;> rename_i signed <;>
    simp only [signed, if_true, if_false, Bool.false_eq_true] at holds ⊢ <;> omega

inductive NumError where
  | invalidArgument
  | outOfRange
deriving DecidableEq, Repr

-- strtol and strtoll: the value, and whether errno is ERANGE; none when no
-- conversion could be performed.
def strtol (modulus : Nat) (str : Bytes) : Option (Int × Bool) :=
  match subject str with
  | none => none
  | some (sign, magnitude) =>
      let value := sign.applied magnitude
      if value < signedMin modulus then some (signedMin modulus, true)
      else if signedMax modulus < value then some (signedMax modulus, true)
      else some (value, false)

-- strtoul and strtoull negate in the unsigned type.
def strtoul (modulus : Nat) (str : Bytes) : Option (Int × Bool) :=
  match subject str with
  | none => none
  | some (sign, magnitude) =>
      if modulus ≤ magnitude then some (modulus - 1, true) else some (wrap modulus false (sign.applied magnitude), false)

def checked (result : Option (Int × Bool)) : Except NumError Int :=
  match result with
  | none => .error .invalidArgument
  | some (_, true) => .error .outOfRange
  | some (value, false) => .ok value

def stol (model : DataModel) (str : Bytes) : Except NumError Int := checked (strtol model.longModulus str)

def stoul (model : DataModel) (str : Bytes) : Except NumError Int := checked (strtoul model.longModulus str)

def stoull (str : Bytes) : Except NumError Int := checked (strtoul 0x10000000000000000 str)

-- std::stoi parses a long.
def stoi (model : DataModel) (str : Bytes) : Except NumError Int :=
  match stol model str with
  | .error error => .error error
  | .ok value => if NumType.int.Holds model value then .ok value else .error .outOfRange

namespace NumTraits

def defValue (model : DataModel) (type : NumType) : NumValue model type := type.convert model 0

def fromLongLong (model : DataModel) (val : Bytes) : Except NumError (NumValue model .longLong) :=
  (stoull val).map (NumType.longLong.convert model)

def fromUnsignedLong (model : DataModel) (val : Bytes) : Except NumError (NumValue model .unsignedLong) :=
  (stoul model val).map (NumType.unsignedLong.convert model)

def fromInt (model : DataModel) (val : Bytes) : Except NumError (NumValue model .int) :=
  (stoi model val).map (NumType.int.convert model)

def fromLong (model : DataModel) (val : Bytes) : Except NumError (NumValue model .long) :=
  (stol model val).map (NumType.long.convert model)

def «from» (model : DataModel) : (type : NumType) → Bytes → Except NumError (NumValue model type)
  | .longLong => fromLongLong model
  | .unsignedLong => fromUnsignedLong model
  | .int => fromInt model
  | .long => fromLong model

end NumTraits

-- get<T> of a number. What the parser throws is logged by a function that does
-- nothing.
def SysEnv.getNumber (model : DataModel) (type : NumType) (environ : Environ) (envVarName : Bytes)
    (defVal : NumValue model type) : NumValue model type :=
  let val := SysEnvProc.getA environ envVarName
  if val = [] then defVal
  else
    match NumTraits.from model type val with
    | .ok value => value
    | .error _ => defVal

def SysEnv.putNumber (model : DataModel) (type : NumType) (environ : Environ) (envVarName : Bytes)
    (val : NumValue model type) : Environ := SysEnv.putInteger environ envVarName val.val

end Rcp.Utils
