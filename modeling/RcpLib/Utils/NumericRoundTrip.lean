import RcpLib.Utils.EnvCells
import RcpLib.Utils.IntegerText
import RcpLib.Utils.NumericValues

set_option autoImplicit false

namespace Rcp.Utils

open Semantics

-- The parser of long long wraps a negative value, and the conversion wraps it back.
theorem from_to_string (model : DataModel) (type : NumType) (val : NumValue model type) :
    NumTraits.from model type (SysEnv.toString val.val) = .ok val := by
  have same : type.convert model val.val = val := num_value_ext _ _ (convert_holds model type val.val val.holds)
  rw [from_denotes model type _ _ (to_string_denotes val.val), if_pos (accepts_of_holds model type val.val val.holds), same]

theorem number_round_trip (model : DataModel) (type : NumType) (environ : Environ) (name : EnvName)
    (val defVal : NumValue model type) :
    NumTraits.from model type (SysEnv.toString val.val) = .ok val ∧
      SysEnv.getNumber model type (SysEnv.putNumber model type environ name.bytes val) name.bytes defVal = val := by
  have parsed := from_to_string model type val
  refine ⟨parsed, ?_⟩
  have stored : SysEnvProc.getA (SysEnv.putNumber model type environ name.bytes val) name.bytes =
      SysEnv.toString val.val := by
    rw [SysEnv.putNumber, SysEnv.putInteger, getA_put _ _ _ _ (to_string_nul_free val.val), if_pos rfl]
  rw [SysEnv.getNumber, stored, if_neg (to_string_nonempty val.val), parsed]

end Rcp.Utils
