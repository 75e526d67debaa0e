import Mathlib.Data.List.TakeWhile

set_option autoImplicit false

namespace Semantics

variable {α : Type}

theorem drop_stop (stop : α) (text rest : List α) : (text ++ stop :: rest).drop (text.length + 1) = rest := by
  rw [← List.drop_drop, List.drop_left]
  rfl

-- std::vector::resize and std::string::resize: what is new is zero.
def resize [OfNat α 0] (buff : List α) (size : Nat) : List α := buff.take size ++ List.replicate (size - buff.length) 0

theorem resize_length [OfNat α 0] (buff : List α) (size : Nat) : (resize buff size).length = size := by
  simp only [resize, List.length_append, List.length_take, List.length_replicate]
  omega

def overwrite (buff written : List α) : List α := written ++ buff.drop written.length

theorem overwrite_full (buff written : List α) (full : buff.length ≤ written.length) : overwrite buff written = written := by
  rw [overwrite, List.drop_eq_nil_of_le full, List.append_nil]

section Stops

variable [DecidableEq α]

theorem take_while_stop (stop : α) (text rest : List α) (absent : stop ∉ text) :
    (text ++ stop :: rest).takeWhile (· ≠ stop) = text := by
  rw [List.takeWhile_append_of_pos]
  · simp
  · intro char member
    have different : char ≠ stop := fun same => absent (same ▸ member)
    simpa using different

theorem take_while_absent (stop : α) (text : List α) (absent : stop ∉ text) : text.takeWhile (· ≠ stop) = text := by
  rw [List.takeWhile_eq_self_iff]
  intro char member
  have different : char ≠ stop := fun same => absent (same ▸ member)
  simpa using different

theorem find_idx_stop (stop : α) (text rest : List α) (absent : stop ∉ text) :
    (text ++ stop :: rest).findIdx? (· = stop) = some text.length := by
  induction text with
  | nil => simp [List.findIdx?_cons]
  | cons first text ih =>
      simp only [List.mem_cons, not_or] at absent
      rw [List.cons_append, List.findIdx?_cons, ih absent.2]
      simp [Ne.symm absent.1]

variable [OfNat α 0]

-- The string at a pointer: the characters before the first NUL.
def cString (memory : List α) : List α := memory.takeWhile (· ≠ 0)

theorem c_string_append (text rest : List α) (nulFree : 0 ∉ text) : cString (text ++ 0 :: rest) = text :=
  take_while_stop 0 text rest nulFree

theorem c_string_whole (text : List α) (nulFree : 0 ∉ text) : cString text = text :=
  take_while_absent 0 text nulFree

theorem c_string_nul_free (memory : List α) : 0 ∉ cString memory := by
  intro member
  simpa using List.mem_takeWhile_imp member

theorem c_string_split (memory : List α) (terminated : 0 ∈ memory) : ∃ rest, memory = cString memory ++ 0 :: rest := by
  obtain ⟨before, rest, same, absent⟩ := List.eq_append_cons_of_mem terminated
  have stopped := c_string_append before rest absent
  refine ⟨rest, ?_⟩
  rw [same, stopped]

end Stops

end Semantics
