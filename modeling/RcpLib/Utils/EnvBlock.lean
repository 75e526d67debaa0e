import RcpLib.Semantics.CString
import RcpLib.Utils.Dump

set_option autoImplicit false

namespace Rcp.Utils.Win

open Semantics

abbrev WText := List UInt16

def equalSignW : UInt16 := 61

-- std::wstring from a pointer: the characters up to a NUL. The memory is what may
-- be read; none is a read outside of it.
def wstring (memory : WText) (current : Nat) : Option WText :=
  let text := (memory.drop current).takeWhile (· ≠ 0)
  if current + text.length < memory.length then some text else none

def pushItem (retVal : EnvsW UInt16) (item : WText) : EnvsW UInt16 :=
  match item.findIdx? (· = equalSignW) with
  | some pos =>
      let varName := item.take pos
      if varName ≠ [] then retVal ++ [(varName, item.drop (pos + 1))] else retVal
  | none => retVal

def allWLoop (memory : WText) (current : Nat) (retVal : EnvsW UInt16) : Option (EnvsW UInt16 × Nat) :=
  if inside : current < memory.length then
    if memory[current] ≠ 0 then
      match wstring memory current with
      | none => none
      | some item => allWLoop memory (current + (item.length + 1)) (pushItem retVal item)
    else some (retVal, current)
  else none
termination_by memory.length - current

-- `envsW` is what GetEnvironmentStringsW returns, which may be null.
def allW (envsW : Option WText) : Option (EnvsW UInt16) :=
  match envsW with
  | none => some []
  | some memory => (allWLoop memory 0 []).map Prod.fst

structure EnvItem where
  chars : WText
  nonempty : chars ≠ []
  nulFree : 0 ∉ chars

def terminated (item : EnvItem) : WText := item.chars ++ [0]

def envBlock (items : List EnvItem) : WText := items.flatMap terminated ++ [0]

def pairOf (item : EnvItem) : Option (EnvPairW UInt16) :=
  let name := item.chars.takeWhile (· ≠ equalSignW)
  if name ≠ [] ∧ name ≠ item.chars then some (name, item.chars.drop (name.length + 1)) else none

theorem push_split (retVal : EnvsW UInt16) (name value : WText) (plain : equalSignW ∉ name) (nonempty : name ≠ []) :
    pushItem retVal (name ++ equalSignW :: value) = retVal ++ [(name, value)] := by
  rw [pushItem, find_idx_stop equalSignW name value plain]
  simp [nonempty]

theorem push_leading (retVal : EnvsW UInt16) (value : WText) : pushItem retVal (equalSignW :: value) = retVal := by
  simp [pushItem, List.findIdx?_cons]

theorem push_plain (retVal : EnvsW UInt16) (item : WText) (plain : equalSignW ∉ item) : pushItem retVal item = retVal := by
  have absent : item.findIdx? (· = equalSignW) = none := by
    rw [List.findIdx?_eq_none_iff]
    intro char member
    have different : char ≠ equalSignW := fun same => plain (same ▸ member)
    simpa using different
  rw [pushItem, absent]

theorem pair_of_split (item : EnvItem) (name value : WText) (plain : equalSignW ∉ name)
    (same : item.chars = name ++ equalSignW :: value) :
    pairOf item = if name ≠ [] then some (name, value) else none := by
  have differs : name ≠ name ++ equalSignW :: value := by simp
  simp only [pairOf, same, take_while_stop equalSignW name value plain, drop_stop]
  simp [differs]

theorem pair_of_iff (item : EnvItem) (name value : WText) :
    pairOf item = some (name, value) ↔ item.chars = name ++ equalSignW :: value ∧ name ≠ [] ∧ equalSignW ∉ name := by
  refine ⟨fun paired => ?_, fun parts => ?_⟩
  · by_cases plain : equalSignW ∈ item.chars
    · obtain ⟨before, after, same, absent⟩ := List.eq_append_cons_of_mem plain
      rw [pair_of_split item before after absent same] at paired
      split at paired
      · rename_i nonempty
        cases paired
        exact ⟨same, nonempty, absent⟩
      · cases paired
    · rw [pairOf, take_while_absent equalSignW item.chars plain] at paired
      simp at paired
  · obtain ⟨same, nonempty, plain⟩ := parts
    rw [pair_of_split item name value plain same, if_pos nonempty]

theorem push_item (retVal : EnvsW UInt16) (item : EnvItem) :
    pushItem retVal item.chars = retVal ++ (pairOf item).toList := by
  cases pair : pairOf item with
  | some binding =>
      obtain ⟨same, nonempty, plain⟩ := (pair_of_iff item binding.1 binding.2).mp pair
      rw [same, push_split retVal _ _ plain nonempty]
      rfl
  | none =>
      by_cases plain : equalSignW ∈ item.chars
      · obtain ⟨before, after, same, absent⟩ := List.eq_append_cons_of_mem plain
        have empty : before = [] := by
          rw [pair_of_split item before after absent same] at pair
          by_contra nonempty
          simp [nonempty] at pair
        rw [same, empty]
        simpa using push_leading retVal after
      · simpa using push_plain retVal item.chars plain

theorem wstring_item (before rest : WText) (item : EnvItem) :
    wstring (before ++ (terminated item ++ rest)) before.length = some item.chars := by
  have text : (item.chars ++ 0 :: rest).takeWhile (· ≠ 0) = item.chars := take_while_stop 0 item.chars rest item.nulFree
  have inside : before.length + item.chars.length < (before ++ (item.chars ++ 0 :: rest)).length := by
    simp only [List.length_append, List.length_cons]
    omega
  rw [wstring, List.drop_left, terminated, List.append_assoc, List.singleton_append, text]
  exact if_pos inside

theorem loop_item (before rest : WText) (item : EnvItem) (retVal : EnvsW UInt16) :
    allWLoop (before ++ (terminated item ++ rest)) before.length retVal =
      allWLoop ((before ++ terminated item) ++ rest) (before ++ terminated item).length
        (retVal ++ (pairOf item).toList) := by
  have inside : before.length < (before ++ (terminated item ++ rest)).length := by
    simp only [terminated, List.length_append, List.length_singleton]
    omega
  have first : (before ++ (terminated item ++ rest))[before.length] ≠ 0 := by
    obtain ⟨chars, nonempty, nulFree⟩ := item
    cases chars with
    | nil => exact absurd rfl nonempty
    | cons char chars =>
        simp only [List.mem_cons, not_or] at nulFree
        simpa [terminated] using Ne.symm nulFree.1
  have next : (before ++ terminated item).length = before.length + (item.chars.length + 1) := by simp [terminated]
  rw [allWLoop, dif_pos inside, if_pos first, wstring_item]
  dsimp only
  rw [push_item, next, List.append_assoc]

theorem loop_end (before tail : WText) (retVal : EnvsW UInt16) :
    allWLoop (before ++ 0 :: tail) before.length retVal = some (retVal, before.length) := by
  have inside : before.length < (before ++ 0 :: tail).length := by simp
  rw [allWLoop, dif_pos inside, if_neg (by simp)]

-- By induction on the items that are left, with the parsed part of the block before
-- the pointer.
theorem loop_block (items : List EnvItem) (before tail : WText) (retVal : EnvsW UInt16) :
    allWLoop (before ++ (envBlock items ++ tail)) before.length retVal =
      some (retVal ++ items.filterMap pairOf, before.length + (envBlock items).length - 1) := by
  induction items generalizing before retVal with
  | nil => simpa [envBlock] using loop_end before tail retVal
  | cons item items ih =>
      have block : envBlock (item :: items) = terminated item ++ envBlock items := by simp [envBlock]
      have step := loop_item before (envBlock items ++ tail) item retVal
      rw [block, List.append_assoc, step, ih]
      have pairs : (item :: items).filterMap pairOf = (pairOf item).toList ++ items.filterMap pairOf := by
        cases pair : pairOf item <;> simp [pair]
      rw [pairs, List.append_assoc, List.length_append, List.length_append, Nat.add_assoc]

-- A variable as the system lists it: its name may not hold an equal sign.
structure EnvBinding where
  name : WText
  value : WText
  nonempty : name ≠ []
  plain : equalSignW ∉ name
  nulFree : 0 ∉ name ∧ 0 ∉ value

def EnvBinding.pair (binding : EnvBinding) : EnvPairW UInt16 := (binding.name, binding.value)

def EnvBinding.item (binding : EnvBinding) : EnvItem where
  chars := binding.name ++ equalSignW :: binding.value
  nonempty := by simp
  nulFree := by
    have different : (0 : UInt16) ≠ equalSignW := by decide
    simp [binding.nulFree, different]

theorem pair_of_item (binding : EnvBinding) : pairOf binding.item = some binding.pair :=
  (pair_of_iff binding.item binding.name binding.value).mpr ⟨rfl, binding.nonempty, binding.plain⟩

-- Nothing of the tail is read, which may be empty: the pointer ends at the last
-- NUL of the block.
theorem environment_block_exact (items : List EnvItem) (tail : WText) :
    allWLoop (envBlock items ++ tail) 0 [] = some (items.filterMap pairOf, (envBlock items).length - 1) ∧
      allW (some (envBlock items ++ tail)) = some (items.filterMap pairOf) ∧
      ∀ bindings : List EnvBinding,
        allW (some (envBlock (bindings.map EnvBinding.item) ++ tail)) = some (bindings.map EnvBinding.pair) := by
  have loop : ∀ items, allWLoop (envBlock items ++ tail) 0 [] =
      some (items.filterMap pairOf, (envBlock items).length - 1) := by
    intro items
    simpa using loop_block items [] tail []
  have parsed : ∀ items, allW (some (envBlock items ++ tail)) = some (items.filterMap pairOf) := by
    intro items
    rw [allW, loop]
    rfl
  refine ⟨loop items, parsed items, fun bindings => ?_⟩
  rw [parsed, List.filterMap_map]
  congr 1
  rw [← List.filterMap_eq_map]
  exact List.filterMap_congr fun binding _ => pair_of_item binding

end Rcp.Utils.Win
