import RcpLib.Semantics.Sorting

set_option autoImplicit false

namespace Rcp.Utils

open Semantics

-- std::wstring, over any ordered type of characters.
abbrev EnvPairW (Char : Type) := List Char × List Char

abbrev EnvsW (Char : Type) := List (EnvPairW Char)

variable {Char : Type}

variable [LinearOrder Char]

-- std::wstring::compare: by the first character that differs, else by the length.
def compareW : List Char → List Char → Int
  | [], [] => 0
  | [], _ :: _ => -1
  | _ :: _, [] => 1
  | a :: first, b :: second => if a < b then -1 else if b < a then 1 else compareW first second

def nameLess (lhs rhs : EnvPairW Char) : Bool := if compareW lhs.1 rhs.1 < 0 then true else false

theorem compare_negative (first second : List Char) : compareW first second < 0 ↔ first < second := by
  induction first generalizing second with
  | nil => cases second <;> simp [compareW]
  | cons a first ih =>
      cases second with
      | nil => simp [compareW]
      | cons b second =>
          rw [compareW, List.cons_lt_cons_iff]
          by_cases below : a < b
          · simp [below]
          · by_cases above : b < a
            · have different : a ≠ b := ne_of_gt above
              simp [below, above, different]
            · have same : a = b := le_antisymm (not_lt.mp above) (not_lt.mp below)
              simp [same, ih]

theorem name_less_iff (lhs rhs : EnvPairW Char) : nameLess lhs rhs = true ↔ lhs.1 < rhs.1 := by
  simp [nameLess, compare_negative]

section Text

variable [OfNat Char 61] [OfNat Char 10]

-- `allItems` is the list that allW has returned.
def SysEnv.dump (stdSort : StdSort (EnvPairW Char)) (allItems : EnvsW Char) : List Char :=
  (stdSort.sort nameLess allItems).foldl (fun retStr it => retStr ++ (it.1 ++ [61] ++ it.2 ++ [10])) []

theorem dump_lines (stdSort : StdSort (EnvPairW Char)) (allItems : EnvsW Char) :
    SysEnv.dump stdSort allItems =
      (stdSort.sort nameLess allItems).flatMap fun it => it.1 ++ [61] ++ it.2 ++ [10] := by
  rw [SysEnv.dump, List.foldl_append_eq_append, List.nil_append, List.flatMap_def]

theorem dump_canonical (allItems : EnvsW Char) (distinct : (allItems.map Prod.fst).Nodup)
    (stdSort : StdSort (EnvPairW Char)) :
    (∀ (other : StdSort (EnvPairW Char)) (permuted : EnvsW Char), allItems.Perm permuted →
      SysEnv.dump other permuted = SysEnv.dump stdSort allItems) ∧
    ∃ lines : EnvsW Char, lines.Perm allItems ∧ lines.Pairwise (fun first second => first.1 < second.1) ∧
      SysEnv.dump stdSort allItems = lines.flatMap fun it => it.1 ++ [61] ++ it.2 ++ [10] := by
  refine ⟨fun other permuted perm => ?_, stdSort.sort nameLess allItems, ?_, ?_, dump_lines stdSort allItems⟩
  · rw [dump_lines, dump_lines, sort_unique Prod.fst nameLess name_less_iff stdSort other allItems permuted distinct perm]
  · exact stdSort.perm nameLess (strict_weak_of_key Prod.fst nameLess name_less_iff) allItems
  · exact sort_strict Prod.fst nameLess name_less_iff stdSort allItems distinct

end Text

theorem dump_canonical_sample :
    SysEnv.dump stableSort [(([66] : List Nat), []), ([66, 65], [49])] = [66, 61, 10, 66, 65, 61, 49, 10] ∧
    SysEnv.dump stableSort [(([66, 65] : List Nat), [49]), ([66], [])] = [66, 61, 10, 66, 65, 61, 49, 10] := by
  obtain ⟨permuted, lines, perm, ascending, text⟩ :=
    dump_canonical [(([66] : List Nat), []), ([66, 65], [49])] (by decide) stableSort
  have ordered : [(([66] : List Nat), ([] : List Nat)), ([66, 65], [49])].Pairwise fun first second => first.1 < second.1 := by
    decide
  have sorted := ascending_unique Prod.fst lines _ ascending ordered fun _ => perm.mem_iff
  rw [sorted] at text
  exact ⟨text, (permuted stableSort _ (List.Perm.swap _ _ _)).trans text⟩

end Rcp.Utils
