import Mathlib.Data.List.Perm.Subperm
import RcpLib.Semantics.Transition

set_option autoImplicit false

namespace Semantics

variable {State Label Who : Type}

-- What is spent along a run is covered by what has been gained, whatever is left
-- or lost.
theorem tally_bound (lts : Lts State Label) (level : State → Nat) (bound : Nat) (gains spends : Label → Bool)
    (base : ∀ state, lts.initial state → level state ≤ bound)
    (kept : ∀ before label after, Reachable lts before → lts.step before label after →
      level after + (spends label).toNat ≤ level before + (gains label).toNat)
    (trail : List (State × Label)) (state : State) (run : Run lts trail state) :
    level state + tally spends trail ≤ bound + tally gains trail := by
  refine run_invariant lts (fun trail state => level state + tally spends trail ≤ bound + tally gains trail)
    ?_ ?_ trail state run
  · intro state initial
    simpa using base state initial
  · intro trail before label after previous ih taken
    have step := kept before label after ⟨trail, previous⟩ taken
    rw [tally_cons, tally_cons]
    omega

def takers (counted : Label → Bool) (who : Label → Option Who) (trail : List (State × Label)) : List Who :=
  trail.filterMap fun entry => if counted entry.2 then who entry.2 else none

theorem takers_le_tally (counted : Label → Bool) (who : Label → Option Who) (trail : List (State × Label)) :
    (takers counted who trail).length ≤ tally counted trail := by
  induction trail with
  | nil => simp [takers]
  | cons entry trail ih =>
      have ih : (List.filterMap (fun entry => if counted entry.2 then who entry.2 else none) trail).length ≤
          tally counted trail := ih
      rw [tally_cons, takers, List.filterMap_cons]
      by_cases here : counted entry.2 = true
      · cases owner : who entry.2 <;> simp only [here, if_true, List.length_cons, Bool.toNat_true] <;> omega
      · have skipped : counted entry.2 = false := by simpa using here
        simpa only [skipped, Bool.false_eq_true, if_false, Bool.toNat_false, Nat.add_zero] using ih

theorem distinct_le_tally (counted : Label → Bool) (who : Label → Option Who) (parties : List Who)
    (distinct : parties.Nodup) (trail : List (State × Label))
    (each : ∀ party ∈ parties, ∃ entry ∈ trail, counted entry.2 = true ∧ who entry.2 = some party) :
    parties.length ≤ tally counted trail := by
  have within : parties ⊆ takers counted who trail := by
    intro party member
    obtain ⟨entry, found, yes, mine⟩ := each party member
    exact List.mem_filterMap.mpr ⟨entry, found, by simp [yes, mine]⟩
  exact Nat.le_trans (List.subperm_of_subset distinct within).length_le (takers_le_tally counted who trail)

end Semantics
