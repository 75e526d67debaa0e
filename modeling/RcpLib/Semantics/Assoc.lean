import Mathlib.Data.List.Nodup
import Mathlib.Logic.Function.Basic

set_option autoImplicit false

namespace Semantics

abbrev Assoc (κ ν : Type) := List (κ × ν)

variable {κ ν : Type}

def Distinct (bindings : Assoc κ ν) : Prop := (bindings.map Prod.fst).Nodup

theorem distinct_cons (key : κ) (value : ν) (rest : Assoc κ ν) :
    Distinct ((key, value) :: rest) ↔ (∀ binding ∈ rest, binding.1 ≠ key) ∧ Distinct rest := by
  simp only [Distinct, List.map_cons, List.nodup_cons, List.mem_map]
  refine and_congr_left fun _ => ⟨fun absent binding member same => absent ⟨binding, member, same⟩, ?_⟩
  intro apart bound
  obtain ⟨binding, member, same⟩ := bound
  exact apart binding member same

-- How many bindings have a value of the kind that is counted.
def holders (counted : ν → Bool) (bindings : Assoc κ ν) : Nat := bindings.countP fun binding => counted binding.2

theorem holders_cons (counted : ν → Bool) (key : κ) (value : ν) (rest : Assoc κ ν) :
    holders counted ((key, value) :: rest) = holders counted rest + (counted value).toNat := by
  cases kind : counted value <;> simp [holders, kind]

variable [DecidableEq κ]

def find (key : κ) : Assoc κ ν → Option ν
  | [] => none
  | (other, value) :: rest => if other = key then some value else find key rest

def store (key : κ) (value : ν) : Assoc κ ν → Assoc κ ν
  | [] => [(key, value)]
  | (other, old) :: rest => if other = key then (key, value) :: rest else (other, old) :: store key value rest

def remove (key : κ) (bindings : Assoc κ ν) : Assoc κ ν := bindings.filter fun binding => binding.1 ≠ key

theorem find_store (key : κ) (value : ν) (bindings : Assoc κ ν) (other : κ) :
    find other (store key value bindings) = if other = key then some value else find other bindings := by
  induction bindings with
  | nil =>
      by_cases same : other = key
      · simp [store, find, same]
      · simp [store, find, same, Ne.symm same]
  | cons binding rest ih =>
      obtain ⟨first, old⟩ := binding
      by_cases here : first = key
      · subst here
        by_cases same : other = first
        · simp [store, find, same]
        · simp [store, find, same, Ne.symm same]
      · by_cases same : first = other
        · subst same
          simp [store, find, here]
        · simp [store, find, here, same, ih]

theorem find_remove (key : κ) (bindings : Assoc κ ν) (other : κ) :
    find other (remove key bindings) = if other = key then none else find other bindings := by
  induction bindings with
  | nil => simp [remove, find]
  | cons binding rest ih =>
      obtain ⟨first, old⟩ := binding
      by_cases here : first = key
      · subst here
        by_cases same : other = first
        · simpa [remove, find, same] using ih
        · simpa [remove, find, same, Ne.symm same] using ih
      · by_cases same : first = other
        · subst same
          simp [remove, find, here]
        · simpa [remove, find, here, same] using ih

theorem mem_store (key : κ) (value : ν) (bindings : Assoc κ ν) (binding : κ × ν)
    (member : binding ∈ store key value bindings) : binding = (key, value) ∨ binding ∈ bindings := by
  induction bindings with
  | nil => exact .inl (by simpa [store] using member)
  | cons first rest ih =>
      obtain ⟨other, old⟩ := first
      unfold store at member
      split at member
      · exact (List.mem_cons.mp member).imp_right (List.mem_cons_of_mem _)
      · rcases List.mem_cons.mp member with here | later
        · exact .inr (by simp [here])
        · exact (ih later).imp_right (List.mem_cons_of_mem _)

theorem distinct_store (key : κ) (value : ν) (bindings : Assoc κ ν) (distinct : Distinct bindings) :
    Distinct (store key value bindings) := by
  induction bindings with
  | nil => simp [store, Distinct]
  | cons binding rest ih =>
      obtain ⟨first, old⟩ := binding
      obtain ⟨apart, others⟩ := (distinct_cons first old rest).mp distinct
      by_cases here : first = key
      · subst here
        simp only [store, if_true]
        exact (distinct_cons first value rest).mpr ⟨apart, others⟩
      · simp only [store, here, if_false]
        refine (distinct_cons first old _).mpr ⟨fun binding member => ?_, ih others⟩
        rcases mem_store key value rest binding member with rfl | earlier
        · exact Ne.symm here
        · exact apart binding earlier

theorem distinct_remove (key : κ) (bindings : Assoc κ ν) (distinct : Distinct bindings) :
    Distinct (remove key bindings) :=
  distinct.sublist (List.filter_sublist.map Prod.fst)

theorem mem_of_find (key : κ) (value : ν) (bindings : Assoc κ ν) (found : find key bindings = some value) :
    (key, value) ∈ bindings := by
  induction bindings with
  | nil => simp [find] at found
  | cons binding rest ih =>
      obtain ⟨first, old⟩ := binding
      by_cases here : first = key
      · have same : old = value := by simpa [find, here] using found
        simp [here, same]
      · exact List.mem_cons_of_mem _ (ih (by simpa [find, here] using found))

theorem find_iff_mem (key : κ) (value : ν) (bindings : Assoc κ ν) (distinct : Distinct bindings) :
    find key bindings = some value ↔ (key, value) ∈ bindings := by
  refine ⟨mem_of_find key value bindings, fun member => ?_⟩
  induction bindings with
  | nil => simp at member
  | cons binding rest ih =>
      obtain ⟨first, old⟩ := binding
      obtain ⟨apart, others⟩ := (distinct_cons first old rest).mp distinct
      rcases List.mem_cons.mp member with here | later
      · cases here
        simp [find]
      · have different : first ≠ key := Ne.symm (apart (key, value) later)
        simpa [find, different] using ih others later

theorem holders_store_new (counted : ν → Bool) (key : κ) (value : ν) (bindings : Assoc κ ν)
    (absent : find key bindings = none) :
    holders counted (store key value bindings) = holders counted bindings + (counted value).toNat := by
  induction bindings with
  | nil => cases kind : counted value <;> simp [store, holders, kind]
  | cons binding rest ih =>
      obtain ⟨first, old⟩ := binding
      by_cases here : first = key
      · simp [find, here] at absent
      · have later : find key rest = none := by simpa [find, here] using absent
        simp only [store, here, if_false, holders_cons, ih later]
        omega

theorem holders_store (counted : ν → Bool) (key : κ) (value old : ν) (bindings : Assoc κ ν)
    (found : find key bindings = some old) :
    holders counted (store key value bindings) + (counted old).toNat =
      holders counted bindings + (counted value).toNat := by
  induction bindings with
  | nil => simp [find] at found
  | cons binding rest ih =>
      obtain ⟨first, held⟩ := binding
      by_cases here : first = key
      · obtain rfl : held = old := by simpa [find, here] using found
        simp only [store, here, if_true, holders_cons]
        omega
      · have later : find key rest = some old := by simpa [find, here] using found
        have step := ih later
        simp only [store, here, if_false, holders_cons]
        omega

theorem remove_absent (key : κ) (bindings : Assoc κ ν) (absent : ∀ binding ∈ bindings, binding.1 ≠ key) :
    remove key bindings = bindings := by
  rw [remove, List.filter_eq_self]
  intro binding member
  simpa using absent binding member

theorem holders_remove (counted : ν → Bool) (key : κ) (old : ν) (bindings : Assoc κ ν) (distinct : Distinct bindings)
    (found : find key bindings = some old) :
    holders counted (remove key bindings) + (counted old).toNat = holders counted bindings := by
  induction bindings with
  | nil => simp [find] at found
  | cons binding rest ih =>
      obtain ⟨first, held⟩ := binding
      obtain ⟨apart, others⟩ := (distinct_cons first held rest).mp distinct
      by_cases here : first = key
      · obtain rfl : held = old := by simpa [find, here] using found
        subst here
        have same : remove first ((first, held) :: rest) = rest := by
          rw [← remove_absent first rest apart]
          simp [remove]
        rw [same, holders_cons]
      · have later : find key rest = some old := by simpa [find, here] using found
        have step := ih others later
        have same : remove key ((first, held) :: rest) = (first, held) :: remove key rest := by
          simp [remove, here]
        rw [same, holders_cons, holders_cons]
        omega

section Renamed

variable {κ' ν' : Type} [DecidableEq κ'] (rename : κ → κ') (change : ν → ν') (injective : Function.Injective rename)

def renamed (bindings : Assoc κ ν) : Assoc κ' ν' := bindings.map fun binding => (rename binding.1, change binding.2)

include injective

theorem find_renamed (key : κ) (bindings : Assoc κ ν) :
    find (rename key) (renamed rename change bindings) = (find key bindings).map change := by
  induction bindings with
  | nil => rfl
  | cons binding rest ih =>
      obtain ⟨first, value⟩ := binding
      by_cases here : first = key
      · simp [renamed, find, here]
      · have apart : rename first ≠ rename key := fun same => here (injective same)
        simpa [renamed, find, here, apart] using ih

theorem store_renamed (key : κ) (value : ν) (bindings : Assoc κ ν) :
    store (rename key) (change value) (renamed rename change bindings) = renamed rename change (store key value bindings) := by
  induction bindings with
  | nil => rfl
  | cons binding rest ih =>
      obtain ⟨first, old⟩ := binding
      by_cases here : first = key
      · simp [renamed, store, here]
      · have apart : rename first ≠ rename key := fun same => here (injective same)
        simpa [renamed, store, here, apart] using ih

theorem remove_renamed (key : κ) (bindings : Assoc κ ν) :
    remove (rename key) (renamed rename change bindings) = renamed rename change (remove key bindings) := by
  rw [remove, renamed, renamed, remove, List.filter_map]
  refine congrArg _ (List.filter_congr fun binding _ => ?_)
  simp [injective.eq_iff]

end Renamed

end Semantics
