import Mathlib.Data.List.Lex
import Mathlib.Data.List.Nodup
import Mathlib.Order.Basic
import Mathlib.Order.Lattice

set_option autoImplicit false

namespace Semantics

variable {α κ : Type}

-- What a comparison must be for the standard sort: a strict order in which not to
-- be comparable is transitive.
structure StrictWeakOrder (less : α → α → Bool) : Prop where
  irrefl : ∀ a, less a a = false
  trans : ∀ a b c, less a b = true → less b c = true → less a c = true
  incomparable : ∀ a b c, less a b = false → less b a = false → less b c = false → less c b = false →
    less a c = false ∧ less c a = false

-- Elements that compare equal may come out in any order.
structure StdSort (α : Type) where
  sort : (α → α → Bool) → List α → List α
  perm : ∀ less, StrictWeakOrder less → ∀ items, (sort less items).Perm items
  sorted : ∀ less, StrictWeakOrder less → ∀ items, (sort less items).Pairwise fun a b => less b a = false

theorem not_less_trans (less : α → α → Bool) (order : StrictWeakOrder less) (a b c : α) (first : less b a = false)
    (second : less c b = false) : less c a = false := by
  cases forward : less a b with
  | true =>
      cases reverse : less c a with
      | false => rfl
      | true => exact absurd (order.trans c a b reverse forward) (by simp [second])
  | false =>
      cases beyond : less b c with
      | true =>
          cases reverse : less c a with
          | false => rfl
          | true => exact absurd (order.trans b c a beyond reverse) (by simp [first])
      | false => exact (order.incomparable a b c forward first beyond second).2

theorem not_less_total (less : α → α → Bool) (order : StrictWeakOrder less) (a b : α) :
    less b a = false ∨ less a b = false := by
  cases forward : less b a with
  | false => exact .inl rfl
  | true =>
      cases reverse : less a b with
      | false => exact .inr rfl
      | true => exact absurd (order.trans a b a reverse forward) (by simp [order.irrefl a])

def stableSort : StdSort α where
  sort less items := items.mergeSort fun a b => !less b a
  perm less _ items := List.mergeSort_perm items _
  sorted less order items := by
    have trans : ∀ a b c : α, (!less b a) = true → (!less c b) = true → (!less c a) = true := by
      intro a b c first second
      have last := not_less_trans less order a b c (by simpa using first) (by simpa using second)
      simpa using last
    have total : ∀ a b : α, (!less b a || !less a b) = true := by
      intro a b
      have either := not_less_total less order a b
      simpa using either
    have sorted := List.pairwise_mergeSort trans total items
    exact sorted.imp fun below => by simpa using below

-- The numbers of a machine type, ordered by their values.
@[reducible] def orderOfValues [LE α] [LT α] [DecidableLE α] [DecidableEq α] (value : α → Nat)
    (injective : Function.Injective value) (le : ∀ a b, value a ≤ value b ↔ a ≤ b) (lt : ∀ a b, value a < value b ↔ a < b) :
    LinearOrder α where
  toPartialOrder := injective.partialOrder value (le _ _) (lt _ _)
  le_total a b := by
    rw [← le, ← le]
    exact Nat.le_total (value a) (value b)
  toDecidableLE := inferInstance
  toDecidableEq := inferInstance

section Keys

variable [LinearOrder κ] (key : α → κ)

theorem ascending_nodup (items : List α) (ascending : items.Pairwise fun a b => key a < key b) : items.Nodup := by
  apply List.Pairwise.imp _ ascending
  intro a b below equal
  rw [equal] at below
  exact lt_irrefl _ below

theorem ascending_perm (first second : List α) (ascending : first.Pairwise fun a b => key a < key b)
    (also : second.Pairwise fun a b => key a < key b) (perm : first.Perm second) : first = second := by
  apply List.Perm.eq_of_pairwise _ ascending also perm
  intro a b _ _ below above
  exact absurd (lt_trans below above) (lt_irrefl _)

theorem ascending_unique (first second : List α) (ascending : first.Pairwise fun a b => key a < key b)
    (also : second.Pairwise fun a b => key a < key b) (same : ∀ item, item ∈ first ↔ item ∈ second) : first = second := by
  have distinct := ascending_nodup key first ascending
  have apart := ascending_nodup key second also
  exact ascending_perm key first second ascending also ((List.perm_ext_iff_of_nodup distinct apart).mpr same)

variable (less : α → α → Bool) (agrees : ∀ a b, less a b = true ↔ key a < key b)

include agrees

theorem strict_weak_of_key : StrictWeakOrder less := by
  have negative : ∀ a b, less a b = false ↔ key b ≤ key a := by
    intro a b
    rw [← Bool.not_eq_true, agrees, not_lt]
  refine ⟨fun a => (negative a a).mpr le_rfl, ?_, ?_⟩
  · intro a b c first second
    rw [agrees] at first second ⊢
    exact lt_trans first second
  · intro a b c ba ab cb bc
    rw [negative] at ba ab cb bc
    exact ⟨(negative a c).mpr (le_trans cb ba), (negative c a).mpr (le_trans ab bc)⟩

theorem sort_strict (stdSort : StdSort α) (items : List α) (distinct : (items.map key).Nodup) :
    (stdSort.sort less items).Pairwise fun a b => key a < key b := by
  have order := strict_weak_of_key key less agrees
  have perm := stdSort.perm less order items
  have apart : (stdSort.sort less items).Pairwise fun a b => key a ≠ key b :=
    List.pairwise_map.mp ((perm.map key).nodup_iff.mpr distinct)
  refine (stdSort.sorted less order items).imp₂ (fun a b ordered different => ?_) apart
  have above : ¬ key b < key a := by
    rw [← agrees, ordered]
    simp
  exact lt_of_le_of_ne (not_lt.mp above) different

theorem sort_unique (stdSort other : StdSort α) (first second : List α) (distinct : (first.map key).Nodup)
    (perm : first.Perm second) : stdSort.sort less first = other.sort less second := by
  have order := strict_weak_of_key key less agrees
  have apart := (perm.map key).nodup_iff.mp distinct
  have sorted := sort_strict key less agrees stdSort first distinct
  have also := sort_strict key less agrees other second apart
  apply ascending_perm key _ _ sorted also
  exact (stdSort.perm less order first).trans (perm.trans (other.perm less order second).symm)

end Keys

end Semantics
