import Mathlib.Logic.Basic

set_option autoImplicit false

namespace Semantics

-- A lock that its owner may take again: `again` counts the further times. What a
-- release by anyone but the owner leaves is broken.
inductive RecursiveLock (Party : Type) where
  | free
  | owned (owner : Party) (again : Nat)
  | broken
deriving DecidableEq, Repr

namespace RecursiveLock

variable {Party : Type} [DecidableEq Party]

def available (party : Party) : RecursiveLock Party → Bool
  | free => true
  | owned owner _ => owner = party
  | broken => false

def acquire (party : Party) : RecursiveLock Party → RecursiveLock Party
  | free => owned party 0
  | owned owner again => owned owner (again + 1)
  | broken => broken

def release (party : Party) : RecursiveLock Party → RecursiveLock Party
  | owned owner again => if owner = party then (match again with | 0 => free | again + 1 => owned owner again) else broken
  | _ => broken

def depth (party : Party) : RecursiveLock Party → Nat
  | owned owner again => if owner = party then again + 1 else 0
  | _ => 0

@[simp] theorem depth_free (party : Party) : depth party free = 0 := rfl

theorem depth_acquire (party other : Party) (lock : RecursiveLock Party) (available : lock.available party = true) :
    (lock.acquire party).depth other = lock.depth other + (if other = party then 1 else 0) := by
  cases lock with
  | free => simp [acquire, depth, eq_comm]
  | owned owner again =>
      obtain rfl : owner = party := by simpa [RecursiveLock.available] using available
      by_cases same : owner = other
      · simp [acquire, depth, same]
      · simp [acquire, depth, same, Ne.symm same]
  | broken => simp [RecursiveLock.available] at available

theorem depth_release (party other : Party) (lock : RecursiveLock Party) (held : 0 < lock.depth party) :
    (lock.release party).depth other = lock.depth other - (if other = party then 1 else 0) := by
  cases lock with
  | free => simp [depth] at held
  | owned owner again =>
      by_cases mine : owner = party
      · subst mine
        by_cases same : owner = other
        · subst same
          cases again <;> simp [release, depth]
        · cases again <;> simp [release, depth, same]
      · simp [depth, mine] at held
  | broken => simp [depth] at held

theorem acquire_intact (party : Party) (lock : RecursiveLock Party) (available : lock.available party = true) :
    lock.acquire party ≠ broken := by
  cases lock with
  | free => simp [acquire]
  | owned owner again => simp [acquire]
  | broken => simp [RecursiveLock.available] at available

theorem release_intact (party : Party) (lock : RecursiveLock Party) (held : 0 < lock.depth party) :
    lock.release party ≠ broken := by
  cases lock with
  | free => simp [depth] at held
  | owned owner again =>
      by_cases mine : owner = party
      · cases again <;> simp [release, mine]
      · simp [depth, mine] at held
  | broken => simp [depth] at held

theorem owner_unique (first second : Party) (lock : RecursiveLock Party) (one : 0 < lock.depth first)
    (two : 0 < lock.depth second) : first = second := by
  cases lock with
  | free => simp [depth] at one
  | owned owner again =>
      by_cases mine : owner = first
      · by_cases yours : owner = second
        · exact mine.symm.trans yours
        · simp [depth, yours] at two
      · simp [depth, mine] at one
  | broken => simp [depth] at one

theorem unavailable (party : Party) (lock : RecursiveLock Party) (intact : lock ≠ broken)
    (taken : lock.available party = false) : ∃ other, other ≠ party ∧ 0 < lock.depth other := by
  cases lock with
  | free => simp [available] at taken
  | owned owner again => exact ⟨owner, by simpa [available] using taken, by simp [depth]⟩
  | broken => exact absurd rfl intact

end RecursiveLock

end Semantics
