import RcpLib.Data.Buffers

set_option autoImplicit false

namespace Rcp.Data

open Semantics

def pointsTo (ref : Ref) : Buffer → Bool
  | .shared m_buffer => m_buffer = ref
  | _ => false

def referred : Buffer → Option Ref
  | .shared m_buffer => some m_buffer
  | _ => none

theorem points_to_referred (ref : Ref) (buffer : Buffer) :
    (pointsTo ref buffer).toNat = if referred buffer = some ref then 1 else 0 := by
  cases buffer with
  | shared m_buffer => by_cases same : m_buffer = ref <;> simp [pointsTo, referred, same]
  | _ => simp [pointsTo, referred]

-- `pending` is a shared_ptr that is being destroyed: its count still stands, and no
-- one has it any more. A SharedBuffer refers to an older buffer.
structure Sound (pending : Option Ref) (heap : Heap) : Prop where
  distinct : Distinct heap.cells
  bounded : ∀ ref, heap.counts ref ≠ 0 → ref < heap.next
  acyclic : ∀ ref m_buffer, find ref heap.cells = some (.shared m_buffer) → m_buffer < ref
  counted : ∀ ref, heap.counts ref =
    heap.owners ref + holders (pointsTo ref) heap.cells + (if pending = some ref then 1 else 0)
  live : ∀ ref, find ref heap.cells ≠ none ↔ heap.counts ref ≠ 0

structure Shrinks (heap later : Heap) : Prop where
  next : later.next = heap.next
  owners : later.owners = heap.owners
  cells : ∀ ref, find ref later.cells = find ref heap.cells ∨ find ref later.cells = none

theorem shrinks_trans (first second third : Heap) (one : Shrinks first second) (two : Shrinks second third) :
    Shrinks first third := by
  refine ⟨two.next.trans one.next, two.owners.trans one.owners, fun ref => ?_⟩
  rcases two.cells ref with same | gone
  · rw [same]
    exact one.cells ref
  · exact .inr gone

section Release

variable (heap : Heap) (ref : Ref) (sound : Sound (some ref) heap)

include sound

theorem pending_counted : heap.counts ref ≠ 0 := by
  rw [sound.counted]
  simp

theorem release_shared (more : heap.counts ref ≠ 1) :
    Sound none { heap with counts := Function.update heap.counts ref (heap.counts ref - 1) } := by
  have some_count := pending_counted heap ref sound
  have still (x : Ref) : Function.update heap.counts ref (heap.counts ref - 1) x ≠ 0 ↔ heap.counts x ≠ 0 := by
    by_cases same : x = ref
    · subst same
      simp only [Function.update_self]
      omega
    · rw [Function.update_of_ne same]
  refine ⟨sound.distinct, fun x counted => sound.bounded x ((still x).mp counted), sound.acyclic, fun x => ?_,
    fun x => (sound.live x).trans (still x).symm⟩
  have counted := sound.counted x
  by_cases same : x = ref
  · subst same
    simp only [Function.update_self, if_true, reduceCtorEq, if_false] at counted ⊢
    omega
  · simpa [Function.update_of_ne same, Ne.symm same] using counted

theorem release_last (last : heap.counts ref = 1) (buffer : Buffer) (found : find ref heap.cells = some buffer) :
    Sound (referred buffer)
      { heap with counts := Function.update heap.counts ref (heap.counts ref - 1), cells := remove ref heap.cells } := by
  have still (x : Ref) : Function.update heap.counts ref (heap.counts ref - 1) x ≠ 0 ↔ x ≠ ref ∧ heap.counts x ≠ 0 := by
    by_cases same : x = ref
    · subst same
      simp [last]
    · simp [same]
  refine ⟨distinct_remove ref heap.cells sound.distinct, fun x counted => sound.bounded x ((still x).mp counted).2,
    fun x m_buffer bound => ?_, fun x => ?_, fun x => ?_⟩
  · rw [find_remove] at bound
    by_cases same : x = ref
    · simp [same] at bound
    · exact sound.acyclic x m_buffer (by simpa [same] using bound)
  · have counted := sound.counted x
    have removed := holders_remove (pointsTo x) ref buffer heap.cells sound.distinct found
    rw [points_to_referred] at removed
    dsimp only
    by_cases same : x = ref
    · subst same
      simp only [Function.update_self, if_true] at counted ⊢
      omega
    · have other : ref ≠ x := Ne.symm same
      simp only [Function.update_of_ne same, Option.some.injEq, other, if_false] at counted ⊢
      omega
  · rw [still, find_remove]
    by_cases same : x = ref
    · simp [same]
    · simpa [same] using sound.live x

end Release

theorem release_sound (fuel : Nat) (heap : Heap) (ref : Ref) (sound : Sound (some ref) heap) (enough : ref < fuel) :
    ∃ later, release fuel heap ref = some later ∧ Sound none later ∧ Shrinks heap later := by
  induction fuel generalizing heap ref with
  | zero => exact absurd enough (Nat.not_lt_zero ref)
  | succ fuel ih =>
      have some_count := pending_counted heap ref sound
      rw [release, if_neg some_count]
      by_cases last : heap.counts ref = 1
      · obtain ⟨buffer, found⟩ := Option.ne_none_iff_exists'.mp ((sound.live ref).mpr some_count)
        have gone := release_last heap ref sound last buffer found
        have shrinks : Shrinks heap { heap with
            counts := Function.update heap.counts ref (heap.counts ref - 1), cells := remove ref heap.cells } := by
          refine ⟨rfl, rfl, fun x => ?_⟩
          rw [find_remove]
          by_cases same : x = ref <;> simp [same]
        simp only [last, if_true, found] at gone shrinks ⊢
        cases buffer with
        | shared m_buffer =>
            have older : m_buffer < fuel := Nat.lt_of_lt_of_le (sound.acyclic ref m_buffer found) (Nat.le_of_lt_succ enough)
            obtain ⟨later, released, kept, shrunk⟩ := ih _ m_buffer gone older
            exact ⟨later, released, kept, shrinks_trans _ _ _ shrinks shrunk⟩
        | vector m_data => exact ⟨_, rfl, gone, shrinks⟩
        | typed m_data => exact ⟨_, rfl, gone, shrinks⟩
        | string m_data => exact ⟨_, rfl, gone, shrinks⟩
      · simp only [last, if_false]
        exact ⟨_, rfl, release_shared heap ref sound last, rfl, rfl, fun x => .inl rfl⟩

theorem retained_sound (heap : Heap) (ref : Ref) (sound : Sound none heap) (alive : heap.counts ref ≠ 0) :
    Sound (some ref) { heap with counts := Function.update heap.counts ref (heap.counts ref + 1) } := by
  have still (x : Ref) : Function.update heap.counts ref (heap.counts ref + 1) x ≠ 0 ↔ heap.counts x ≠ 0 := by
    by_cases same : x = ref
    · subst same
      simp [alive]
    · rw [Function.update_of_ne same]
  refine ⟨sound.distinct, fun x counted => sound.bounded x ((still x).mp counted), sound.acyclic, fun x => ?_,
    fun x => (sound.live x).trans (still x).symm⟩
  have counted := sound.counted x
  by_cases same : x = ref
  · subst same
    simpa using counted
  · simpa [Function.update_of_ne same, Ne.symm same] using counted

theorem disowned_sound (heap : Heap) (ref : Ref) (sound : Sound none heap) (owned : heap.owners ref ≠ 0) :
    Sound (some ref) { heap with owners := Function.update heap.owners ref (heap.owners ref - 1) } := by
  refine ⟨sound.distinct, sound.bounded, sound.acyclic, fun x => ?_, sound.live⟩
  have counted := sound.counted x
  by_cases same : x = ref
  · subst same
    simp only [Function.update_self, if_true, reduceCtorEq, if_false] at counted ⊢
    omega
  · simpa [Function.update_of_ne same, Ne.symm same] using counted

theorem owned_sound (heap : Heap) (ref : Ref) (sound : Sound (some ref) heap) :
    Sound none { heap with owners := Function.update heap.owners ref (heap.owners ref + 1) } := by
  refine ⟨sound.distinct, sound.bounded, sound.acyclic, fun x => ?_, sound.live⟩
  have counted := sound.counted x
  by_cases same : x = ref
  · subst same
    simp only [Function.update_self, if_true, reduceCtorEq, if_false] at counted ⊢
    omega
  · simpa [Function.update_of_ne same, Ne.symm same] using counted

theorem made_sound (heap : Heap) (buffer : Buffer) (sound : Sound (referred buffer) heap) :
    Sound none (heap.make buffer) := by
  have fresh : heap.counts heap.next = 0 := by
    by_contra counted
    exact Nat.lt_irrefl _ (sound.bounded heap.next counted)
  have absent : find heap.next heap.cells = none := by
    by_contra present
    exact (sound.live heap.next).mp present fresh
  have nobody := sound.counted heap.next
  refine ⟨distinct_store _ _ _ sound.distinct, fun x counted => ?_, fun x m_buffer bound => ?_, fun x => ?_, fun x => ?_⟩
  · by_cases same : x = heap.next
    · rw [same]
      exact Nat.lt_succ_self heap.next
    · exact Nat.lt_succ_of_lt (sound.bounded x (by simpa [Heap.make, same] using counted))
  · simp only [Heap.make, find_store] at bound
    by_cases same : x = heap.next
    · subst same
      obtain rfl : buffer = .shared m_buffer := by simpa using bound
      apply sound.bounded
      rw [sound.counted]
      simp [referred]
    · exact sound.acyclic x m_buffer (by simpa [same] using bound)
  · have counted := sound.counted x
    have added := holders_store_new (pointsTo x) heap.next buffer heap.cells absent
    rw [points_to_referred] at added
    simp only [Heap.make, added]
    by_cases same : x = heap.next
    · subst same
      simp only [Function.update_self, reduceCtorEq, if_false] at counted ⊢
      omega
    · simp only [Function.update_of_ne same, reduceCtorEq, if_false] at counted ⊢
      omega
  · simp only [Heap.make, find_store]
    by_cases same : x = heap.next
    · subst same
      simp
    · simpa [same] using sound.live x

theorem referred_set (buffer : Buffer) (offset : Nat) (byte : UInt8) :
    referred (buffer.set offset byte) = referred buffer := by
  cases buffer <;> rfl

theorem stored_sound (heap : Heap) (ref : Ref) (buffer changed : Buffer) (sound : Sound none heap)
    (found : find ref heap.cells = some buffer) (same_reference : referred changed = referred buffer) :
    Sound none { heap with cells := store ref changed heap.cells } := by
  refine ⟨distinct_store _ _ _ sound.distinct, sound.bounded, fun x m_buffer bound => ?_, fun x => ?_, fun x => ?_⟩
  · rw [find_store] at bound
    by_cases same : x = ref
    · subst same
      obtain rfl : changed = .shared m_buffer := by simpa using bound
      cases buffer with
      | shared other =>
          obtain rfl : m_buffer = other := by simpa [referred] using same_reference
          exact sound.acyclic x m_buffer found
      | _ => simp [referred] at same_reference
    · exact sound.acyclic x m_buffer (by simpa [same] using bound)
  · have counted := sound.counted x
    have replaced := holders_store (pointsTo x) ref changed buffer heap.cells found
    rw [points_to_referred, points_to_referred, same_reference] at replaced
    dsimp only
    omega
  · rw [find_store]
    by_cases same : x = ref
    · subst same
      simpa [found] using sound.live x
    · simpa [same] using sound.live x

end Rcp.Data
