import RcpLib.Semantics.Assoc
import RcpLib.Semantics.Transition

set_option autoImplicit false

namespace Rcp.Platform.Mac

open Semantics

inductive OwnershipPolicy where
  | assume
  | retain
deriving DecidableEq, Repr

variable {Obj Slot : Type} [DecidableEq Obj]

-- The retain count of each object, zero when it has been deallocated. What touches
-- a deallocated object has no result.
abbrev RefM (Obj : Type) := StateT (Obj → Nat) Option

theorem ref_pure {Obj α : Type} (value : α) (counts : Obj → Nat) :
    (pure value : RefM Obj α) counts = some (value, counts) := rfl

namespace ScopedCFTypeRefTraits

def InvalidValue : Option Obj := none

def Retain (object : Obj) : RefM Obj Obj := fun counts =>
  if counts object = 0 then none else some (object, Function.update counts object (counts object + 1))

def Release (object : Obj) : RefM Obj Unit := fun counts =>
  if counts object = 0 then none else some ((), Function.update counts object (counts object - 1))

end ScopedCFTypeRefTraits

open ScopedCFTypeRefTraits

structure ScopedTypeRef (Obj : Type) where
  object_ : Option Obj
deriving DecidableEq, Repr

namespace ScopedTypeRef

-- if( object && policy == RETAIN ) object = Traits::Retain( object )
def retainIf (object : Option Obj) (policy : OwnershipPolicy) : RefM Obj (Option Obj) :=
  match object, policy with
  | some object, .retain => do return some (← Retain object)
  | _, _ => return object

-- if( object_ ) Traits::Release( object_ )
def releaseIf : Option Obj → RefM Obj Unit
  | some object => Release object
  | none => return

def construct (object : Option Obj) (policy : OwnershipPolicy) : RefM Obj (ScopedTypeRef Obj) := do
  return ⟨← retainIf object policy⟩

def copyConstruct (that : ScopedTypeRef Obj) : RefM Obj (ScopedTypeRef Obj) := do
  return ⟨← retainIf that.object_ .retain⟩

def moveConstruct (that : ScopedTypeRef Obj) : ScopedTypeRef Obj × ScopedTypeRef Obj := (⟨that.object_⟩, ⟨InvalidValue⟩)

def destroy (self : ScopedTypeRef Obj) : RefM Obj Unit := releaseIf self.object_

def get (self : ScopedTypeRef Obj) : Option Obj := self.object_

def reset (self : ScopedTypeRef Obj) (object : Option Obj) (policy : OwnershipPolicy) : RefM Obj (ScopedTypeRef Obj) := do
  let object ← retainIf object policy
  releaseIf self.object_
  return ⟨object⟩

def copyAssign (self that : ScopedTypeRef Obj) : RefM Obj (ScopedTypeRef Obj) := self.reset that.get .retain

def swap (self that : ScopedTypeRef Obj) : ScopedTypeRef Obj × ScopedTypeRef Obj := (that, self)

end ScopedTypeRef

def claims (object : Option Obj) (o : Obj) : Nat := if object = some o then 1 else 0

theorem retain_if_spec (object : Option Obj) (policy : OwnershipPolicy) (counts : Obj → Nat)
    (alive : policy = .retain → ∀ o, object = some o → counts o ≠ 0) :
    ∃ later, ScopedTypeRef.retainIf object policy counts = some (object, later) ∧
      ∀ o, later o = counts o + (if policy = .retain then claims object o else 0) := by
  cases policy with
  | assume => exact ⟨counts, by cases object <;> rfl, fun o => by simp⟩
  | retain =>
      cases object with
      | none => exact ⟨counts, rfl, fun o => by simp [claims]⟩
      | some object =>
          have live := alive rfl object rfl
          refine ⟨Function.update counts object (counts object + 1), ?_, fun o => ?_⟩
          · simp [ScopedTypeRef.retainIf, Retain, live, bind, StateT.bind, ref_pure]
          · by_cases same : o = object
            · subst same
              simp [claims]
            · simp [claims, same, Ne.symm same]

theorem release_if_spec (object : Option Obj) (counts : Obj → Nat) (alive : ∀ o, object = some o → counts o ≠ 0) :
    ∃ later, ScopedTypeRef.releaseIf object counts = some ((), later) ∧ ∀ o, later o + claims object o = counts o := by
  cases object with
  | none => exact ⟨counts, rfl, fun o => by simp [claims]⟩
  | some object =>
      have live := alive object rfl
      refine ⟨Function.update counts object (counts object - 1), ?_, fun o => ?_⟩
      · simp [ScopedTypeRef.releaseIf, Release, live]
      · by_cases same : o = object
        · subst same
          simp [claims]
          omega
        · simp [claims, same, Ne.symm same]

theorem reset_spec (self : ScopedTypeRef Obj) (object : Option Obj) (policy : OwnershipPolicy) (counts : Obj → Nat)
    (given : policy = .retain → ∀ o, object = some o → counts o ≠ 0) (alive : ∀ o, self.object_ = some o → counts o ≠ 0) :
    ∃ later, self.reset object policy counts = some (⟨object⟩, later) ∧
      ∀ o, later o + claims self.object_ o = counts o + (if policy = .retain then claims object o else 0) := by
  obtain ⟨between, retained, more⟩ := retain_if_spec object policy counts given
  obtain ⟨later, released, less⟩ := release_if_spec self.object_ between fun o same => by
    have now := alive o same
    rw [more]
    omega
  refine ⟨later, ?_, fun o => (less o).trans (more o)⟩
  simp [ScopedTypeRef.reset, bind, StateT.bind, retained, released, ref_pure]

-- The live ScopedTypeRef objects, and the claims that others have on the objects.
structure Refs (Slot Obj : Type) where
  counts : Obj → Nat
  outside : Obj → Nat
  live : Assoc Slot (ScopedTypeRef Obj)

def holds (o : Obj) (ref : ScopedTypeRef Obj) : Bool := ref.object_ = some o

theorem holds_claims (o : Obj) (ref : ScopedTypeRef Obj) : (holds o ref).toNat = claims ref.object_ o := by
  by_cases same : ref.object_ = some o <;> simp [holds, claims, same]

structure Balanced (refs : Refs Slot Obj) : Prop where
  distinct : Distinct refs.live
  balance : ∀ o, refs.counts o = refs.outside o + holders (holds o) refs.live

theorem balanced_outside (refs : Refs Slot Obj) (balanced : Balanced refs) (counts outside : Obj → Nat)
    (moved : ∀ o, counts o + refs.outside o = refs.counts o + outside o) : Balanced ⟨counts, outside, refs.live⟩ := by
  refine ⟨balanced.distinct, fun o => ?_⟩
  have before := balanced.balance o
  have change := moved o
  dsimp only
  omega

inductive RefAction (Slot Obj : Type) where
  | create (object : Obj)
  | retainOutside (object : Obj)
  | releaseOutside (object : Obj)
  | construct (slot : Slot) (object : Option Obj) (policy : OwnershipPolicy)
  | copyConstruct (slot source : Slot)
  | moveConstruct (slot source : Slot)
  | destroy (slot : Slot)
  | reset (slot : Slot) (object : Option Obj) (policy : OwnershipPolicy)
  | copyAssign (slot source : Slot)
  | swap (slot other : Slot)

-- With ASSUME the caller relinquishes a claim that it has.
def handedOver (outside : Obj → Nat) : Option Obj → OwnershipPolicy → Obj → Nat
  | some object, .assume => Function.update outside object (outside object - 1)
  | _, _ => outside

variable [DecidableEq Slot]

def Refs.perform (self : Refs Slot Obj) : RefAction Slot Obj → Option (Refs Slot Obj)
  | .create object => some { self with
      counts := Function.update self.counts object 1, outside := Function.update self.outside object 1 }
  | .retainOutside object => do
      let (_, counts) ← Retain object self.counts
      some { self with counts, outside := Function.update self.outside object (self.outside object + 1) }
  | .releaseOutside object => do
      let (_, counts) ← Release object self.counts
      some { self with counts, outside := Function.update self.outside object (self.outside object - 1) }
  | .construct slot object policy => do
      let (ref, counts) ← ScopedTypeRef.construct object policy self.counts
      some ⟨counts, handedOver self.outside object policy, store slot ref self.live⟩
  | .copyConstruct slot source => do
      let that ← find source self.live
      let (ref, counts) ← that.copyConstruct self.counts
      some { self with counts, live := store slot ref self.live }
  | .moveConstruct slot source => do
      let that ← find source self.live
      let (ref, left) := that.moveConstruct
      some { self with live := store source left (store slot ref self.live) }
  | .destroy slot => do
      let ref ← find slot self.live
      let (_, counts) ← ref.destroy self.counts
      some { self with counts, live := remove slot self.live }
  | .reset slot object policy => do
      let ref ← find slot self.live
      let (ref, counts) ← ref.reset object policy self.counts
      some ⟨counts, handedOver self.outside object policy, store slot ref self.live⟩
  | .copyAssign slot source => do
      let ref ← find slot self.live
      let that ← find source self.live
      let (ref, counts) ← ref.copyAssign that self.counts
      some { self with counts, live := store slot ref self.live }
  | .swap slot other => do
      let ref ← find slot self.live
      let that ← find other self.live
      let (ref, that) := ref.swap that
      some { self with live := store other that (store slot ref self.live) }

def Owns (self : Refs Slot Obj) (object : Option Obj) (policy : OwnershipPolicy) : Prop :=
  ∀ o, object = some o → if policy = .assume then self.outside o ≠ 0 else self.counts o ≠ 0

-- What the callers promise: a scoped object is constructed once and used while it
-- lives, and a claim is given up only by who has it.
def Permitted (self : Refs Slot Obj) : RefAction Slot Obj → Prop
  | .create object => self.counts object = 0
  | .retainOutside object => self.counts object ≠ 0
  | .releaseOutside object => self.outside object ≠ 0
  | .construct slot object policy => find slot self.live = none ∧ Owns self object policy
  | .copyConstruct slot source => find slot self.live = none ∧ find source self.live ≠ none
  | .moveConstruct slot source => find slot self.live = none ∧ find source self.live ≠ none
  | .destroy slot => find slot self.live ≠ none
  | .reset slot object policy => find slot self.live ≠ none ∧ Owns self object policy
  | .copyAssign slot source => find slot self.live ≠ none ∧ find source self.live ≠ none
  | .swap slot other => find slot self.live ≠ none ∧ find other self.live ≠ none

-- A state that has touched a deallocated object is none.
def scopedRefs : Lts (Option (Refs Slot Obj)) (RefAction Slot Obj) where
  initial state := state = some ⟨fun _ => 0, fun _ => 0, []⟩
  step before action after := ∃ self, before = some self ∧ Permitted self action ∧ after = self.perform action

theorem held_alive (refs : Refs Slot Obj) (balanced : Balanced refs) (slot : Slot) (ref : ScopedTypeRef Obj)
    (found : find slot refs.live = some ref) (o : Obj) (same : ref.object_ = some o) : refs.counts o ≠ 0 := by
  have held : 0 < holders (holds o) refs.live :=
    List.countP_pos_iff.mpr ⟨(slot, ref), mem_of_find slot ref refs.live found, by simp [holds, same]⟩
  rw [balanced.balance]
  omega

theorem handed_over (outside : Obj → Nat) (object : Option Obj) (policy : OwnershipPolicy)
    (owned : policy = .assume → ∀ o, object = some o → outside o ≠ 0) (o : Obj) :
    handedOver outside object policy o + (if policy = .assume then claims object o else 0) = outside o := by
  cases policy with
  | retain => cases object <;> simp [handedOver]
  | assume =>
      cases object with
      | none => simp [handedOver, claims]
      | some object =>
          have some_claim := owned rfl object rfl
          by_cases same : o = object
          · subst same
            simp [handedOver, claims]
            omega
          · simp [handedOver, claims, same, Ne.symm same]

theorem balanced_new (refs : Refs Slot Obj) (balanced : Balanced refs) (slot : Slot) (ref : ScopedTypeRef Obj)
    (counts outside : Obj → Nat) (absent : find slot refs.live = none)
    (moved : ∀ o, counts o + refs.outside o = refs.counts o + outside o + claims ref.object_ o) :
    Balanced ⟨counts, outside, store slot ref refs.live⟩ := by
  refine ⟨distinct_store slot ref refs.live balanced.distinct, fun o => ?_⟩
  have before := balanced.balance o
  have change := moved o
  simp only [holders_store_new (holds o) slot ref refs.live absent, holds_claims]
  omega

theorem balanced_replaced (refs : Refs Slot Obj) (balanced : Balanced refs) (slot : Slot) (old ref : ScopedTypeRef Obj)
    (counts outside : Obj → Nat) (found : find slot refs.live = some old)
    (moved : ∀ o, counts o + claims old.object_ o + refs.outside o = refs.counts o + outside o + claims ref.object_ o) :
    Balanced ⟨counts, outside, store slot ref refs.live⟩ := by
  refine ⟨distinct_store slot ref refs.live balanced.distinct, fun o => ?_⟩
  have before := balanced.balance o
  have change := moved o
  have held := holders_store (holds o) slot ref old refs.live found
  rw [holds_claims, holds_claims] at held
  dsimp only
  omega

theorem balanced_construct (refs : Refs Slot Obj) (balanced : Balanced refs) (slot : Slot) (object : Option Obj)
    (policy : OwnershipPolicy) (absent : find slot refs.live = none) (owns : Owns refs object policy) :
    ∃ later, refs.perform (.construct slot object policy) = some later ∧ Balanced later := by
  obtain ⟨counts, constructed, more⟩ := retain_if_spec object policy refs.counts fun retains o same => by
    simpa [retains] using owns o same
  refine ⟨⟨counts, handedOver refs.outside object policy, store slot ⟨object⟩ refs.live⟩, ?_, ?_⟩
  · simp [Refs.perform, ScopedTypeRef.construct, bind, StateT.bind, constructed, ref_pure]
  · apply balanced_new refs balanced slot ⟨object⟩ _ _ absent
    intro o
    have given := handed_over refs.outside object policy (fun assumes o same => by simpa [assumes] using owns o same) o
    have change := more o
    dsimp only
    cases policy with
    | assume =>
        simp only [reduceCtorEq, if_false, if_true] at given change
        omega
    | retain =>
        simp only [reduceCtorEq, if_false, if_true] at given change
        omega

theorem balanced_reset (refs : Refs Slot Obj) (balanced : Balanced refs) (slot : Slot) (ref : ScopedTypeRef Obj)
    (object : Option Obj) (policy : OwnershipPolicy) (found : find slot refs.live = some ref)
    (owns : Owns refs object policy) :
    ∃ later, refs.perform (.reset slot object policy) = some later ∧ Balanced later := by
  obtain ⟨counts, changed, moved⟩ := reset_spec ref object policy refs.counts
    (fun retains o same => by simpa [retains] using owns o same) (held_alive refs balanced slot ref found)
  refine ⟨⟨counts, handedOver refs.outside object policy, store slot ⟨object⟩ refs.live⟩, ?_, ?_⟩
  · simp [Refs.perform, found, changed]
  · apply balanced_replaced refs balanced slot ref ⟨object⟩ _ _ found
    intro o
    have given := handed_over refs.outside object policy (fun assumes o same => by simpa [assumes] using owns o same) o
    have change := moved o
    dsimp only
    cases policy with
    | assume =>
        simp only [reduceCtorEq, if_false, if_true] at given change
        omega
    | retain =>
        simp only [reduceCtorEq, if_false, if_true] at given change
        omega

-- The new object is retained before the old one is released, so assigning an object
-- to itself leaves it alive.
theorem balanced_copy_assign (refs : Refs Slot Obj) (balanced : Balanced refs) (slot source : Slot)
    (ref that : ScopedTypeRef Obj) (found : find slot refs.live = some ref) (other : find source refs.live = some that) :
    ∃ later, refs.perform (.copyAssign slot source) = some later ∧ Balanced later := by
  obtain ⟨counts, changed, moved⟩ := reset_spec ref that.object_ .retain refs.counts
    (fun _ => held_alive refs balanced source that other) (held_alive refs balanced slot ref found)
  refine ⟨⟨counts, refs.outside, store slot ⟨that.object_⟩ refs.live⟩, ?_, ?_⟩
  · simp [Refs.perform, found, other, ScopedTypeRef.copyAssign, ScopedTypeRef.get, changed]
  · apply balanced_replaced refs balanced slot ref ⟨that.object_⟩ _ _ found
    intro o
    have change := moved o
    simp only [if_true] at change
    dsimp only
    omega

theorem balanced_copy_construct (refs : Refs Slot Obj) (balanced : Balanced refs) (slot source : Slot)
    (that : ScopedTypeRef Obj) (absent : find slot refs.live = none) (other : find source refs.live = some that) :
    ∃ later, refs.perform (.copyConstruct slot source) = some later ∧ Balanced later := by
  obtain ⟨counts, constructed, more⟩ := retain_if_spec that.object_ .retain refs.counts
    fun _ => held_alive refs balanced source that other
  refine ⟨⟨counts, refs.outside, store slot ⟨that.object_⟩ refs.live⟩, ?_, ?_⟩
  · simp [Refs.perform, other, ScopedTypeRef.copyConstruct, bind, StateT.bind, constructed, ref_pure]
  · apply balanced_new refs balanced slot ⟨that.object_⟩ _ _ absent
    intro o
    have change := more o
    simp only [if_true] at change
    dsimp only
    omega

theorem balanced_destroy (refs : Refs Slot Obj) (balanced : Balanced refs) (slot : Slot) (ref : ScopedTypeRef Obj)
    (found : find slot refs.live = some ref) : ∃ later, refs.perform (.destroy slot) = some later ∧ Balanced later := by
  obtain ⟨counts, released, less⟩ := release_if_spec ref.object_ refs.counts (held_alive refs balanced slot ref found)
  refine ⟨⟨counts, refs.outside, remove slot refs.live⟩, ?_, distinct_remove slot refs.live balanced.distinct, fun o => ?_⟩
  · simp [Refs.perform, found, ScopedTypeRef.destroy, released]
  · have before := balanced.balance o
    have change := less o
    have held := holders_remove (holds o) slot ref refs.live balanced.distinct found
    rw [holds_claims] at held
    dsimp only
    omega

theorem balanced_move_construct (refs : Refs Slot Obj) (balanced : Balanced refs) (slot source : Slot)
    (that : ScopedTypeRef Obj) (absent : find slot refs.live = none) (other : find source refs.live = some that) :
    ∃ later, refs.perform (.moveConstruct slot source) = some later ∧ Balanced later := by
  refine ⟨{ refs with live := store source ⟨InvalidValue⟩ (store slot ⟨that.object_⟩ refs.live) }, ?_, ?_, fun o => ?_⟩
  · simp [Refs.perform, other, ScopedTypeRef.moveConstruct]
  · exact distinct_store _ _ _ (distinct_store _ _ _ balanced.distinct)
  · have apart : source ≠ slot := by
      intro same
      rw [same, absent] at other
      cases other
    have still : find source (store slot ⟨that.object_⟩ refs.live) = some that := by
      rw [find_store, if_neg apart, other]
    have before := balanced.balance o
    have given := holders_store_new (holds o) slot ⟨that.object_⟩ refs.live absent
    have taken := holders_store (holds o) source ⟨InvalidValue⟩ that _ still
    have nothing : claims (InvalidValue : Option Obj) o = 0 := by simp [claims, InvalidValue]
    simp only [holds_claims] at given taken
    dsimp only
    omega

theorem balanced_swap (refs : Refs Slot Obj) (balanced : Balanced refs) (slot other : Slot)
    (ref that : ScopedTypeRef Obj) (found : find slot refs.live = some ref) (partner : find other refs.live = some that) :
    ∃ later, refs.perform (.swap slot other) = some later ∧ Balanced later := by
  refine ⟨{ refs with live := store other ref (store slot that refs.live) }, ?_, ?_, fun o => ?_⟩
  · simp [Refs.perform, found, partner, ScopedTypeRef.swap]
  · exact distinct_store _ _ _ (distinct_store _ _ _ balanced.distinct)
  · have still : find other (store slot that refs.live) = some that := by
      rw [find_store, partner, ite_self]
    have before := balanced.balance o
    have given := holders_store (holds o) slot that ref refs.live found
    have taken := holders_store (holds o) other ref that _ still
    simp only [holds_claims] at given taken
    dsimp only
    omega

theorem update_both (counts outside : Obj → Nat) (object : Obj) (count claim : Nat)
    (moved : count + outside object = counts object + claim) (o : Obj) :
    Function.update counts object count o + outside o = counts o + Function.update outside object claim o := by
  by_cases same : o = object
  · subst same
    simpa using moved
  · simp [same]

theorem balanced_perform (refs : Refs Slot Obj) (balanced : Balanced refs) (action : RefAction Slot Obj)
    (permitted : Permitted refs action) : ∃ later, refs.perform action = some later ∧ Balanced later := by
  have present (slot : Slot) (live : find slot refs.live ≠ none) : ∃ ref, find slot refs.live = some ref :=
    Option.ne_none_iff_exists'.mp live
  cases action with
  | create object =>
      refine ⟨_, rfl, balanced_outside refs balanced _ _ (update_both _ _ object 1 1 ?_)⟩
      have before := balanced.balance object
      have gone : refs.counts object = 0 := permitted
      omega
  | retainOutside object =>
      have live : refs.counts object ≠ 0 := permitted
      refine ⟨⟨Function.update refs.counts object (refs.counts object + 1),
        Function.update refs.outside object (refs.outside object + 1), refs.live⟩, ?_, ?_⟩
      · simp [Refs.perform, Retain, live]
      · exact balanced_outside refs balanced _ _ (update_both _ _ object _ _ (by omega))
  | releaseOutside object =>
      have claimed : refs.outside object ≠ 0 := permitted
      have before := balanced.balance object
      have live : refs.counts object ≠ 0 := by omega
      refine ⟨⟨Function.update refs.counts object (refs.counts object - 1),
        Function.update refs.outside object (refs.outside object - 1), refs.live⟩, ?_, ?_⟩
      · simp [Refs.perform, Release, live]
      · exact balanced_outside refs balanced _ _ (update_both _ _ object _ _ (by omega))
  | construct slot object policy => exact balanced_construct refs balanced slot object policy permitted.1 permitted.2
  | copyConstruct slot source =>
      obtain ⟨that, other⟩ := present source permitted.2
      exact balanced_copy_construct refs balanced slot source that permitted.1 other
  | moveConstruct slot source =>
      obtain ⟨that, other⟩ := present source permitted.2
      exact balanced_move_construct refs balanced slot source that permitted.1 other
  | destroy slot =>
      obtain ⟨ref, found⟩ := present slot permitted
      exact balanced_destroy refs balanced slot ref found
  | reset slot object policy =>
      obtain ⟨ref, found⟩ := present slot permitted.1
      exact balanced_reset refs balanced slot ref object policy found permitted.2
  | copyAssign slot source =>
      obtain ⟨ref, found⟩ := present slot permitted.1
      obtain ⟨that, other⟩ := present source permitted.2
      exact balanced_copy_assign refs balanced slot source ref that found other
  | swap slot other =>
      obtain ⟨ref, found⟩ := present slot permitted.1
      obtain ⟨that, partner⟩ := present other permitted.2
      exact balanced_swap refs balanced slot other ref that found partner

theorem retain_counts_balance (state : Option (Refs Slot Obj)) (reachable : Reachable scopedRefs state) :
    ∃ refs, state = some refs ∧ (∀ o, refs.counts o = refs.outside o + holders (holds o) refs.live) ∧
      (∀ slot ref o, find slot refs.live = some ref → ref.object_ = some o → refs.counts o ≠ 0) ∧
      ∀ o, refs.outside o = 0 → (∀ slot ref, find slot refs.live = some ref → ref.object_ ≠ some o) → refs.counts o = 0 := by
  obtain ⟨refs, here, balanced⟩ : ∃ refs, state = some refs ∧ Balanced refs := by
    refine reachable_invariant scopedRefs (fun state => ∃ refs, state = some refs ∧ Balanced refs) ?_ ?_ state reachable
    · intro start initial
      exact ⟨_, initial, by simp [Distinct], by simp [holders]⟩
    · intro before action after earlier taken
      obtain ⟨refs, here, balanced⟩ := earlier
      obtain ⟨self, same, permitted, result⟩ := taken
      obtain rfl : refs = self := Option.some.inj (here.symm.trans same)
      obtain ⟨later, performed, kept⟩ := balanced_perform refs balanced action permitted
      exact ⟨later, result.trans performed, kept⟩
  refine ⟨refs, here, balanced.balance, fun slot ref o found => held_alive refs balanced slot ref found o,
    fun o unclaimed unheld => ?_⟩
  have none_holds : holders (holds o) refs.live = 0 := by
    rw [holders, List.countP_eq_zero]
    intro binding member held
    have found := (find_iff_mem binding.1 binding.2 refs.live balanced.distinct).mpr member
    exact unheld binding.1 binding.2 found (by simpa [holds] using held)
  rw [balanced.balance, unclaimed, none_holds]

theorem reachable_perform (refs later : Refs Slot Obj) (reachable : Reachable scopedRefs (some refs))
    (action : RefAction Slot Obj) (permitted : Permitted refs action) (performed : refs.perform action = some later) :
    Reachable scopedRefs (some later) := by
  obtain ⟨trail, run⟩ := reachable
  exact ⟨_, .step trail _ action _ run ⟨refs, rfl, permitted, performed.symm⟩⟩

theorem retain_counts_balance_sample : ∃ refs : Refs Bool Unit, Reachable scopedRefs (some refs) ∧
    refs.counts () = refs.outside () + holders (holds ()) refs.live := by
  have start : Reachable scopedRefs (some (⟨fun _ => 0, fun _ => 0, []⟩ : Refs Bool Unit)) := ⟨[], .start _ rfl⟩
  have created := reachable_perform _ _ start (.create ()) rfl rfl
  have held := reachable_perform _ _ created (.construct true (some ()) .assume) ⟨rfl, fun _ _ => by simp⟩ rfl
  have copied := reachable_perform _ _ held (.copyConstruct false true) (by simp [Permitted, store, find]) rfl
  have assigned := reachable_perform _ _ copied (.copyAssign false false) (by simp [Permitted, store, find]) rfl
  have destroyed := reachable_perform _ _ assigned (.destroy true) (by simp [Permitted, store, find]) rfl
  obtain ⟨refs, same, balance, _⟩ := retain_counts_balance _ destroyed
  exact ⟨refs, same ▸ destroyed, balance ()⟩

end Rcp.Platform.Mac
