import Mathlib.Logic.Basic

set_option autoImplicit false

namespace Semantics

-- A labelled transition system. Nothing is assumed of the step relation: it may
-- be nondeterministic, and a state without a step is allowed.
structure Lts (State Label : Type) where
  initial : State → Prop
  step : State → Label → State → Prop

variable {State Label : Type}

-- The trail of a run lists its steps newest first, each with the state it left,
-- so a property of a whole run can speak of every step and every earlier state.
inductive Run (lts : Lts State Label) : List (State × Label) → State → Prop where
  | start (state : State) (initial : lts.initial state) : Run lts [] state
  | step (trail : List (State × Label)) (before : State) (label : Label) (after : State)
      (previous : Run lts trail before) (taken : lts.step before label after) :
      Run lts ((before, label) :: trail) after

def Reachable (lts : Lts State Label) (state : State) : Prop := ∃ trail, Run lts trail state

def Along (condition : State → Label → Prop) (trail : List (State × Label)) : Prop :=
  ∀ entry ∈ trail, condition entry.1 entry.2

def Occurs (label : Label) (trail : List (State × Label)) : Prop := ∃ state, (state, label) ∈ trail

@[simp] theorem along_nil (condition : State → Label → Prop) : Along condition [] := by
  simp [Along]

@[simp] theorem along_cons (condition : State → Label → Prop) (state : State) (label : Label)
    (trail : List (State × Label)) :
    Along condition ((state, label) :: trail) ↔ condition state label ∧ Along condition trail := by
  simp [Along]

@[simp] theorem not_occurs_nil (label : Label) : ¬ Occurs label ([] : List (State × Label)) := by
  simp [Occurs]

@[simp] theorem occurs_cons (label taken : Label) (state : State) (trail : List (State × Label)) :
    Occurs label ((state, taken) :: trail) ↔ label = taken ∨ Occurs label trail := by
  constructor
  · intro occurs
    obtain ⟨witness, member⟩ := occurs
    rcases List.mem_cons.mp member with same | later
    · exact .inl (Prod.mk.inj same).2
    · exact .inr ⟨witness, later⟩
  · intro occurs
    obtain same | ⟨witness, later⟩ := occurs
    · exact ⟨state, by simp [same]⟩
    · exact ⟨witness, by simp [later]⟩

def tally (counted : Label → Bool) (trail : List (State × Label)) : Nat := trail.countP fun entry => counted entry.2

@[simp] theorem tally_nil (counted : Label → Bool) : tally counted ([] : List (State × Label)) = 0 := rfl

theorem tally_cons (counted : Label → Bool) (state : State) (label : Label) (trail : List (State × Label)) :
    tally counted ((state, label) :: trail) = tally counted trail + (counted label).toNat := by
  cases same : counted label <;> simp [tally, same]

-- The induction behind every safety result: what holds initially and is kept by
-- each step holds of every run. The predicate may depend on the trail.
theorem run_invariant (lts : Lts State Label) (holds : List (State × Label) → State → Prop)
    (base : ∀ state, lts.initial state → holds [] state)
    (kept : ∀ trail before label after, Run lts trail before → holds trail before →
      lts.step before label after → holds ((before, label) :: trail) after)
    (trail : List (State × Label)) (state : State) (run : Run lts trail state) : holds trail state := by
  induction run with
  | start state initial => exact base state initial
  | step trail before label after previous taken ih => exact kept trail before label after previous ih taken

theorem reachable_invariant (lts : Lts State Label) (holds : State → Prop)
    (base : ∀ state, lts.initial state → holds state)
    (kept : ∀ before label after, holds before → lts.step before label after → holds after)
    (state : State) (reachable : Reachable lts state) : holds state := by
  obtain ⟨trail, run⟩ := reachable
  exact run_invariant lts (fun _ => holds) base
    (fun _ before label after _ ih taken => kept before label after ih taken) trail state run

theorem conditional_invariant (lts : Lts State Label) (condition : State → Label → Prop) (holds : State → Prop)
    (base : ∀ state, lts.initial state → holds state)
    (kept : ∀ before label after, Reachable lts before → holds before → condition before label →
      lts.step before label after → holds after)
    (trail : List (State × Label)) (state : State) (run : Run lts trail state)
    (along : Along condition trail) : holds state := by
  refine run_invariant lts (fun trail state => Along condition trail → holds state)
    (fun state initial _ => base state initial) ?_ trail state run along
  intro trail before label after previous ih taken along
  obtain ⟨here, earlier⟩ := (along_cons condition before label trail).mp along
  exact kept before label after ⟨trail, previous⟩ (ih earlier) here taken

theorem trail_reachable (lts : Lts State Label) (trail : List (State × Label)) (state : State)
    (run : Run lts trail state) (entry : State × Label) (member : entry ∈ trail) :
    Reachable lts entry.1 ∧ ∃ after, lts.step entry.1 entry.2 after := by
  induction run with
  | start state initial => simp at member
  | step trail before label after previous taken ih =>
      rcases List.mem_cons.mp member with same | earlier
      · subst same
        exact ⟨⟨trail, previous⟩, after, taken⟩
      · exact ih earlier

end Semantics
