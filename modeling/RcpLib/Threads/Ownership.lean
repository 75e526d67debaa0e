import RcpLib.Threads.Ledger

set_option autoImplicit false

namespace Rcp.Threads

open Semantics

def fieldsOf : Option Slot → Thread
  | some slot => slot.fields
  | none => Thread.none

def holdings (objects : Objects) (o : ObjId) : Thread := fieldsOf (objects o)

-- How the calls of one platform are accounted for: by which protocol, how a member
-- function may end, and in which of the steps the fields of the object say what the
-- protocol says.
structure Accounting (backend kept : Backend) (protocol : Protocol OsCall OsReply Thread) (told : System → Action → Prop) :
    Prop where
  permits : ∀ self op, protocol.permits self op → self.permits backend op
  advances : ∀ system o op reply (self : Thread), told system (.perform o op reply) →
    self.advance op reply = protocol.advance self op reply
  follows : ∀ (call : MemberCall) (self : Thread), (call.constructs → self = Thread.none) →
    ((call.body backend.platform).run self).Follows protocol (FrameFinal kept call) self

def SlotFits (kept : Backend) (protocol : Protocol OsCall OsReply Thread) (slot : Option Slot) : Prop :=
  ∀ fields frame, slot = some ⟨fields, some frame⟩ → frame.program.Follows protocol (FrameFinal kept frame.call) fields

structure Accounted (kept : Backend) (protocol : Protocol OsCall OsReply Thread) (system : System) : Prop where
  ledger : Ledger kept system.os (holdings system.objects)
  frames : ∀ o, SlotFits kept protocol (system.objects o)

abbrev Invariant (backend : Backend) : System → Prop := Accounted backend (ownership backend)

theorem holdings_live (objects : Objects) (o : ObjId) (self : Thread) (frame : Option Frame)
    (live : objects o = some ⟨self, frame⟩) : holdings objects o = self := by
  rw [holdings, live]
  rfl

theorem holdings_absent (objects : Objects) (o : ObjId) (absent : objects o = none) :
    holdings objects o = Thread.none := by
  rw [holdings, absent]
  rfl

theorem holdings_update (objects : Objects) (o : ObjId) (slot : Option Slot) :
    holdings (Function.update objects o slot) = Function.update (holdings objects) o (fieldsOf slot) := by
  funext x
  by_cases same : x = o
  · subst same
    simp [holdings]
  · simp [holdings, Function.update_of_ne same]

theorem holdings_exchange (objects : Objects) (o other : ObjId) (result : Thread × Thread) :
    holdings (exchange objects o other result) =
      Function.update (Function.update (holdings objects) o result.1) other result.2 := by
  simp only [exchange, holdings_update]
  rfl

section Slots

variable (kept : Backend) (protocol : Protocol OsCall OsReply Thread)

theorem slot_fits_idle (fields : Thread) : SlotFits kept protocol (idle fields) := by
  intro _ _ same
  simp [idle] at same

theorem slot_fits_none : SlotFits kept protocol none := by
  intro _ _ same
  simp at same

theorem slot_fits_settled (call : MemberCall) (outcome : Except Failure Unit) (result : Thread) :
    SlotFits kept protocol (settled call outcome result) := by
  unfold settled
  split
  · exact slot_fits_idle kept protocol _
  · split
    · exact slot_fits_none kept protocol
    · exact slot_fits_idle kept protocol _

theorem frames_update (objects : Objects) (frames : ∀ o, SlotFits kept protocol (objects o)) (o : ObjId)
    (slot : Option Slot) (fits : SlotFits kept protocol slot) (other : ObjId) :
    SlotFits kept protocol (Function.update objects o slot other) := by
  by_cases same : other = o
  · rw [same, Function.update_self]
    exact fits
  · rw [Function.update_of_ne same]
    exact frames other

theorem frames_exchange (objects : Objects) (frames : ∀ o, SlotFits kept protocol (objects o))
    (o other : ObjId) (result : Thread × Thread) (x : ObjId) :
    SlotFits kept protocol (exchange objects o other result x) :=
  frames_update kept protocol _ (frames_update kept protocol objects frames o _ (slot_fits_idle kept protocol _)) other _
    (slot_fits_idle kept protocol _) x

end Slots

theorem move_assign_ok (self other : Thread) (result : Thread × Thread)
    (returned : Thread.moveAssign self other = .ok result) : self.handle = 0 ∧ result = (other, self) := by
  unfold Thread.moveAssign at returned
  split at returned
  · cases returned
  · rename_i vacant
    simp only [Thread.swap, Except.ok.injEq] at returned
    exact ⟨by simpa [Thread.joinable] using vacant, returned.symm⟩

theorem destroy_ok (self : Thread) (returned : Thread.destroy self = .ok ()) : self.handle = 0 := by
  unfold Thread.destroy at returned
  split at returned
  · cases returned
  · rename_i vacant
    simpa [Thread.joinable] using vacant

theorem settled_ledger (backend : Backend) (os : Os) (own : ObjId → Thread) (ledger : Ledger backend os own) (o : ObjId)
    (call : MemberCall) (outcome : Except Failure Unit) (result : Thread)
    (final : FrameFinal backend call (outcome, result) (own o)) :
    Ledger backend os (Function.update own o (fieldsOf (settled call outcome result))) := by
  obtain ⟨fields, threw⟩ := final
  have returned : Ledger backend os (Function.update own o result) := by
    rcases fields with same | ⟨leaky, forgotten⟩
    · exact ledger_unchanged ledger o result same.symm
    · rw [show result = Thread.none from forgotten]
      exact ledger_forgotten ledger leaky o
  cases outcome with
  | ok value => exact returned
  | error failure =>
      cases constructs : call.constructs with
      | true =>
          simp only [settled, constructs, if_true]
          exact ledger_unchanged ledger o _ (threw constructs failure rfl)
      | false =>
          simp only [settled, constructs, Bool.false_eq_true, if_false]
          exact returned

theorem accounted_step (backend kept : Backend) (protocol : Protocol OsCall OsReply Thread)
    (told : System → Action → Prop) (accounting : Accounting backend kept protocol told) (before after : System)
    (action : Action) (inv : Accounted kept protocol before) (here : told before action)
    (taken : Step backend before action after) : Accounted kept protocol after := by
  obtain ⟨ledger, frames⟩ := inv
  cases taken with
  | construct os objects o absent =>
      refine ⟨?_, frames_update kept protocol objects frames o _ (slot_fits_idle kept protocol _)⟩
      rw [holdings_update]
      exact ledger_unchanged ledger o _ (holdings_absent objects o absent)
  | moveConstruct os objects o source other absent live =>
      refine ⟨?_, frames_exchange kept protocol objects frames o source _⟩
      rw [holdings_exchange]
      have swapped := ledger_exchanged ledger o source
      rwa [holdings_absent objects o absent, holdings_live objects source other none live] at swapped
  | moveAssign os objects o source self other result target live returned =>
      refine ⟨?_, frames_exchange kept protocol objects frames o source _⟩
      obtain ⟨_, same⟩ := move_assign_ok self other result returned
      rw [holdings_exchange, same]
      have swapped := ledger_exchanged ledger o source
      rwa [holdings_live objects o self none target, holdings_live objects source other none live] at swapped
  | moveAssignCrash => exact ⟨ledger, frames⟩
  | swap os objects o other left right first second =>
      refine ⟨?_, frames_exchange kept protocol objects frames o other _⟩
      rw [holdings_exchange]
      have swapped := ledger_exchanged ledger o other
      rwa [holdings_live objects o left none first, holdings_live objects other right none second] at swapped
  | destroy os objects o self live returned =>
      refine ⟨?_, frames_update kept protocol objects frames o _ (slot_fits_none kept protocol)⟩
      rw [holdings_update]
      have owned := holdings_live objects o self none live
      refine ledger_unchanged ledger o _ (ledger_vacant ledger o ?_)
      rw [owned]
      exact destroy_ok self returned
  | destroyCrash => exact ⟨ledger, frames⟩
  | invoke os objects o call self ready =>
      have owned : holdings objects o = self ∧ (call.constructs → self = Thread.none) := by
        cases constructs : call.constructs with
        | true =>
            simp only [constructs, if_true] at ready
            exact ⟨(holdings_absent objects o ready.1).trans ready.2.symm, fun _ => ready.2⟩
        | false =>
            simp only [constructs, Bool.false_eq_true, if_false] at ready
            exact ⟨holdings_live objects o self none ready, by simp⟩
      refine ⟨?_, frames_update kept protocol objects frames o _ ?_⟩
      · rw [holdings_update]
        exact ledger_unchanged ledger o _ owned.1
      · intro fields frame same
        cases same
        exact accounting.follows call self owned.2
  | perform os objects o self entry call owned op next reply live answered =>
      obtain ⟨permitted, follows⟩ := frames o self ⟨call, entry, owned, .call op next⟩ live
      have owns := holdings_live objects o self _ live
      refine ⟨?_, frames_update kept protocol objects frames o _ ?_⟩
      · rw [holdings_update]
        apply ledger_performed ledger o
        rw [owns]
        exact performed_effect backend os self op reply (accounting.permits self op permitted) answered
      · intro fields frame same
        cases same
        rw [accounting.advances _ o op reply self here]
        exact follows reply
  | finish os objects o self entry result call owned outcome live =>
      have final := frames o self ⟨call, entry, owned, .ret (outcome, result)⟩ live
      have owns := holdings_live objects o self _ live
      split
      · exact ⟨ledger, frames⟩
      · refine ⟨?_, frames_update kept protocol objects frames o _ (slot_fits_settled kept protocol call outcome result)⟩
        rw [holdings_update]
        exact settled_ledger kept os _ ledger o call outcome result (by rw [owns]; exact final)
  | thread os objects thread status started moves => exact ⟨ledger_same ledger _ rfl rfl, frames⟩

theorem accounted_run (backend kept : Backend) (protocol : Protocol OsCall OsReply Thread)
    (told : System → Action → Prop) (accounting : Accounting backend kept protocol told) (trail : List (System × Action))
    (system : System) (run : Run (threadSystem backend) trail system) (along : Along told trail) :
    Accounted kept protocol system := by
  refine conditional_invariant (threadSystem backend) told (Accounted kept protocol) ?_ ?_ trail system run along
  · intro start initial
    obtain rfl := initial
    refine ⟨⟨?_, fun _ => .inl rfl, ?_, ?_⟩, fun _ => slot_fits_none kept protocol⟩
    · intro _ _ entry
      simp [Os.boot] at entry
    · intro _ _ _ positive
      exact absurd rfl positive
    · intro _ _ _ entry
      simp [Os.boot] at entry
  · exact fun before action after _ inv here taken =>
      accounted_step backend kept protocol told accounting before after action inv here taken

theorem ownership_accounting (backend : Backend) : Accounting backend backend (ownership backend) fun _ _ => True where
  permits _ _ permitted := permitted
  advances _ _ _ _ _ _ := rfl
  follows call self fresh := member_follows backend call self fresh

theorem invariant_reachable (backend : Backend)
    (system : System) (reachable : Reachable (threadSystem backend) system) : Invariant backend system := by
  obtain ⟨trail, run⟩ := reachable
  exact accounted_run backend backend (ownership backend) _ (ownership_accounting backend) trail system run
    fun _ _ => trivial

end Rcp.Threads
