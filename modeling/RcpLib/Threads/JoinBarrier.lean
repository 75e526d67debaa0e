import RcpLib.Threads.Interference

set_option autoImplicit false

namespace Rcp.Threads

open Semantics

def JoinFailsAfterEnd (system : System) : Action → Prop
  | .perform o op reply => (∃ fields frame caller, system.objects o = some ⟨fields, some frame⟩ ∧
      frame.call = .join caller) → FailsAfterEnd system.os op reply
  | _ => True

-- A join in progress on a joinable object. While the handle refers to the thread,
-- the object still owns the handle, so nobody else can close it.
structure Joining (system : System) (o : ObjId) (frame : Frame) (thread : Nat) : Prop where
  owned : frame.owned = some thread
  started : thread < system.os.created.length
  holds : system.os.table frame.entry.handle = some thread → (holdings system.objects o).handle = frame.entry.handle
  barrier : Barrier frame.entry.handle thread frame.program system.os

def JoinInvariant (system : System) : Prop :=
  ∀ o fields frame caller, system.objects o = some ⟨fields, some frame⟩ → frame.call = .join caller →
    frame.entry.joinable = true → ∃ thread, Joining system o frame thread

theorem joining_frame (before after : System) (o : ObjId) (frame : Frame) (thread : Nat)
    (joining : Joining before o frame thread)
    (moved : Interference frame.entry.handle thread before.os after.os)
    (kept : (holdings after.objects o).handle = (holdings before.objects o).handle)
    (reflects : after.os.table frame.entry.handle = some thread → before.os.table frame.entry.handle = some thread) :
    Joining after o frame thread := by
  refine ⟨joining.owned, Nat.lt_of_lt_of_le joining.started moved.grows, ?_, ?_⟩
  · exact fun entry => kept.trans (joining.holds (reflects entry))
  · exact ensures_stable guardedHandler _ _ (interference_trans _ _) frame.program before.os after.os moved joining.barrier

theorem opened_reflects (os : Os) (answered : HANDLE) (id : ThreadId) (handle : HANDLE) (thread : Nat)
    (started : thread < os.created.length) (entry : (os.opened answered id).table handle = some thread) :
    os.table handle = some thread := by
  by_cases same : handle = answered
  · subst same
    simp only [Os.opened, Function.update_self, Option.some.injEq] at entry
    omega
  · simpa only [Os.opened, Function.update_of_ne same] using entry

theorem closed_reflects (os : Os) (closed handle : HANDLE) (thread : Nat)
    (entry : (os.closed closed).table handle = some thread) : handle ≠ closed ∧ os.table handle = some thread := by
  by_cases same : handle = closed
  · simp [Os.closed, same] at entry
  · exact ⟨same, by simpa only [Os.closed, Function.update_of_ne same] using entry⟩

theorem effect_reflects (os next : Os) (self owns : Thread) (effect : Effect os self next owns) (handle : HANDLE)
    (thread : Nat) (started : thread < os.created.length) (entry : next.table handle = some thread) :
    os.table handle = some thread := by
  cases effect with
  | kept _ _ _ table _ => rwa [table] at entry
  | opened answered id => exact opened_reflects os answered id handle thread started entry
  | closed => exact (closed_reflects os self.handle handle thread entry).2

theorem effect_keeps (os next : Os) (self owns : Thread) (effect : Effect os self next owns) (nonnull : self.handle ≠ 0)
    (thread : Nat) (entry : next.table self.handle = some thread) : owns.handle = self.handle := by
  cases effect with
  | kept => rfl
  | opened => exact absurd rfl nonnull
  | closed => exact absurd rfl (closed_reflects os self.handle self.handle thread entry).1

def Resting (slot : Option Slot) : Prop := ∀ fields frame, slot ≠ some ⟨fields, some frame⟩

theorem resting_idle (fields : Thread) : Resting (idle fields) := by
  intro _ _ same
  simp [idle] at same

theorem resting_none : Resting none := by
  intro _ _ same
  simp at same

theorem resting_settled (call : MemberCall) (outcome : Except Failure Unit) (result : Thread) :
    Resting (settled call outcome result) := by
  unfold settled
  split
  · exact resting_idle _
  · split
    · exact resting_none
    · exact resting_idle _

theorem join_invariant_resting (os : Os) (objects later : Objects) (crashed : Bool)
    (joins : JoinInvariant ⟨os, objects, false⟩)
    (rested : ∀ o fields frame, later o = some ⟨fields, some frame⟩ → objects o = later o) :
    JoinInvariant ⟨os, later, crashed⟩ := by
  intro o fields frame caller live call joinable
  have kept := rested o fields frame live
  obtain ⟨thread, joining⟩ := joins o fields frame caller (kept.trans live) call joinable
  refine ⟨thread, joining_frame _ _ o frame thread joining (interference_refl _ _ _) ?_ id⟩
  simp only [holdings, kept]

theorem update_rested (objects : Objects) (o : ObjId) (slot : Option Slot) (resting : Resting slot) (x : ObjId)
    (fields : Thread) (frame : Frame) (live : Function.update objects o slot x = some ⟨fields, some frame⟩) :
    objects x = Function.update objects o slot x := by
  by_cases same : x = o
  · rw [same, Function.update_self] at live
    exact absurd live (resting fields frame)
  · rw [Function.update_of_ne same]

theorem exchange_rested (objects : Objects) (o other : ObjId) (result : Thread × Thread) (x : ObjId)
    (fields : Thread) (frame : Frame) (live : exchange objects o other result x = some ⟨fields, some frame⟩) :
    objects x = exchange objects o other result x := by
  have outer := update_rested _ other _ (resting_idle result.2) x fields frame live
  exact (update_rested objects o _ (resting_idle result.1) x fields frame (outer.trans live)).trans outer

theorem effect_grows (os next : Os) (self owns : Thread) (effect : Effect os self next owns) :
    os.created.length ≤ next.created.length := by
  cases effect with
  | kept _ _ created _ _ => simp [created]
  | opened => simp [Os.opened]
  | closed => exact Nat.le_refl _

theorem thread_interference (os : Os) (moved : Nat) (status : Status)
    (moves : os.status moved = .running ∧ status = .terminated ∨ status = .gone) (handle : HANDLE) (thread : Nat) :
    Interference handle thread os { os with status := Function.update os.status moved status } := by
  refine ⟨Nat.le_refl _, id, fun ended => ?_⟩
  by_cases same : thread = moved
  · subst same
    rcases moves with ⟨running, _⟩ | gone
    · exact absurd running ended
    · simp [gone]
  · simpa only [Function.update_of_ne same] using ended

theorem joining_invoked (backend : Backend) (os : Os) (objects : Objects) (o : ObjId) (self : Thread) (caller : ThreadId)
    (inv : Invariant backend ⟨os, objects, false⟩) (ready : objects o = idle self) (joinable : self.joinable = true) :
    ∃ thread, Joining ⟨os, Function.update objects o (some ⟨self, some ⟨.join caller, self, os.table self.handle,
      (Thread.join backend.platform caller).run self⟩⟩), false⟩ o
      ⟨.join caller, self, os.table self.handle, (Thread.join backend.platform caller).run self⟩ thread := by
  have here : holdings objects o = self := holdings_live objects o self none ready
  have nonnull := (Thread.joinable_iff self).mp joinable
  obtain ⟨_, _, thread, entry, _⟩ := ledger_backed inv.ledger o (by rw [here]; exact nonnull)
  rw [here] at entry
  have started := ledger_bound inv.ledger self.handle thread entry
  refine ⟨thread, entry, started, fun _ => ?_, thread_join_barrier backend caller self thread os joinable started entry⟩
  simp [holdings, fieldsOf]

theorem joining_performed (os : Os) (objects : Objects) (o : ObjId) (self entry : Thread) (caller : ThreadId)
    (owned : Option Nat) (op : OsCall) (next : OsReply op → Program OsCall OsReply (Except Failure Unit × Thread))
    (reply : OsReply op) (live : objects o = some ⟨self, some ⟨.join caller, entry, owned, .call op next⟩⟩)
    (answered : os.answers op reply) (condition : FailsAfterEnd os op reply)
    (effect : Effect os self (os.after op reply) (self.advance op reply)) (nonnull : entry.handle ≠ 0) (thread : Nat)
    (joining : Joining ⟨os, objects, false⟩ o ⟨.join caller, entry, owned, .call op next⟩ thread) :
    Joining ⟨os.after op reply, Function.update objects o
      (some ⟨self.advance op reply, some ⟨.join caller, entry, owned, next reply⟩⟩), false⟩ o
      ⟨.join caller, entry, owned, next reply⟩ thread := by
  obtain ⟨same, started, holds, barrier⟩ := joining
  rw [holdings_live objects o self _ live] at holds
  refine ⟨same, Nat.lt_of_lt_of_le started (effect_grows os _ self _ effect), fun open' => ?_, ?_⟩
  · have held := holds (effect_reflects os _ self _ effect entry.handle thread started open')
    have kept : (self.advance op reply).handle = self.handle :=
      effect_keeps os _ self _ effect (by rw [held]; exact nonnull) thread (by rw [held]; exact open')
    simpa [holdings, fieldsOf] using kept.trans held
  · exact ensures_call guardedHandler _ _ (interference_refl _ _) op next os reply ⟨answered, condition⟩ barrier

theorem joining_other (backend : Backend) (os : Os) (objects : Objects) (o x : ObjId) (self : Thread) (next : Os)
    (owns : Thread) (slot : Slot) (inv : Invariant backend ⟨os, objects, false⟩) (here : holdings objects o = self)
    (different : x ≠ o) (effect : Effect os self next owns) (frame : Frame) (nonnull : frame.entry.handle ≠ 0)
    (thread : Nat) (joining : Joining ⟨os, objects, false⟩ x frame thread) :
    Joining ⟨next, Function.update objects o (some slot), false⟩ x frame thread := by
  have apart : os.table frame.entry.handle = some thread → frame.entry.handle ≠ self.handle := by
    intro entry same
    have held := joining.holds entry
    exact different (inv.ledger.unique x o (by rw [held, here, same]) (by rw [held]; exact nonnull))
  refine joining_frame _ _ x frame thread joining ?_ ?_ ?_
  · exact effect_interference os next self owns effect _ thread joining.started apart
  · simp [holdings, Function.update_of_ne different]
  · exact effect_reflects os next self owns effect _ thread joining.started

theorem join_invariant_step (backend : Backend) (before after : System) (action : Action)
    (inv : Invariant backend before) (joins : JoinInvariant before) (condition : JoinFailsAfterEnd before action)
    (taken : Step backend before action after) : JoinInvariant after := by
  cases taken with
  | construct os objects o =>
      exact join_invariant_resting os objects _ _ joins (update_rested objects o _ (resting_idle _))
  | moveConstruct os objects o source =>
      exact join_invariant_resting os objects _ _ joins (exchange_rested objects o source _)
  | moveAssign os objects o source =>
      exact join_invariant_resting os objects _ _ joins (exchange_rested objects o source _)
  | moveAssignCrash os objects => exact join_invariant_resting os objects _ _ joins fun _ _ _ _ => rfl
  | swap os objects o other =>
      exact join_invariant_resting os objects _ _ joins (exchange_rested objects o other _)
  | destroy os objects o =>
      exact join_invariant_resting os objects _ _ joins (update_rested objects o _ resting_none)
  | destroyCrash os objects => exact join_invariant_resting os objects _ _ joins fun _ _ _ _ => rfl
  | invoke os objects o call self ready =>
      intro x fields frame caller live isJoin joinable
      by_cases same : x = o
      · subst same
        simp only [Function.update_self, Option.some.injEq, Slot.mk.injEq] at live
        obtain ⟨_, rfl⟩ := live
        subst isJoin
        exact joining_invoked backend os objects x self caller inv ready joinable
      · simp only [Function.update_of_ne same] at live
        obtain ⟨thread, joining⟩ := joins x fields frame caller live isJoin joinable
        refine ⟨thread, joining_frame _ _ x frame thread joining (interference_refl _ _ _) ?_ id⟩
        simp [holdings, Function.update_of_ne same]
  | perform os objects o self entry call owned op next reply here answered =>
      obtain ⟨permitted, _⟩ := inv.frames o self ⟨call, entry, owned, .call op next⟩ here
      have effect := performed_effect backend os self op reply permitted answered
      intro x fields frame caller live isJoin joinable
      have nonnull := (Thread.joinable_iff frame.entry).mp joinable
      by_cases same : x = o
      · subst same
        simp only [Function.update_self, Option.some.injEq, Slot.mk.injEq] at live
        obtain ⟨_, rfl⟩ := live
        subst isJoin
        obtain ⟨thread, joining⟩ := joins x self _ caller here rfl joinable
        exact ⟨thread, joining_performed os objects x self entry caller owned op next reply here answered
          (condition ⟨self, _, caller, here, rfl⟩) effect nonnull thread joining⟩
      · simp only [Function.update_of_ne same] at live
        obtain ⟨thread, joining⟩ := joins x fields frame caller live isJoin joinable
        exact ⟨thread, joining_other backend os objects o x self _ _ _ inv (holdings_live objects o self _ here) same
          effect frame nonnull thread joining⟩
  | finish os objects o self entry result call owned outcome =>
      split
      · exact join_invariant_resting os objects _ _ joins fun _ _ _ _ => rfl
      · exact join_invariant_resting os objects _ _ joins (update_rested objects o _ (resting_settled call outcome result))
  | thread os objects moved status started moves =>
      intro x fields frame caller live isJoin joinable
      obtain ⟨thread, joining⟩ := joins x fields frame caller live isJoin joinable
      exact ⟨thread, joining_frame _ _ x frame thread joining (thread_interference os moved status moves _ thread) rfl id⟩

def JoinReturns (system : System) (o : ObjId) (owned : Option Nat) : Prop :=
  ∃ fields entry caller result, entry.joinable = true ∧
    system.objects o = some ⟨fields, some ⟨.join caller, entry, owned, .ret (.ok (), result)⟩⟩

theorem join_barrier (backend : Backend) (trail : List (System × Action)) (system : System)
    (run : Run (threadSystem backend) trail system) (along : Along JoinFailsAfterEnd trail) (o : ObjId)
    (owned : Option Nat) (returns : JoinReturns system o owned) :
    ∃ thread, owned = some thread ∧ system.os.status thread ≠ .running := by
  have joins : JoinInvariant system := by
    refine conditional_invariant (threadSystem backend) JoinFailsAfterEnd JoinInvariant ?_ ?_ trail system run along
    · intro start initial
      obtain rfl := initial
      intro _ _ _ _ live
      simp at live
    · intro before action after reachable joins condition taken
      exact join_invariant_step backend before after action (invariant_reachable backend before reachable) joins
        condition taken
  obtain ⟨fields, entry, caller, result, joinable, live⟩ := returns
  obtain ⟨thread, joining⟩ := joins o fields _ caller live rfl joinable
  have ended := ensures_ret guardedHandler _ _ (interference_refl _ _) _ system.os joining.barrier rfl
  exact ⟨thread, joining.owned, ended.2⟩

theorem created_run_win : ∃ trail objects, Along JoinFailsAfterEnd trail ∧ objects 0 = idle ⟨1, 1⟩ ∧
    Run (threadSystem .win) trail ⟨Os.boot.opened 1 1, objects, false⟩ := by
  refine ⟨_, _, ?_, ?_, .step _ _ _ _ (.step _ _ _ _ (.step _ _ _ _ (.start _ rfl)
    (.invoke _ _ 0 (.construct .noWait) Thread.none ⟨rfl, rfl⟩))
    (.perform _ _ 0 _ _ _ _ .createThread _ (some (1, 1)) rfl ?_))
    (.finish _ _ 0 _ _ ⟨1, 1⟩ _ _ (.ok ()) rfl)⟩
  · simp [JoinFailsAfterEnd, FailsAfterEnd]
  · rfl
  · rintro _ _ ⟨⟩
    simp [Os.boot]

theorem created_run_mac : ∃ trail objects, Along JoinFailsAfterEnd trail ∧ objects 0 = idle ⟨1, 1⟩ ∧
    Run (threadSystem .mac) trail ⟨Os.boot.opened 1 1, objects, false⟩ := by
  refine ⟨_, _, ?_, ?_, .step _ _ _ _ (.step _ _ _ _ (.step _ _ _ _ (.start _ rfl)
    (.invoke _ _ 0 (.construct .noWait) Thread.none ⟨rfl, rfl⟩))
    (.perform _ _ 0 _ _ _ _ .pthreadCreate _ (.ok 1) rfl ?_))
    (.finish _ _ 0 _ _ ⟨1, 1⟩ _ _ (.ok ()) rfl)⟩
  · simp [JoinFailsAfterEnd, FailsAfterEnd]
  · rfl
  · rintro _ ⟨⟩
    simp [Os.boot]

theorem join_barrier_joined : ∃ trail system, Run (threadSystem .win) trail system ∧ JoinReturns system 0 (some 0) ∧
    ∃ thread, some 0 = some thread ∧ system.os.status thread ≠ .running := by
  obtain ⟨trail, objects, along, live, run⟩ := created_run_win
  have joined : ∃ after system, Run (threadSystem .win) after system ∧ Along JoinFailsAfterEnd after ∧
      JoinReturns system 0 (some 0) := by
    refine ⟨_, _, .step _ _ _ _ (.step _ _ _ _ (.step _ _ _ _ (.step _ _ _ _ run
      (.thread _ _ 0 .terminated ?_ (.inl ⟨rfl, rfl⟩)))
      (.invoke _ _ 0 (.join 2) ⟨1, 1⟩ live))
      (.perform _ _ 0 _ _ _ _ (.waitForSingleObject 1 infinite) _ waitObject0 rfl ?_))
      (.perform _ _ 0 _ _ _ _ (.closeHandle 1) _ true rfl ?_), ?_, ⟨_, ⟨1, 1⟩, _, _, rfl, rfl⟩⟩
    · simp [Os.opened]
    · rintro _ ⟨⟩
      simp [Os.opened, Os.boot, waitObject0, waitTimeout, waitFailed]
    · simp [Os.answers, Os.after, Os.opened]
    · simp [JoinFailsAfterEnd, FailsAfterEnd, along, infinite]
  obtain ⟨after, system, joining, condition, returns⟩ := joined
  exact ⟨after, system, joining, returns, join_barrier .win after system joining condition 0 (some 0) returns⟩

def JoinIsBarrier (backend : Backend) : Prop :=
  ∀ trail system, Run (threadSystem backend) trail system → ∀ o owned, JoinReturns system o owned →
    ∃ thread, owned = some thread ∧ system.os.status thread ≠ .running

-- The wait fails, the probe times out, and the handle is closed.
theorem early_run_win : ∃ trail system, Run (threadSystem .win) trail system ∧
    JoinReturns system 0 (some 0) ∧ system.os.status 0 = .running := by
  obtain ⟨trail, objects, _, live, run⟩ := created_run_win
  refine ⟨_, _, .step _ _ _ _ (.step _ _ _ _ (.step _ _ _ _ (.step _ _ _ _ (.step _ _ _ _ run
    (.invoke _ _ 0 (.join 2) ⟨1, 1⟩ live))
    (.perform _ _ 0 _ _ _ _ (.waitForSingleObject 1 infinite) _ waitFailed rfl ?_))
    (.perform _ _ 0 _ _ _ _ .sysErrorTextA _ "" rfl trivial))
    (.perform _ _ 0 _ _ _ _ (.waitForSingleObject 1 0) _ waitTimeout rfl ?_))
    (.perform _ _ 0 _ _ _ _ (.closeHandle 1) _ true rfl ?_), ⟨_, ⟨1, 1⟩, _, _, rfl, rfl⟩, ?_⟩
  · rintro _ ⟨⟩
    simp [Os.opened, Os.boot, waitObject0, waitFailed, infinite]
  · rintro _ ⟨⟩
    simp [Os.after, Os.opened, Os.boot, waitObject0, waitTimeout, waitFailed]
  · simp [Os.answers, Os.after, Os.opened]
  · simp [Os.after, Os.opened, Os.closed, Os.boot]

theorem early_run_mac : ∃ trail system, Run (threadSystem .mac) trail system ∧
    JoinReturns system 0 (some 0) ∧ system.os.status 0 = .running := by
  obtain ⟨trail, objects, _, live, run⟩ := created_run_mac
  refine ⟨_, _, .step _ _ _ _ (.step _ _ _ _ run
    (.invoke _ _ 0 (.join 2) ⟨1, 1⟩ live))
    (.perform _ _ 0 _ _ _ _ (.pthreadJoin 1) _ 22 rfl ?_), ⟨_, ⟨1, 1⟩, _, _, rfl, rfl⟩, ?_⟩
  · simp [Os.answers]
  · simp [Os.after, Os.opened, Os.boot]

theorem join_is_no_barrier : ¬ JoinIsBarrier .win ∧ ¬ JoinIsBarrier .mac := by
  refine ⟨fun barrier => ?_, fun barrier => ?_⟩
  · obtain ⟨trail, system, run, returns, running⟩ := early_run_win
    obtain ⟨_, ⟨⟩, ended⟩ := barrier trail system run 0 (some 0) returns
    exact ended running
  · obtain ⟨trail, system, run, returns, running⟩ := early_run_mac
    obtain ⟨_, ⟨⟩, ended⟩ := barrier trail system run 0 (some 0) returns
    exact ended running

end Rcp.Threads
