import RcpLib.Threads.Ownership

set_option autoImplicit false

namespace Rcp.Threads

open Semantics

def Holds (system : System) (o : ObjId) (handle : HANDLE) : Prop :=
  ∃ slot, system.objects o = some slot ∧ slot.fields.handle = handle

def opens (handle : HANDLE) : Action → Bool
  | .perform _ .createThread (some (answered, _)) => answered == handle
  | _ => false

def closes (handle : HANDLE) : Action → Bool
  | .perform _ (.closeHandle closed) true => closed == handle
  | _ => false

def openCount (os : Os) (handle : HANDLE) : Nat := if os.table handle = none then 0 else 1

theorem holds_iff (system : System) (o : ObjId) (handle : HANDLE) (nonnull : handle ≠ 0) :
    Holds system o handle ↔ (holdings system.objects o).handle = handle := by
  cases live : system.objects o with
  | none =>
      constructor
      · intro held
        obtain ⟨slot, same, _⟩ := held
        simp [live] at same
      · intro same
        rw [holdings_absent system.objects o live] at same
        exact absurd same.symm nonnull
  | some slot => simp [Holds, live, holdings, fieldsOf]

theorem open_count_opened (os : Os) (answered handle : HANDLE) (id : ThreadId) (closed : os.table answered = none) :
    openCount (os.opened answered id) handle = openCount os handle + (answered == handle).toNat := by
  by_cases same : handle = answered
  · subst same
    simp [openCount, Os.opened, closed]
  · simp [openCount, Os.opened, Function.update_of_ne same, Ne.symm same]

theorem open_count_closed (os : Os) (closed handle : HANDLE) (entry : os.table closed ≠ none) :
    openCount (os.closed closed) handle + (closed == handle).toNat = openCount os handle := by
  by_cases same : handle = closed
  · subst same
    simp [openCount, Os.closed, entry]
  · simp [openCount, Os.closed, Function.update_of_ne same, Ne.symm same]

theorem open_count_step (before after : System) (action : Action) (handle : HANDLE) (inv : Invariant .win before)
    (taken : Step .win before action after) :
    openCount after.os handle + (closes handle action).toNat = openCount before.os handle + (opens handle action).toNat := by
  cases taken with
  | perform os objects o self entry call owned op next reply live answered =>
      obtain ⟨permitted, _⟩ := inv.frames o self ⟨call, entry, owned, .call op next⟩ live
      cases op with
      | createThread =>
          cases reply with
          | none => rfl
          | some pair => exact open_count_opened os pair.1 handle pair.2 (answered pair.1 pair.2 rfl).2.2
      | closeHandle closed =>
          cases reply with
          | false => rfl
          | true => exact open_count_closed os closed handle (answered rfl)
      | pthreadCreate => simp [ownership, Thread.permits] at permitted
      | pthreadJoin _ => simp [ownership, Thread.permits] at permitted
      | pthreadDetach _ => simp [ownership, Thread.permits] at permitted
      | pthreadKill _ _ => simp [ownership, Thread.permits] at permitted
      | waitForSingleObject _ _ => rfl
      | terminateThread _ _ => rfl
      | getLastError => rfl
      | sysErrorTextA => rfl
      | waitForStarted => rfl
  | finish os objects o self entry result call owned outcome live => split <;> rfl
  | construct => rfl
  | moveConstruct => rfl
  | moveAssign => rfl
  | moveAssignCrash => rfl
  | swap => rfl
  | destroy => rfl
  | destroyCrash => rfl
  | invoke => rfl
  | thread => rfl

theorem open_count_tally (trail : List (System × Action)) (system : System)
    (run : Run (threadSystem .win) trail system) (handle : HANDLE) :
    tally (opens handle) trail = tally (closes handle) trail + openCount system.os handle := by
  refine run_invariant (threadSystem .win)
    (fun trail system => tally (opens handle) trail = tally (closes handle) trail + openCount system.os handle)
    ?_ ?_ trail system run
  · intro start initial
    obtain rfl := initial
    rfl
  · intro trail before action after previous ih taken
    have inv := invariant_reachable .win before ⟨trail, previous⟩
    have balance := open_count_step before after action handle inv taken
    rw [tally_cons, tally_cons]
    omega

theorem close_step_open (before after : System) (o : ObjId) (handle : HANDLE) (reply : OsReply (.closeHandle handle))
    (inv : Invariant .win before) (taken : Step .win before (.perform o (.closeHandle handle) reply) after) :
    before.os.table handle ≠ none := by
  cases taken with
  | perform os objects _ self entry call owned _ next _ live answered =>
      obtain ⟨⟨_, same, nonnull⟩, _⟩ := inv.frames o self ⟨call, entry, owned, .call (.closeHandle handle) next⟩ live
      have here : (holdings objects o).handle = handle := by rw [holdings_live objects o self _ live, same]
      obtain ⟨_, _, thread, entered, _⟩ := ledger_backed inv.ledger o (by rw [here]; exact nonnull)
      rw [here] at entered
      rw [entered]
      simp

theorem closed_handles_are_open (trail : List (System × Action)) (system : System)
    (run : Run (threadSystem .win) trail system) (before : System) (o : ObjId) (handle : HANDLE)
    (reply : OsReply (.closeHandle handle)) (member : (before, Action.perform o (.closeHandle handle) reply) ∈ trail) :
    before.os.table handle ≠ none := by
  obtain ⟨reachable, after, taken⟩ := trail_reachable (threadSystem .win) trail system run _ member
  exact close_step_open before after o handle reply (invariant_reachable .win before reachable) taken

theorem handle_ownership (trail : List (System × Action)) (system : System)
    (run : Run (threadSystem .win) trail system) :
    (∀ handle, system.os.table handle ≠ none → ∃! o, Holds system o handle) ∧
    (∀ o slot, system.objects o = some slot →
      (slot.fields.handle = 0 ↔ slot.fields.id = 0) ∧
      (slot.fields.handle ≠ 0 → ∃ thread, system.os.table slot.fields.handle = some thread ∧
        system.os.created[thread]? = some (slot.fields.handle, slot.fields.id))) ∧
    (∀ before o handle reply, (before, Action.perform o (.closeHandle handle) reply) ∈ trail →
      before.os.table handle ≠ none) ∧
    ((∀ o, system.objects o = none) → ∀ handle,
      system.os.table handle = none ∧ tally (opens handle) trail = tally (closes handle) trail) := by
  obtain ⟨ledger, frames⟩ := invariant_reachable .win system ⟨trail, run⟩
  have owned : ∀ handle, system.os.table handle ≠ none → ∃! o, Holds system o handle := by
    intro handle isOpen
    obtain ⟨thread, entry⟩ := Option.ne_none_iff_exists'.mp isOpen
    have nonnull := (ledger.tables handle thread entry).1
    obtain ⟨o, holds⟩ := ledger.held rfl handle thread entry
    refine ⟨o, (holds_iff system o handle nonnull).mpr holds, fun other also => ?_⟩
    have same := (holds_iff system other handle nonnull).mp also
    exact ledger.unique other o (same.trans holds.symm) (by rw [same]; exact nonnull)
  refine ⟨owned, ?_, closed_handles_are_open trail system run, ?_⟩
  · intro o slot live
    have here := holdings_live system.objects o slot.fields slot.frame live
    rcases ledger.backed o with vacant | backed
    · rw [here] at vacant
      simp [vacant, Thread.none]
    · rw [here] at backed
      obtain ⟨nonnull, nonzero, named⟩ := backed
      exact ⟨⟨fun null => absurd null nonnull, fun zero => absurd zero nonzero⟩, fun _ => named⟩
  · intro destroyed handle
    have closed : system.os.table handle = none := by
      by_contra isOpen
      obtain ⟨o, ⟨slot, live, _⟩, _⟩ := owned handle isOpen
      simp [destroyed o] at live
    have balance := open_count_tally trail system run handle
    simp only [openCount, closed, if_true] at balance
    exact ⟨closed, balance⟩

theorem destroyed_run : ∃ trail system, Run (threadSystem .win) trail system ∧ (∀ o, system.objects o = none) ∧
    tally (opens 1) trail = 1 := by
  refine ⟨_, _, .step _ _ _ _ (.step _ _ _ _ (.step _ _ _ _ (.step _ _ _ _ (.step _ _ _ _ (.step _ _ _ _
    (.step _ _ _ _ (.step _ _ _ _ (.step _ _ _ _ (.start _ rfl)
    (.invoke _ _ 0 (.construct .noWait) Thread.none ⟨rfl, rfl⟩))
    (.perform _ _ 0 _ _ _ _ .createThread _ (some (1, 1)) rfl ?_))
    (.finish _ _ 0 _ _ ⟨1, 1⟩ _ _ (.ok ()) rfl))
    (.thread _ _ 0 .terminated ?_ (.inl ⟨rfl, rfl⟩)))
    (.invoke _ _ 0 (.join 2) ⟨1, 1⟩ rfl))
    (.perform _ _ 0 _ _ _ _ (.waitForSingleObject 1 infinite) _ waitObject0 rfl ?_))
    (.perform _ _ 0 _ _ _ _ (.closeHandle 1) _ true rfl ?_))
    (.finish _ _ 0 _ _ Thread.none _ _ (.ok ()) rfl))
    (.destroy _ _ 0 Thread.none rfl rfl), ?_, ?_⟩
  · rintro _ _ ⟨⟩
    simp [Os.boot]
  · simp [Os.after, Os.opened]
  · rintro _ ⟨⟩
    simp [Os.after, Os.opened, Os.boot, waitObject0, waitTimeout, waitFailed]
  · simp [Os.answers, Os.after, Os.opened]
  · intro o
    by_cases same : o = 0
    · simp [same]
    · simp [Function.update_of_ne same, settled]
  · simp [tally, opens]

theorem handle_ownership_destroyed : ∃ trail system, Run (threadSystem .win) trail system ∧
    tally (opens 1) trail = 1 ∧ system.os.table 1 = none ∧ tally (closes 1) trail = 1 := by
  obtain ⟨trail, system, run, destroyed, opened⟩ := destroyed_run
  obtain ⟨closed, balance⟩ := (handle_ownership trail system run).2.2.2 destroyed 1
  exact ⟨trail, system, run, opened, closed, balance.symm.trans opened⟩

end Rcp.Threads
