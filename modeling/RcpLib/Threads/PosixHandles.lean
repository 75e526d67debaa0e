import RcpLib.Threads.HandleLife

set_option autoImplicit false

namespace Rcp.Threads

open Semantics Method

def pthreadOf : OsCall → Option HANDLE
  | .pthreadJoin handle => some handle
  | .pthreadDetach handle => some handle
  | .pthreadKill handle _ => some handle
  | _ => none

-- A join or detach of the run that was answered succeeded.
def Releases (_ : System) : Action → Prop
  | .perform _ (.pthreadJoin _) reply => reply = 0
  | .perform _ (.pthreadDetach _) reply => reply = 0
  | _ => True

-- The objects give their thread up with the call that releases it, whatever the
-- answer. This is what they own as long as no release fails.
def Thread.handOver (self : Thread) : (op : OsCall) → OsReply op → Thread
  | .pthreadJoin _, _ => Thread.none
  | .pthreadDetach _, _ => Thread.none
  | op, reply => self.advance op reply

def releasing : Protocol OsCall OsReply Thread := ⟨Thread.permits .mac, Thread.handOver⟩

theorem hand_over_released (self : Thread) (system : System) (o : ObjId) (op : OsCall) (reply : OsReply op)
    (released : Releases system (.perform o op reply)) : self.advance op reply = self.handOver op reply := by
  cases op with
  | pthreadJoin handle => exact if_pos released
  | pthreadDetach handle => exact if_pos released
  | _ => rfl

-- With FrameFinal for Windows: what the function leaves is what the object owns.
theorem releasing_follows (call : MemberCall) (self : Thread) (fresh : call.constructs → self = Thread.none) :
    ((call.body Backend.mac.platform).run self).Follows releasing (FrameFinal .win call) self := by
  cases call with
  | construct startStrategy =>
      obtain rfl := fresh rfl
      simp only [MemberCall.body, Thread.start, run_bind]
      refine ⟨⟨rfl, rfl⟩, fun created => ?_⟩
      cases created with
      | error code => exact ⟨.inl rfl, fun _ _ _ => rfl⟩
      | ok handle =>
          cases startStrategy with
          | wait => exact ⟨trivial, fun _ => ⟨.inl rfl, by simp⟩⟩
          | noWait => exact ⟨.inl rfl, by simp⟩
  | join caller =>
      simp only [MemberCall.body, Thread.join_run]
      split
      · rename_i joinable
        have nonnull := (Thread.joinable_iff self).mp joinable
        split
        · exact ⟨.inl rfl, by simp [MemberCall.constructs]⟩
        · exact ⟨⟨rfl, rfl, nonnull⟩, fun _ => ⟨.inl rfl, by simp [MemberCall.constructs]⟩⟩
      · exact ⟨.inl rfl, by simp [MemberCall.constructs]⟩
  | detach =>
      simp only [MemberCall.body, Thread.detach_run]
      split
      · rename_i joinable
        have nonnull := (Thread.joinable_iff self).mp joinable
        exact ⟨⟨rfl, rfl, nonnull⟩, fun _ => ⟨.inl rfl, by simp [MemberCall.constructs]⟩⟩
      · exact ⟨.inl rfl, by simp [MemberCall.constructs]⟩
  | terminate =>
      simp only [MemberCall.body, Thread.terminate_run]
      split
      · rename_i joinable
        have nonnull := (Thread.joinable_iff self).mp joinable
        exact ⟨⟨rfl, rfl, nonnull⟩, fun _ => ⟨⟨rfl, rfl, nonnull⟩, fun _ => ⟨.inl rfl, by simp [MemberCall.constructs]⟩⟩⟩
      · exact ⟨.inl rfl, by simp [MemberCall.constructs]⟩

-- The ledger of Windows, in which every open handle has an owner, for the POSIX functions.
theorem releasing_accounting : Accounting .mac .win releasing Releases where
  permits _ _ permitted := permitted
  advances system o op reply self released := hand_over_released self system o op reply released
  follows call self fresh := releasing_follows call self fresh

theorem pthread_step_open (before after : System) (o : ObjId) (op : OsCall) (reply : OsReply op) (handle : HANDLE)
    (about : pthreadOf op = some handle) (inv : Invariant .mac before) (taken : Step .mac before (.perform o op reply) after) :
    Holds before o handle ∧ before.os.table handle ≠ none := by
  cases taken with
  | perform os objects _ self entry call owned _ next _ live answered =>
      obtain ⟨permitted, _⟩ := inv.frames o self ⟨call, entry, owned, .call op next⟩ live
      have own : self.handle = handle ∧ handle ≠ 0 := by
        cases op with
        | pthreadJoin target =>
            obtain rfl := Option.some.inj about
            exact permitted.2
        | pthreadDetach target =>
            obtain rfl := Option.some.inj about
            exact permitted.2
        | pthreadKill target signal =>
            obtain rfl := Option.some.inj about
            exact permitted.2
        | _ => cases about
      have here : (holdings objects o).handle = handle := by rw [holdings_live objects o self _ live, own.1]
      obtain ⟨_, _, thread, entered, _⟩ := ledger_backed inv.ledger o (by rw [here]; exact own.2)
      rw [here] at entered
      exact ⟨⟨_, live, own.1⟩, by rw [entered]; simp⟩

theorem posix_handles (trail : List (System × Action)) (system : System) (run : Run (threadSystem .mac) trail system) :
    (∀ before o op reply handle, (before, Action.perform o op reply) ∈ trail → pthreadOf op = some handle →
      before.os.table handle ≠ none ∧ ∀ other, Holds before other handle ↔ other = o) ∧
    (∀ o slot, system.objects o = some slot → slot.fields.handle ≠ 0 →
      ∃ thread, system.os.table slot.fields.handle = some thread ∧
        system.os.created[thread]? = some (slot.fields.handle, slot.fields.id)) ∧
    (Along Releases trail →
      (∀ handle, system.os.table handle ≠ none → ∃! o, Holds system o handle) ∧
      ((∀ o, system.objects o = none) → ∀ handle, system.os.table handle = none)) := by
  refine ⟨fun before o op reply handle member about => ?_, fun o slot live nonnull => ?_, fun along => ?_⟩
  · obtain ⟨reachable, after, taken⟩ := trail_reachable (threadSystem .mac) trail system run _ member
    have inv := invariant_reachable .mac before reachable
    obtain ⟨holder, valid⟩ := pthread_step_open before after o op reply handle about inv taken
    obtain ⟨thread, entry⟩ := Option.ne_none_iff_exists'.mp valid
    have nonnull := (inv.ledger.tables handle thread entry).1
    refine ⟨valid, fun other => ⟨fun holds => ?_, fun same => same ▸ holder⟩⟩
    have mine := (holds_iff before o handle nonnull).mp holder
    have theirs := (holds_iff before other handle nonnull).mp holds
    exact inv.ledger.unique other o (theirs.trans mine.symm) (by rw [theirs]; exact nonnull)
  · have inv := invariant_reachable .mac system ⟨trail, run⟩
    have here := holdings_live system.objects o slot.fields slot.frame live
    obtain ⟨_, _, named⟩ := ledger_backed inv.ledger o (by rw [here]; exact nonnull)
    rw [here] at named
    exact named
  · obtain ⟨ledger, _⟩ := accounted_run .mac .win releasing Releases releasing_accounting trail system run along
    have owned : ∀ handle, system.os.table handle ≠ none → ∃! o, Holds system o handle := by
      intro handle valid
      obtain ⟨thread, entry⟩ := Option.ne_none_iff_exists'.mp valid
      have nonnull := (ledger.tables handle thread entry).1
      obtain ⟨o, holds⟩ := ledger.held rfl handle thread entry
      refine ⟨o, (holds_iff system o handle nonnull).mpr holds, fun other also => ?_⟩
      have same := (holds_iff system other handle nonnull).mp also
      exact ledger.unique other o (same.trans holds.symm) (by rw [same]; exact nonnull)
    refine ⟨owned, fun destroyed handle => ?_⟩
    by_contra valid
    obtain ⟨o, ⟨slot, live, _⟩, _⟩ := owned handle valid
    simp [destroyed o] at live

theorem posix_run : ∃ trail system, Run (threadSystem .mac) trail system ∧ Along Releases trail ∧
    (∀ o, system.objects o = none) ∧ ∃ before, (before, Action.perform 0 (.pthreadJoin 1) (0 : Int)) ∈ trail := by
  refine ⟨_, _, .step _ _ _ _ (.step _ _ _ _ (.step _ _ _ _ (.step _ _ _ _ (.step _ _ _ _ (.step _ _ _ _
    (.step _ _ _ _ (.step _ _ _ _ (.start _ rfl)
    (.invoke _ _ 0 (.construct .noWait) Thread.none ⟨rfl, rfl⟩))
    (.perform _ _ 0 _ _ _ _ .pthreadCreate _ (.ok 1) rfl ?_))
    (.finish _ _ 0 _ _ ⟨1, 1⟩ _ _ (.ok ()) rfl))
    (.thread _ _ 0 .terminated ?_ (.inl ⟨rfl, rfl⟩)))
    (.invoke _ _ 0 (.join 2) ⟨1, 1⟩ rfl))
    (.perform _ _ 0 _ _ _ _ (.pthreadJoin 1) _ (0 : Int) rfl ?_))
    (.finish _ _ 0 _ _ Thread.none _ _ (.ok ()) rfl))
    (.destroy _ _ 0 Thread.none rfl rfl), ?_, ?_, ?_⟩
  · intro handle answered
    cases answered
    simp [Os.boot]
  · simp [Os.after, Os.opened, Os.boot]
  · intro _
    exact ⟨0, by simp [Os.after, Os.opened, Os.boot], by simp⟩
  · simp [Releases]
  · intro o
    by_cases same : o = 0
    · simp [same]
    · simp [Function.update_of_ne same, settled]
  · exact ⟨_, List.mem_cons_of_mem _ (List.mem_cons_of_mem _ List.mem_cons_self)⟩

theorem posix_handles_joined : ∃ trail system, Run (threadSystem .mac) trail system ∧
    (∃ before : System, before.os.table 1 ≠ none) ∧ ∀ handle, system.os.table handle = none := by
  obtain ⟨trail, system, run, along, destroyed, before, joined⟩ := posix_run
  obtain ⟨used, _, released⟩ := posix_handles trail system run
  exact ⟨trail, system, run, ⟨before, (used before 0 _ _ 1 joined rfl).1⟩, (released along).2 destroyed⟩

end Rcp.Threads
