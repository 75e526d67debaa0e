import RcpLib.Threads.System

set_option autoImplicit false

namespace Rcp.Threads

open Semantics Method

-- How a member function may end. The POSIX functions ignore errors and forget a
-- handle that is still open; a constructor that throws owns nothing.
def FrameFinal (backend : Backend) (call : MemberCall) (result : Except Failure Unit × Thread) (owned : Thread) : Prop :=
  (result.2 = owned ∨ backend = .mac ∧ result.2 = Thread.none) ∧
    (call.constructs → ∀ failure, result.1 = .error failure → owned = Thread.none)

section Calls

variable (final : Except Failure Unit × Thread → Thread → Prop) (self : Thread) (nonnull : self.handle ≠ 0)

include nonnull

theorem wait_for_thread_follows (waited : final (.ok (), self) self)
    (failed : ∀ text, final (.error (.runtimeError text), self) self) :
    (Win.waitForThread.run self).Follows (ownership .win) final self := by
  simp only [Win.wait_for_thread_run, Program.Follows]
  refine ⟨⟨rfl, rfl, nonnull⟩, fun waitResult => ?_⟩
  split
  · exact waited
  split
  · refine ⟨rfl, fun lastError => ⟨⟨rfl, rfl, nonnull⟩, fun checkExist => ?_⟩⟩
    dsimp only
    split
    · exact waited
    · exact failed _
  · exact failed _

theorem close_handle_follows (closed : final (.ok (), ⟨0, self.id⟩) Thread.none)
    (failed : ∀ text, final (.error (.runtimeError text), self) self) :
    (Win.closeHandleAndCheck.run self).Follows (ownership .win) final self := by
  simp only [Win.close_handle_run self nonnull, Program.Follows]
  refine ⟨⟨rfl, rfl, nonnull⟩, fun reply => ?_⟩
  cases reply with
  | true => exact closed
  | false => exact ⟨rfl, fun text => failed _⟩

theorem win_join_impl_follows (closed : final (.ok (), ⟨0, self.id⟩) Thread.none)
    (failed : ∀ text, final (.error (.runtimeError text), self) self) :
    (Win.joinImpl.run self).Follows (ownership .win) final self := by
  rw [Win.joinImpl, run_bind]
  apply follows_bind
  apply wait_for_thread_follows _ self nonnull
  · exact close_handle_follows final self nonnull closed failed
  · exact failed

theorem win_terminate_impl_follows (closed : final (.ok (), ⟨0, self.id⟩) Thread.none)
    (failed : ∀ text, final (.error (.runtimeError text), self) self) :
    (Win.terminateImpl.run self).Follows (ownership .win) final self := by
  simp only [Win.terminate_impl_run, Program.Follows]
  refine ⟨⟨rfl, rfl, nonnull⟩, fun reply => ?_⟩
  cases reply with
  | true => exact close_handle_follows final self nonnull closed failed
  | false => exact ⟨rfl, fun text => failed _⟩

theorem mac_join_impl_follows (joined : final (.ok (), self) Thread.none) (kept : final (.ok (), self) self) :
    (Mac.joinImpl.run self).Follows (ownership .mac) final self := by
  simp only [Mac.join_impl_run, Program.Follows, ownership, Thread.advance]
  refine ⟨⟨rfl, rfl, nonnull⟩, fun result => ?_⟩
  split
  · exact joined
  · exact kept

theorem mac_detach_impl_follows (detached : final (.ok (), self) Thread.none) (kept : final (.ok (), self) self) :
    (Mac.detachImpl.run self).Follows (ownership .mac) final self := by
  simp only [Mac.detach_impl_run, Program.Follows, ownership, Thread.advance]
  refine ⟨⟨rfl, rfl, nonnull⟩, fun result => ?_⟩
  split
  · exact detached
  · exact kept

theorem mac_terminate_impl_follows (joined : final (.ok (), self) Thread.none) (kept : final (.ok (), self) self) :
    (Mac.terminateImpl.run self).Follows (ownership .mac) final self :=
  ⟨⟨rfl, rfl, nonnull⟩, fun _ => mac_join_impl_follows final self nonnull joined kept⟩

end Calls

-- What a platform function may do when it returns and when it throws, for the
-- member function that resets the fields after it.
def ReleaseFinal (backend : Backend) (result : Except Failure Unit × Thread) (owned : Thread) : Prop :=
  (result.1 = .ok () → owned = Thread.none ∨ backend = .mac) ∧ ∀ failure, result.1 = .error failure → result.2 = owned

theorem and_reset_follows (backend : Backend) (call : MemberCall) (destructive : call.constructs = false) (self : Thread)
    (implementation : Member Unit)
    (follows : (implementation.run self).Follows (ownership backend) (ReleaseFinal backend) self) :
    (Thread.andReset implementation self).Follows (ownership backend) (FrameFinal backend call) self := by
  apply follows_bind
  refine follows_mono (ownership backend) _ _ ?_ _ self follows
  intro ended owned final
  obtain ⟨outcome, result⟩ := ended
  obtain ⟨returned, threw⟩ := final
  cases outcome with
  | ok value =>
      refine ⟨?_, by simp [destructive]⟩
      rcases returned rfl with released | leaky
      · exact .inl released.symm
      · exact .inr ⟨leaky, rfl⟩
  | error failure => exact ⟨.inl (threw failure rfl), by simp [destructive]⟩

theorem unchanged_follows (backend : Backend) (call : MemberCall) (destructive : call.constructs = false)
    (outcome : Except Failure Unit) (self : Thread) :
    (Program.ret (outcome, self) : Program OsCall OsReply _).Follows (ownership backend) (FrameFinal backend call) self :=
  ⟨.inl rfl, by simp [destructive]⟩

theorem member_follows_of_parts (backend : Backend)
    (joins : ∀ self : Thread, self.handle ≠ 0 →
      (backend.platform.joinImpl.run self).Follows (ownership backend) (ReleaseFinal backend) self)
    (detaches : ∀ self : Thread, self.handle ≠ 0 →
      (backend.platform.detachImpl.run self).Follows (ownership backend) (ReleaseFinal backend) self)
    (terminates : ∀ self : Thread, self.handle ≠ 0 →
      (backend.platform.terminateImpl.run self).Follows (ownership backend) (ReleaseFinal backend) self)
    (creates : (backend.platform.initializeThread.run Thread.none).Follows (ownership backend)
      (fun result owned => (∀ handle id, result.1 = .ok (handle, id) → owned = ⟨handle, id⟩) ∧
        ∀ failure, result.1 = .error failure → result.2 = Thread.none ∧ owned = Thread.none) Thread.none)
    (call : MemberCall) (self : Thread) (fresh : call.constructs → self = Thread.none) :
    ((call.body backend.platform).run self).Follows (ownership backend) (FrameFinal backend call) self := by
  cases call with
  | construct startStrategy =>
      have empty : self = Thread.none := fresh rfl
      subst empty
      simp only [MemberCall.body, Thread.start, run_bind]
      apply follows_bind
      refine follows_mono (ownership backend) _ _ ?_ _ _ creates
      intro returned owned final
      obtain ⟨outcome, result⟩ := returned
      obtain ⟨created, failed⟩ := final
      cases outcome with
      | ok pair =>
          have same : owned = ⟨pair.1, pair.2⟩ := created pair.1 pair.2 rfl
          subst same
          cases startStrategy with
          | wait => exact ⟨trivial, fun _ => ⟨.inl rfl, by simp⟩⟩
          | noWait => exact ⟨.inl rfl, by simp⟩
      | error failure =>
          obtain ⟨fields, none⟩ := failed failure rfl
          exact ⟨.inl (fields.trans none.symm), fun _ _ _ => none⟩
  | join caller =>
      simp only [MemberCall.body, Thread.join_run]
      split
      · rename_i joinable
        split
        · exact unchanged_follows backend _ rfl _ self
        · exact and_reset_follows backend _ rfl self _ (joins self ((Thread.joinable_iff self).mp joinable))
      · exact unchanged_follows backend _ rfl _ self
  | detach =>
      simp only [MemberCall.body, Thread.detach_run]
      split
      · rename_i joinable
        exact and_reset_follows backend _ rfl self _ (detaches self ((Thread.joinable_iff self).mp joinable))
      · exact unchanged_follows backend _ rfl _ self
  | terminate =>
      simp only [MemberCall.body, Thread.terminate_run]
      split
      · rename_i joinable
        exact and_reset_follows backend _ rfl self _ (terminates self ((Thread.joinable_iff self).mp joinable))
      · exact unchanged_follows backend _ rfl _ self

theorem win_member_follows (call : MemberCall) (self : Thread) (fresh : call.constructs → self = Thread.none) :
    ((call.body Backend.win.platform).run self).Follows (ownership .win) (FrameFinal .win call) self := by
  refine member_follows_of_parts .win ?_ ?_ ?_ ?_ call self fresh
  · exact fun self nonnull => win_join_impl_follows _ self nonnull ⟨fun _ => .inl rfl, by simp⟩
      fun text => ⟨by simp, fun _ _ => rfl⟩
  · exact fun self nonnull => close_handle_follows _ self nonnull ⟨fun _ => .inl rfl, by simp⟩
      fun text => ⟨by simp, fun _ _ => rfl⟩
  · exact fun self nonnull => win_terminate_impl_follows _ self nonnull ⟨fun _ => .inl rfl, by simp⟩
      fun text => ⟨by simp, fun _ _ => rfl⟩
  · refine ⟨⟨rfl, rfl⟩, fun created => ?_⟩
    cases created with
    | none => exact ⟨rfl, fun lastError => ⟨by simp, fun _ _ => ⟨rfl, rfl⟩⟩⟩
    | some pair => exact ⟨fun handle id same => by cases same; rfl, by simp⟩

theorem mac_member_follows (call : MemberCall) (self : Thread) (fresh : call.constructs → self = Thread.none) :
    ((call.body Backend.mac.platform).run self).Follows (ownership .mac) (FrameFinal .mac call) self := by
  refine member_follows_of_parts .mac ?_ ?_ ?_ ?_ call self fresh
  · exact fun self nonnull => mac_join_impl_follows _ self nonnull ⟨fun _ => .inl rfl, by simp⟩
      ⟨fun _ => .inr rfl, by simp⟩
  · exact fun self nonnull => mac_detach_impl_follows _ self nonnull ⟨fun _ => .inl rfl, by simp⟩
      ⟨fun _ => .inr rfl, by simp⟩
  · exact fun self nonnull => mac_terminate_impl_follows _ self nonnull ⟨fun _ => .inl rfl, by simp⟩
      ⟨fun _ => .inr rfl, by simp⟩
  · refine ⟨⟨rfl, rfl⟩, fun created => ?_⟩
    cases created with
    | error code => exact ⟨by simp, fun _ _ => ⟨rfl, rfl⟩⟩
    | ok handle => exact ⟨fun _ _ same => by cases same; rfl, by simp⟩

theorem member_follows (backend : Backend) (call : MemberCall) (self : Thread)
    (fresh : call.constructs → self = Thread.none) :
    ((call.body backend.platform).run self).Follows (ownership backend) (FrameFinal backend call) self := by
  cases backend with
  | win => exact win_member_follows call self fresh
  | mac => exact mac_member_follows call self fresh

end Rcp.Threads
