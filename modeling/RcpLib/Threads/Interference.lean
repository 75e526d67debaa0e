import RcpLib.Threads.Ownership

set_option autoImplicit false

namespace Rcp.Threads

open Semantics Method

-- A failed wait of a join is harmless when the thread is no longer running: the
-- zero-timeout probe that follows WAIT_FAILED, and an error of pthread_join.
def FailsAfterEnd (os : Os) : (op : OsCall) → OsReply op → Prop
  | .waitForSingleObject handle milliseconds, _ => milliseconds = 0 →
      ∀ thread, os.table handle = some thread → os.status thread ≠ .running
  | .pthreadJoin handle, reply => reply ≠ 0 →
      ∀ thread, os.table handle = some thread → os.status thread ≠ .running
  | _, _ => True

def guardedHandler : Handler OsCall OsReply Os :=
  ⟨fun os op reply => os.answers op reply ∧ FailsAfterEnd os op reply, Os.after⟩

structure Interference (handle : HANDLE) (thread : Nat) (os later : Os) : Prop where
  grows : os.created.length ≤ later.created.length
  keeps : os.table handle = some thread → later.table handle = some thread
  ended : os.status thread ≠ .running → later.status thread ≠ .running

theorem interference_refl (handle : HANDLE) (thread : Nat) (os : Os) : Interference handle thread os os :=
  ⟨Nat.le_refl _, id, id⟩

theorem interference_trans (handle : HANDLE) (thread : Nat) (a b c : Os) (first : Interference handle thread a b)
    (second : Interference handle thread b c) : Interference handle thread a c :=
  ⟨Nat.le_trans first.grows second.grows, second.keeps ∘ first.keeps, second.ended ∘ first.ended⟩

def Ended (thread : Nat) (os : Os) : Prop := thread < os.created.length ∧ os.status thread ≠ .running

theorem opened_interference (os : Os) (answered : HANDLE) (id : ThreadId) (closed : os.table answered = none)
    (handle : HANDLE) (thread : Nat) (started : thread < os.created.length) :
    Interference handle thread os (os.opened answered id) := by
  refine ⟨by simp [Os.opened], ?_, ?_⟩
  · intro entry
    have different : handle ≠ answered := by
      intro same
      subst same
      simp [closed] at entry
    simpa only [Os.opened, Function.update_of_ne different] using entry
  · intro ended
    simpa only [Os.opened, Function.update_of_ne (Nat.ne_of_lt started)] using ended

theorem closed_interference (os : Os) (closed handle : HANDLE) (thread : Nat)
    (apart : os.table handle = some thread → handle ≠ closed) : Interference handle thread os (os.closed closed) := by
  refine ⟨Nat.le_refl _, fun entry => ?_, id⟩
  simpa only [Os.closed, Function.update_of_ne (apart entry)] using entry

theorem effect_interference (os next : Os) (other owns : Thread) (effect : Effect os other next owns) (handle : HANDLE)
    (thread : Nat) (started : thread < os.created.length)
    (apart : os.table handle = some thread → handle ≠ other.handle) : Interference handle thread os next := by
  cases effect with
  | kept _ _ created table status => exact ⟨by simp [created], by simp [table], by simp [status]⟩
  | opened answered id _ _ closed => exact opened_interference os answered id closed handle thread started
  | closed => exact closed_interference os other.handle handle thread apart

theorem ended_performed (os : Os) (op : OsCall) (reply : OsReply op) (thread : Nat) (ended : Ended thread os) :
    Ended thread (os.after op reply) := by
  have opened : ∀ handle id, Ended thread (os.opened handle id) := by
    intro handle id
    refine ⟨Nat.lt_of_lt_of_le ended.1 (by simp [Os.opened]), ?_⟩
    simpa only [Os.opened, Function.update_of_ne (Nat.ne_of_lt ended.1)] using ended.2
  cases op with
  | createThread =>
      cases reply with
      | none => exact ended
      | some pair => exact opened pair.1 pair.2
  | pthreadCreate =>
      cases reply with
      | error code => exact ended
      | ok handle => exact opened handle handle
  | closeHandle handle => cases reply <;> exact ended
  | pthreadJoin handle =>
      simp only [Os.after]
      split <;> exact ended
  | pthreadDetach handle =>
      simp only [Os.after]
      split <;> exact ended
  | waitForSingleObject _ _ => exact ended
  | terminateThread _ _ => exact ended
  | getLastError => exact ended
  | sysErrorTextA => exact ended
  | pthreadKill _ _ => exact ended
  | waitForStarted => exact ended

section Programs

variable (handle : HANDLE) (thread : Nat)

theorem ended_moved (os later : Os) (ended : Ended thread os) (moved : Interference handle thread os later) :
    Ended thread later :=
  ⟨Nat.lt_of_lt_of_le ended.1 moved.grows, moved.ended ended.2⟩

theorem ended_ensures {α : Type} (program : Program OsCall OsReply α) (os : Os) (ended : Ended thread os) :
    program.Ensures guardedHandler (Interference handle thread) (fun _ => Ended thread) os :=
  ensures_of_stable guardedHandler (Interference handle thread) (Ended thread) (ended_moved handle thread)
    (fun world op reply now _ => ended_performed world op reply thread now) program os ended

def ReturnsAfter (result : Except Failure Unit × Thread) (os : Os) : Prop := result.1 = .ok () → Ended thread os

def Barrier (program : Program OsCall OsReply (Except Failure Unit × Thread)) (os : Os) : Prop :=
  program.Ensures guardedHandler (Interference handle thread) (ReturnsAfter thread) os

theorem barrier_of_ended (program : Program OsCall OsReply (Except Failure Unit × Thread)) (os : Os)
    (ended : Ended thread os) : Barrier handle thread program os :=
  ensures_mono guardedHandler _ _ (ReturnsAfter thread) (fun _ _ now _ => now) program os
    (ended_ensures handle thread program os ended)

theorem barrier_of_error (failure : Failure) (self : Thread) (os : Os) :
    Barrier handle thread (.ret (.error failure, self)) os := by
  intro _ _ impossible
  simp at impossible

theorem barrier_and_then (method : Member Unit) (next : Unit → Member Unit) (self : Thread) (os : Os)
    (barrier : Barrier handle thread (method.run self) os) :
    Barrier handle thread (method.run self >>= resume next) os := by
  apply ensures_bind guardedHandler _ _ (interference_refl handle thread)
  refine ensures_mono guardedHandler _ _ _ ?_ _ os barrier
  intro ended later returned
  obtain ⟨outcome, result⟩ := ended
  cases outcome with
  | ok value => exact barrier_of_ended handle thread _ later (returned rfl)
  | error failure => exact barrier_of_error handle thread failure result later

end Programs

theorem wait_for_thread_barrier (self : Thread) (thread : Nat) (os : Os) (started : thread < os.created.length)
    (entry : os.table self.handle = some thread) :
    Barrier self.handle thread (Win.waitForThread.run self) os := by
  simp only [Barrier, Win.wait_for_thread_run, Program.Ensures]
  intro first moved waitResult answered
  have startedFirst := Nat.lt_of_lt_of_le started moved.grows
  have entryFirst := moved.keeps entry
  split
  · rename_i signalled
    have terminated := (answered.1 thread entryFirst).1 signalled
    apply barrier_of_ended self.handle thread
    exact ⟨startedFirst, by simp [guardedHandler, Os.after, terminated]⟩
  split
  · intro second movedSecond lastError _ third movedThird checkExist answeredThird
    -- The probe: by the condition the thread is not running when it is made.
    have entryThird := movedThird.keeps (movedSecond.keeps entryFirst)
    have notRunning := answeredThird.2 rfl thread entryThird
    have startedThird := Nat.lt_of_lt_of_le startedFirst (Nat.le_trans movedSecond.grows movedThird.grows)
    dsimp only
    split
    · exact barrier_of_ended self.handle thread _ _ ⟨startedThird, notRunning⟩
    · exact barrier_of_error self.handle thread _ _ _
  · exact barrier_of_error self.handle thread _ _ _

theorem pthread_join_barrier (self : Thread) (thread : Nat) (os : Os) (started : thread < os.created.length)
    (entry : os.table self.handle = some thread) :
    Barrier self.handle thread (Mac.joinImpl.run self) os := by
  intro first moved result answered
  have startedFirst := Nat.lt_of_lt_of_le started moved.grows
  have entryFirst := moved.keeps entry
  apply barrier_of_ended self.handle thread
  refine ended_performed first (.pthreadJoin self.handle) result thread ⟨startedFirst, ?_⟩
  by_cases success : result = 0
  · obtain ⟨joined, joinedEntry, terminated⟩ := answered.1 success
    have same : joined = thread := Option.some.inj (joinedEntry.symm.trans entryFirst)
    simp [← same, terminated]
  · exact answered.2 success thread entryFirst

theorem join_impl_barrier (backend : Backend) (self : Thread) (thread : Nat) (os : Os)
    (started : thread < os.created.length) (entry : os.table self.handle = some thread) :
    Barrier self.handle thread (backend.platform.joinImpl.run self) os := by
  cases backend with
  | win =>
      change Barrier self.handle thread (Win.waitForThread.run self >>= resume fun _ => Win.closeHandleAndCheck) os
      exact barrier_and_then self.handle thread _ _ self os (wait_for_thread_barrier self thread os started entry)
  | mac => exact pthread_join_barrier self thread os started entry

theorem thread_join_barrier (backend : Backend) (caller : ThreadId) (self : Thread) (thread : Nat) (os : Os)
    (joinable : self.joinable = true) (started : thread < os.created.length)
    (entry : os.table self.handle = some thread) :
    Barrier self.handle thread ((Thread.join backend.platform caller).run self) os := by
  rw [Thread.join_run, if_pos joinable]
  split
  · exact barrier_of_error self.handle thread _ _ _
  · exact barrier_and_then self.handle thread _ _ self os (join_impl_barrier backend self thread os started entry)

end Rcp.Threads
