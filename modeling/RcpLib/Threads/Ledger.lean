import Mathlib.Logic.Equiv.Basic
import RcpLib.Threads.Discipline

set_option autoImplicit false

namespace Rcp.Threads

open Semantics

def Backed (os : Os) (self : Thread) : Prop :=
  self.handle ≠ 0 ∧ self.id ≠ 0 ∧
    ∃ thread, os.table self.handle = some thread ∧ os.created[thread]? = some (self.handle, self.id)

-- Which object owns which open handle. Only the POSIX functions may leave an open
-- handle that no object owns.
structure Ledger (backend : Backend) (os : Os) (own : ObjId → Thread) : Prop where
  tables : ∀ handle thread, os.table handle = some thread → handle ≠ 0 ∧ ∃ id, os.created[thread]? = some (handle, id)
  backed : ∀ o, own o = Thread.none ∨ Backed os (own o)
  unique : ∀ o other, (own o).handle = (own other).handle → (own o).handle ≠ 0 → o = other
  held : backend = .win → ∀ handle thread, os.table handle = some thread → ∃ o, (own o).handle = handle

theorem opened_created (os : Os) (handle : HANDLE) (id : ThreadId) (thread : Nat) (pair : HANDLE × ThreadId)
    (created : os.created[thread]? = some pair) : (os.opened handle id).created[thread]? = some pair := by
  simpa only [Os.opened, List.getElem?_append_left (List.getElem?_eq_some_iff.mp created).1] using created

-- All that one call of a member function does to the table of handles and to what
-- the object owns: nothing, a handle gained, or its handle released.
inductive Effect (os : Os) : Thread → Os → Thread → Prop where
  | kept (self : Thread) (next : Os) (created : next.created = os.created) (table : next.table = os.table)
      (status : next.status = os.status) : Effect os self next self
  | opened (handle : HANDLE) (id : ThreadId) (nonnull : handle ≠ 0) (nonzero : id ≠ 0) (closed : os.table handle = none) :
      Effect os Thread.none (os.opened handle id) ⟨handle, id⟩
  | closed (self : Thread) (nonnull : self.handle ≠ 0) : Effect os self (os.closed self.handle) Thread.none

theorem performed_effect (backend : Backend) (os : Os) (self : Thread) (op : OsCall) (reply : OsReply op)
    (permitted : self.permits backend op) (answered : os.answers op reply) :
    Effect os self (os.after op reply) (self.advance op reply) := by
  have unchanged : Effect os self os self := .kept self os rfl rfl rfl
  cases op with
  | createThread =>
      cases reply with
      | none => exact unchanged
      | some pair =>
          obtain ⟨nonnull, nonzero, closed⟩ := answered pair.1 pair.2 rfl
          rw [permitted.2]
          exact .opened pair.1 pair.2 nonnull nonzero closed
  | pthreadCreate =>
      cases reply with
      | error code => exact unchanged
      | ok handle =>
          obtain ⟨nonnull, closed⟩ := answered handle rfl
          rw [permitted.2]
          exact .opened handle handle nonnull nonnull closed
  | closeHandle handle =>
      obtain ⟨_, same, nonnull⟩ := permitted
      subst same
      cases reply with
      | false => exact unchanged
      | true => exact .closed self nonnull
  | pthreadJoin handle =>
      obtain ⟨_, same, nonnull⟩ := permitted
      subst same
      simp only [Os.after, Thread.advance]
      split
      · exact .closed self nonnull
      · exact unchanged
  | pthreadDetach handle =>
      obtain ⟨_, same, nonnull⟩ := permitted
      subst same
      simp only [Os.after, Thread.advance]
      split
      · exact .closed self nonnull
      · exact unchanged
  | waitForSingleObject _ _ => exact .kept self _ rfl rfl rfl
  | terminateThread _ _ => exact unchanged
  | getLastError => exact unchanged
  | sysErrorTextA => exact unchanged
  | pthreadKill _ _ => exact unchanged
  | waitForStarted => exact unchanged

section Moves

variable {backend : Backend} {os : Os} {own : ObjId → Thread} (ledger : Ledger backend os own)

include ledger

theorem ledger_backed (o : ObjId) (nonnull : (own o).handle ≠ 0) : Backed os (own o) := by
  rcases ledger.backed o with vacant | backed
  · exact absurd (congrArg Thread.handle vacant) nonnull
  · exact backed

theorem ledger_vacant (o : ObjId) (null : (own o).handle = 0) : own o = Thread.none := by
  rcases ledger.backed o with vacant | backed
  · exact vacant
  · exact absurd null backed.1

theorem ledger_bound (handle : HANDLE) (thread : Nat) (entry : os.table handle = some thread) :
    thread < os.created.length := by
  obtain ⟨_, id, created⟩ := ledger.tables handle thread entry
  exact (List.getElem?_eq_some_iff.mp created).1

theorem ledger_same (next : Os) (created : next.created = os.created) (table : next.table = os.table) :
    Ledger backend next own := by
  refine ⟨?_, ?_, ledger.unique, ?_⟩
  · simpa only [created, table] using ledger.tables
  · simpa only [Backed, created, table] using ledger.backed
  · simpa only [table] using ledger.held

theorem ledger_unchanged (o : ObjId) (self : Thread) (same : own o = self) :
    Ledger backend os (Function.update own o self) := by
  rw [← same, Function.update_eq_self]
  exact ledger

theorem ledger_apart (handle : HANDLE) (closed : os.table handle = none) (o : ObjId)
    (nonnull : (own o).handle ≠ 0) : (own o).handle ≠ handle := by
  obtain ⟨_, _, thread, entry, _⟩ := ledger_backed ledger o nonnull
  intro same
  rw [same, closed] at entry
  simp at entry

theorem opened_tables (handle : HANDLE) (id : ThreadId) (nonnull : handle ≠ 0) (h : HANDLE) (thread : Nat)
    (entry : (os.opened handle id).table h = some thread) :
    h ≠ 0 ∧ ∃ known, (os.opened handle id).created[thread]? = some (h, known) := by
  by_cases same : h = handle
  · subst same
    simp only [Os.opened, Function.update_self, Option.some.injEq] at entry
    subst entry
    exact ⟨nonnull, id, by simp [Os.opened]⟩
  · simp only [Os.opened, Function.update_of_ne same] at entry
    obtain ⟨positive, known, created⟩ := ledger.tables h thread entry
    exact ⟨positive, known, opened_created os handle id thread _ created⟩

theorem opened_backed (handle : HANDLE) (id : ThreadId) (closed : os.table handle = none) (o : ObjId)
    (backed : Backed os (own o)) : Backed (os.opened handle id) (own o) := by
  have different := ledger_apart ledger handle closed o backed.1
  obtain ⟨positive, identified, thread, entry, created⟩ := backed
  refine ⟨positive, identified, thread, ?_, opened_created os handle id thread _ created⟩
  simpa only [Os.opened, Function.update_of_ne different] using entry

theorem update_unique (o : ObjId) (self : Thread)
    (apart : ∀ other, other ≠ o → (own other).handle ≠ 0 → (own other).handle ≠ self.handle)
    (first second : ObjId)
    (same : (Function.update own o self first).handle = (Function.update own o self second).handle)
    (positive : (Function.update own o self first).handle ≠ 0) : first = second := by
  by_cases left : first = o <;> by_cases right : second = o
  · exact left.trans right.symm
  · rw [left, Function.update_self, Function.update_of_ne right] at same
    rw [left, Function.update_self, same] at positive
    exact absurd same.symm (apart second right positive)
  · rw [right, Function.update_self, Function.update_of_ne left] at same
    rw [Function.update_of_ne left] at positive
    exact absurd same (apart first left positive)
  · rw [Function.update_of_ne left, Function.update_of_ne right] at same
    rw [Function.update_of_ne left] at positive
    exact ledger.unique first second same positive

theorem ledger_opened (o : ObjId) (handle : HANDLE) (id : ThreadId) (vacant : own o = Thread.none)
    (nonnull : handle ≠ 0) (nonzero : id ≠ 0) (closed : os.table handle = none) :
    Ledger backend (os.opened handle id) (Function.update own o ⟨handle, id⟩) := by
  refine ⟨opened_tables ledger handle id nonnull, ?_, ?_, ?_⟩
  · intro other
    by_cases same : other = o
    · subst same
      rw [Function.update_self]
      exact .inr ⟨nonnull, nonzero, os.created.length, by simp [Os.opened], by simp [Os.opened]⟩
    · rw [Function.update_of_ne same]
      exact (ledger.backed other).imp_right (opened_backed ledger handle id closed other)
  · exact update_unique ledger o ⟨handle, id⟩ fun other _ positive => ledger_apart ledger handle closed other positive
  · intro tight h thread entry
    by_cases same : h = handle
    · exact ⟨o, by rw [Function.update_self, same]⟩
    · simp only [Os.opened, Function.update_of_ne same] at entry
      obtain ⟨other, holds⟩ := ledger.held tight h thread entry
      refine ⟨other, ?_⟩
      rw [Function.update_of_ne ?_, holds]
      intro same
      subst same
      rw [vacant] at holds
      exact (ledger.tables h thread entry).1 holds.symm

theorem ledger_closed (o : ObjId) (nonnull : (own o).handle ≠ 0) :
    Ledger backend (os.closed (own o).handle) (Function.update own o Thread.none) := by
  refine ⟨?_, ?_, ?_, ?_⟩
  · intro h thread entry
    by_cases same : h = (own o).handle
    · simp [Os.closed, same] at entry
    · exact ledger.tables h thread (by simpa only [Os.closed, Function.update_of_ne same] using entry)
  · intro other
    by_cases same : other = o
    · exact .inl (by rw [same, Function.update_self])
    · rw [Function.update_of_ne same]
      refine (ledger.backed other).imp_right fun backed => ?_
      have different : (own other).handle ≠ (own o).handle := fun equal => same (ledger.unique other o equal backed.1)
      simpa only [Backed, Os.closed, Function.update_of_ne different] using backed
  · exact update_unique ledger o Thread.none fun _ _ positive => positive
  · intro tight h thread entry
    by_cases same : h = (own o).handle
    · simp [Os.closed, same] at entry
    · obtain ⟨other, holds⟩ := ledger.held tight h thread
        (by simpa only [Os.closed, Function.update_of_ne same] using entry)
      refine ⟨other, ?_⟩
      rw [Function.update_of_ne ?_, holds]
      intro same
      subst same
      exact same holds.symm

theorem ledger_forgotten (leaky : backend = .mac) (o : ObjId) : Ledger backend os (Function.update own o Thread.none) := by
  refine ⟨ledger.tables, ?_, ?_, fun tight => by simp [leaky] at tight⟩
  · intro other
    by_cases same : other = o
    · exact .inl (by rw [same, Function.update_self])
    · rw [Function.update_of_ne same]
      exact ledger.backed other
  · exact update_unique ledger o Thread.none fun _ _ positive => positive

theorem ledger_exchanged (o other : ObjId) :
    Ledger backend os (Function.update (Function.update own o (own other)) other (own o)) := by
  have swapped : Function.update (Function.update own o (own other)) other (own o) = own ∘ Equiv.swap o other := by
    funext x
    by_cases right : x = other
    · simp [right]
    · by_cases left : x = o
      · simp [left, Function.update_of_ne (left ▸ right)]
      · simp [Function.update_of_ne right, Function.update_of_ne left, Equiv.swap_apply_of_ne_of_ne left right]
  rw [swapped]
  refine ⟨ledger.tables, fun x => ledger.backed _, ?_, ?_⟩
  · intro first second same positive
    exact (Equiv.swap o other).injective (ledger.unique _ _ same positive)
  · intro tight h thread entry
    obtain ⟨holder, holds⟩ := ledger.held tight h thread entry
    exact ⟨Equiv.swap o other holder, by simpa using holds⟩

theorem ledger_performed (o : ObjId) (next : Os) (owns : Thread) (effect : Effect os (own o) next owns) :
    Ledger backend next (Function.update own o owns) := by
  generalize same : own o = self at effect
  cases effect with
  | kept _ _ created table status => exact ledger_same (ledger_unchanged ledger o _ same) _ created table
  | opened handle id nonnull nonzero closed => exact ledger_opened ledger o handle id same nonnull nonzero closed
  | closed _ nonnull =>
      rw [← same]
      exact ledger_closed ledger o (by rw [same]; exact nonnull)

end Moves

end Rcp.Threads
