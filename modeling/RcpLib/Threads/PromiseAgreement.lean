import RcpLib.Threads.PromiseStd

set_option autoImplicit false

namespace Rcp.Threads

open Semantics PromiseStd

variable {E T : Type}

def outcomeOf {α : Type} (returned : α → Outcome E T) (method : PromiseWin.PromiseM E T α)
    (self : PromiseWin.PromiseExImpl E T) : Outcome E T × PromiseWin.PromiseExImpl E T :=
  match method.run.eval PromiseWin.PromiseExImpl.reply PromiseWin.PromiseExImpl.after self with
  | none => (.blocks, self)
  | some (.ok value, later) => (returned value, later)
  | some (.error (.rethrown p), later) => (.rethrown p, later)
  | some (.error (.runtimeError _), later) => (.error, later)
  | some (.error .undefined, later) => (.error, later)

def callWin (self : PromiseWin.PromiseExImpl E T) : Call E T → Outcome E T × PromiseWin.PromiseExImpl E T
  | .set val => outcomeOf (fun _ => .returned) (PromiseWin.set val) self
  | .setException p => outcomeOf (fun _ => .returned) (PromiseWin.setException (some p)) self
  | .get => outcomeOf .value PromiseWin.get self

-- The outcomes of a history of calls, up to the first one that blocks.
def outcomes {State : Type} (call : State → Call E T → Outcome E T × State) : State → List (Call E T) → List (Outcome E T)
  | _, [] => []
  | state, next :: rest =>
      match call state next with
      | (.blocks, _) => [.blocks]
      | (outcome, later) => outcome :: outcomes call later rest

-- The histories that use the promise once: satisfied by one call, and asked at
-- most once, by the last one; or asked before it is satisfied.
def OneShot : List (Call E T) → Prop
  | [] => True
  | .get :: _ => True
  | [_] => True
  | [_, .get] => True
  | _ => False

theorem one_shot_satisfied (first : Call E T) (rest : List (Call E T)) (satisfies : first ≠ .get) :
    OneShot (first :: rest) ↔ rest = [] ∨ rest = [.get] := by
  match first, rest with
  | .get, _ => exact absurd rfl satisfies
  | .set _, [] => simp [OneShot]
  | .set _, [.get] => simp [OneShot]
  | .set _, .get :: _ :: _ => simp [OneShot]
  | .set _, .set _ :: _ => simp [OneShot]
  | .set _, .setException _ :: _ => simp [OneShot]
  | .setException _, [] => simp [OneShot]
  | .setException _, [.get] => simp [OneShot]
  | .setException _, .get :: _ :: _ => simp [OneShot]
  | .setException _, .set _ :: _ => simp [OneShot]
  | .setException _, .setException _ :: _ => simp [OneShot]

theorem call_win_set (self : PromiseWin.PromiseExImpl E T) (val : T) :
    callWin self (.set val) = (.returned, { self with m_val := val, signalled := true }) := rfl

theorem call_win_set_exception (self : PromiseWin.PromiseExImpl E T) (p : E) :
    callWin self (.setException p) = (.returned, { self with m_exception := some p }) := rfl

theorem call_win_get_exception (self : PromiseWin.PromiseExImpl E T) (p : E) (stored : self.m_exception = some p) :
    callWin self .get = (.rethrown p, self) := by
  obtain ⟨_, val, signalled, ended, lastError, message⟩ := self
  cases stored
  rfl

theorem call_win_get_value (self : PromiseWin.PromiseExImpl E T) (empty : self.m_exception = none)
    (signalled : self.signalled = true) : callWin self .get = (.value self.m_val, { self with signalled := false }) := by
  obtain ⟨_, val, _, ended, lastError, message⟩ := self
  cases empty
  cases signalled
  rfl

theorem call_win_get_blocks (self : PromiseWin.PromiseExImpl E T) (empty : self.m_exception = none)
    (unsignalled : self.signalled = false) (running : self.ended = false) : callWin self .get = (.blocks, self) := by
  obtain ⟨_, val, _, _, lastError, message⟩ := self
  cases empty
  cases unsignalled
  cases running
  rfl

theorem call_win_no_error (self : PromiseWin.PromiseExImpl E T) (running : self.ended = false) (next : Call E T) :
    (callWin self next).1 ≠ .error := by
  cases next with
  | set val => simp [call_win_set]
  | setException p => simp [call_win_set_exception]
  | get =>
      cases stored : self.m_exception with
      | some p => simp [call_win_get_exception self p stored]
      | none =>
          cases signalled : self.signalled with
          | true => simp [call_win_get_value self stored signalled]
          | false => simp [call_win_get_blocks self stored signalled running]

theorem std_satisfied_error (self : Promise E T) (result : Except E T) (satisfied : self.result = some result)
    (next : Call E T) (repeated : next = .get → self.retrieved = true) : PromiseStd.call self next = (.error, self) := by
  cases next with
  | set val => simp [PromiseStd.call, Promise.setValue, Promise.satisfy, satisfied, changed]
  | setException p => simp [PromiseStd.call, Promise.setException, Promise.satisfy, satisfied, changed]
  | get => simp [PromiseStd.call, Promise.getFuture, repeated rfl]

theorem outcomes_head {State : Type} (call : State → Call E T → Outcome E T × State) (state : State) (next : Call E T)
    (rest : List (Call E T)) : (outcomes call state (next :: rest)).head? = some (call state next).1 := by
  rw [outcomes]
  split
  · rename_i same
    rw [same]
    rfl
  · rename_i same
    rw [same]
    rfl

theorem outcomes_cons {State : Type} (call : State → Call E T → Outcome E T × State) (state later : State)
    (next : Call E T) (rest : List (Call E T)) (outcome : Outcome E T) (result : call state next = (outcome, later))
    (goes : outcome ≠ .blocks) : outcomes call state (next :: rest) = outcome :: outcomes call later rest := by
  rw [outcomes, result]
  cases outcome with
  | blocks => exact absurd rfl goes
  | returned => rfl
  | value val => rfl
  | rethrown p => rfl
  | error => rfl

theorem outcomes_differ (self : PromiseWin.PromiseExImpl E T) (promise : Promise E T) (next : Call E T)
    (rest : List (Call E T)) (running : self.ended = false) (error : PromiseStd.call promise next = (.error, promise)) :
    outcomes callWin self (next :: rest) ≠ outcomes PromiseStd.call promise (next :: rest) := by
  intro same
  have heads := congrArg List.head? same
  rw [outcomes_head, outcomes_head, error] at heads
  exact call_win_no_error self running next (Option.some.inj heads)

structure Satisfied (impl : PromiseWin.PromiseExImpl E T) (promise : Promise E T) (result : Except E T) : Prop where
  running : impl.ended = false
  std : promise.result = some result ∧ promise.retrieved = false
  win : match result with
    | .ok val => impl.m_exception = none ∧ impl.signalled = true ∧ impl.m_val = val
    | .error p => impl.m_exception = some p

def delivery : Except E T → Outcome E T
  | .ok val => .value val
  | .error p => .rethrown p

theorem satisfied_get (self : PromiseWin.PromiseExImpl E T) (promise : Promise E T) (result : Except E T)
    (satisfied : Satisfied self promise result) :
    (∃ later, callWin self .get = (delivery result, later) ∧ later.ended = false) ∧
      PromiseStd.call promise .get = (delivery result, { promise with retrieved := true }) := by
  obtain ⟨running, ⟨stored, fresh⟩, win⟩ := satisfied
  cases result with
  | ok val =>
      obtain ⟨empty, signalled, rfl⟩ := win
      refine ⟨⟨_, call_win_get_value self empty signalled, running⟩, ?_⟩
      simp [PromiseStd.call, Promise.getFuture, fresh, futureGet, stored, delivery]
  | error p =>
      refine ⟨⟨_, call_win_get_exception self p win, running⟩, ?_⟩
      simp [PromiseStd.call, Promise.getFuture, fresh, futureGet, stored, delivery]

theorem satisfied_agree (self : PromiseWin.PromiseExImpl E T) (promise : Promise E T) (result : Except E T)
    (satisfied : Satisfied self promise result) (rest : List (Call E T)) :
    outcomes callWin self rest = outcomes PromiseStd.call promise rest ↔ rest = [] ∨ rest = [.get] := by
  have once : ∀ next more, next ≠ .get →
      outcomes callWin self (next :: more) ≠ outcomes PromiseStd.call promise (next :: more) := fun next more other =>
    outcomes_differ self promise next more satisfied.running
      (std_satisfied_error promise result satisfied.std.1 next fun same => absurd same other)
  obtain ⟨⟨later, win, running⟩, std⟩ := satisfied_get self promise result satisfied
  have goes : delivery result ≠ .blocks := by cases result <;> simp [delivery]
  match rest with
  | [] => simp [outcomes]
  | .set val :: more => simpa using once (.set val) more (by simp)
  | .setException p :: more => simpa using once (.setException p) more (by simp)
  | .get :: more =>
      rw [outcomes_cons callWin self later .get more _ win goes, outcomes_cons PromiseStd.call promise _ .get more _ std goes]
      cases more with
      | nil => simp [outcomes]
      | cons next more =>
          have differ := outcomes_differ later _ next more running
            (std_satisfied_error { promise with retrieved := true } result satisfied.std.1 next fun _ => rfl)
          simpa using differ

variable [OfNat T 0]

def winOutcomes (message : DWORD → String) (calls : List (Call E T)) : List (Outcome E T) :=
  outcomes callWin (PromiseWin.fresh message) calls

def stdOutcomes (calls : List (Call E T)) : List (Outcome E T) := outcomes PromiseStd.call Promise.fresh calls

theorem agree_satisfied (message : DWORD → String) (first : Call E T) (rest : List (Call E T))
    (impl : PromiseWin.PromiseExImpl E T) (promise : Promise E T) (result : Except E T)
    (win : callWin (PromiseWin.fresh message) first = (.returned, impl))
    (std : PromiseStd.call Promise.fresh first = (.returned, promise)) (satisfied : Satisfied impl promise result) :
    winOutcomes message (first :: rest) = stdOutcomes (first :: rest) ↔ rest = [] ∨ rest = [.get] := by
  rw [winOutcomes, outcomes_cons callWin _ _ first rest _ win (by simp), stdOutcomes,
    outcomes_cons PromiseStd.call _ _ first rest _ std (by simp), List.cons.injEq]
  simpa using satisfied_agree impl promise result satisfied rest

theorem implementations_agree (message : DWORD → String) (calls : List (Call E T)) :
    winOutcomes message calls = stdOutcomes calls ↔ OneShot calls := by
  match calls with
  | [] => exact ⟨fun _ => trivial, fun _ => rfl⟩
  | .get :: rest => exact ⟨fun _ => trivial, fun _ => rfl⟩
  | .set val :: rest =>
      rw [one_shot_satisfied _ rest (by simp)]
      exact agree_satisfied message (.set val) rest _ ⟨some (.ok val), false⟩ (.ok val) (call_win_set _ val) rfl
        ⟨rfl, ⟨rfl, rfl⟩, rfl, rfl, rfl⟩
  | .setException p :: rest =>
      rw [one_shot_satisfied _ rest (by simp)]
      exact agree_satisfied message (.setException p) rest _ ⟨some (.error p), false⟩ (.error p)
        (call_win_set_exception _ p) rfl ⟨rfl, ⟨rfl, rfl⟩, rfl⟩

theorem implementations_disagree :
    (winOutcomes (fun _ => "") [.set 1, .set 2, .get] : List (Outcome Nat Nat)) ≠ stdOutcomes [.set 1, .set 2, .get] := by
  change [Outcome.returned, .returned, .value 2] ≠ [.returned, .error, .value 1]
  simp

end Rcp.Threads
