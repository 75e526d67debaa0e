import RcpLib.Win.Sync

set_option autoImplicit false

namespace Rcp.Win

open Semantics Rcp.Threads

variable {Party Obj V E α : Type}

theorem section_scope_run (classOf : Obj → SyncClass) (obj : Obj) (guards : classOf obj = .criticalSection)
    (body : SyncM Obj V E α) : (SyncLock.scope classOf obj body).run =
      .call (.enterCriticalSection obj) fun _ => body.run >>= fun result =>
        .call (.leaveCriticalSection obj) fun _ => .ret result := by
  simp only [SyncLock.scope, SyncLock.construct, SyncLock.destroy, guards, SyncClass.lock, SyncClass.unlock,
    CriticalSection.lock, CriticalSection.unlock]
  simp [ExceptT.run_bind]

theorem event_construct_run (classOf : Obj → SyncClass) (obj : Obj) (initiallyOwn manualReset : Bool)
    (waits : classOf obj = .event initiallyOwn manualReset) : (SyncLock.construct classOf obj : SyncM Obj V E Unit).run =
      .call (.waitForSingleObject obj infinite) fun ret =>
        if ret = waitObject0 ∨ ret = waitAbandoned then .ret (.ok ())
        else .ret (.error (.runtimeError "Unable to lock sync object.")) := by
  simp only [SyncLock.construct, SyncClass.lock, waits, SyncObject.lock, bind_assoc, ExceptT.run_bind,
    ExceptT.run_lift, bind_map_left, perform_bind, Program.call.injEq, heq_eq_eq, true_and]
  funext ret
  by_cases passed : ret = waitObject0 ∨ ret = waitAbandoned
  · simp [passed]
  · simp [passed]

theorem event_scope_run (classOf : Obj → SyncClass) (obj : Obj) (initiallyOwn manualReset : Bool)
    (waits : classOf obj = .event initiallyOwn manualReset) (body : SyncM Obj V E α) :
    (SyncLock.scope classOf obj body).run = .call (.waitForSingleObject obj infinite) fun ret =>
      if ret = waitObject0 ∨ ret = waitAbandoned then body.run
      else .ret (.error (.runtimeError "Unable to lock sync object.")) := by
  rw [SyncLock.scope, ExceptT.run_bind, event_construct_run classOf obj initiallyOwn manualReset waits, call_bind]
  refine congrArg (Program.call (SyncOp.waitForSingleObject obj infinite)) (funext fun ret => ?_)
  by_cases passed : ret = waitObject0 ∨ ret = waitAbandoned
  · simpa [passed, SyncLock.destroy, waits, SyncClass.unlock, Event.unlock] using bind_ret body.run
  · simp [passed]

-- A protocol whose ghost state is after a scope, and after any other call, what it was
-- before.
structure Restores {Ghost : Type} (classOf : Obj → SyncClass) (sets : Obj → Prop)
    (protocol : Protocol (SyncOp Obj V) SyncReply Ghost) (keeps : Ghost → Prop) : Prop where
  enters : ∀ ghost obj, keeps ghost → classOf obj = .criticalSection → protocol.permits ghost (.enterCriticalSection obj)
  inside : ∀ ghost obj, keeps ghost → keeps (protocol.advance ghost (.enterCriticalSection obj) ())
  leaves : ∀ ghost obj, protocol.permits (protocol.advance ghost (.enterCriticalSection obj) ()) (.leaveCriticalSection obj)
  restored : ∀ ghost obj,
    protocol.advance (protocol.advance ghost (.enterCriticalSection obj) ()) (.leaveCriticalSection obj) () = ghost
  sets : ∀ ghost obj, keeps ghost → sets obj → protocol.permits ghost (.setEvent obj) ∧
    ∀ reply, protocol.advance ghost (.setEvent obj) reply = ghost
  others : ∀ ghost op, (∀ obj, op ≠ .enterCriticalSection obj) → (∀ obj, op ≠ .leaveCriticalSection obj) →
    (∀ obj, op ≠ .setEvent obj) → protocol.permits ghost op ∧ ∀ reply, protocol.advance ghost op reply = ghost

theorem client_follows {Ghost : Type} (classOf : Obj → SyncClass) (sets : Obj → Prop)
    (protocol : Protocol (SyncOp Obj V) SyncReply Ghost) (keeps : Ghost → Prop)
    (restores : Restores classOf sets protocol keeps) (code : SyncM Obj V E α) (client : Client classOf sets code)
    (final : Except (Thrown E) α → Ghost → Prop) (ghost : Ghost) (now : keeps ghost) (done : ∀ result, final result ghost) :
    code.run.Follows protocol final ghost := by
  have returns : ∀ {β : Type} (final : Except (Thrown E) β → Ghost → Prop) (result : Except (Thrown E) β) (ghost later : Ghost),
      (∀ result, final result ghost) → later = ghost → final result later := by
    intro β final result ghost later done same
    rw [same]
    exact done result
  induction client generalizing ghost with
  | pure value => exact done _
  | throw thrown => exact done _
  | bind body next _ _ first later =>
      rw [ExceptT.run_bind]
      apply follows_bind
      apply first _ ghost now
      intro result
      cases result with
      | ok value => exact later value final ghost now done
      | error thrown => exact done _
  | tryCatch body handle _ _ first later =>
      change (body.run >>= _).Follows protocol final ghost
      apply follows_bind
      apply first _ ghost now
      intro result
      cases result with
      | ok value => exact done _
      | error thrown => exact later thrown final ghost now done
  | scope obj body _ inner =>
      cases kind : classOf obj with
      | criticalSection =>
          rw [section_scope_run classOf obj kind body]
          refine ⟨restores.enters ghost obj now kind, fun _ => ?_⟩
          apply follows_bind
          apply inner _ _ (restores.inside ghost obj now)
          exact fun result => ⟨restores.leaves ghost obj,
            fun _ => returns final result ghost _ done (restores.restored ghost obj)⟩
      | event initiallyOwn manualReset =>
          rw [event_scope_run classOf obj initiallyOwn manualReset kind body]
          have wait := restores.others ghost (.waitForSingleObject obj infinite) (by simp) (by simp) (by simp)
          refine ⟨wait.1, fun ret => ?_⟩
          dsimp only
          rw [wait.2 ret]
          by_cases passed : ret = waitObject0 ∨ ret = waitAbandoned
          · rw [if_pos passed]
            exact inner final ghost now done
          · rw [if_neg passed]
            exact done _
  | set obj _ allowed =>
      have set := restores.sets ghost obj now allowed
      exact ⟨set.1, fun reply => returns final _ ghost _ done (set.2 reply)⟩
  | reset obj =>
      have reset := restores.others ghost (.resetEvent obj) (by simp) (by simp) (by simp)
      exact ⟨reset.1, fun reply => returns final _ ghost _ done (reset.2 reply)⟩
  | wait obj milliseconds =>
      have wait := restores.others ghost (.waitForSingleObject obj milliseconds) (by simp) (by simp) (by simp)
      exact ⟨wait.1, fun reply => returns final _ ghost _ done (wait.2 reply)⟩
  | load obj =>
      have load := restores.others ghost (.load obj) (by simp) (by simp) (by simp)
      exact ⟨load.1, fun reply => returns final _ ghost _ done (load.2 reply)⟩
  | store obj val =>
      have store := restores.others ghost (.store obj val) (by simp) (by simp) (by simp)
      exact ⟨store.1, fun reply => returns final _ ghost _ done (store.2 reply)⟩

variable [DecidableEq Obj]

-- The SyncLocks that a thread has on critical sections: it leaves only a section on
-- which it has one.
def discipline (classOf : Obj → SyncClass) : Protocol (SyncOp Obj V) SyncReply (List Obj) where
  permits live
    | .enterCriticalSection obj => classOf obj = .criticalSection
    | .leaveCriticalSection obj => obj ∈ live
    | _ => True
  advance live
    | .enterCriticalSection obj, _ => obj :: live
    | .leaveCriticalSection obj, _ => live.erase obj
    | _, _ => live

theorem discipline_restores (classOf : Obj → SyncClass) (sets : Obj → Prop) :
    Restores classOf sets (discipline classOf : Protocol (SyncOp Obj V) SyncReply (List Obj)) fun _ => True where
  enters _ _ _ kind := kind
  inside _ _ _ := trivial
  leaves _ _ := List.mem_cons_self
  restored live obj := List.erase_cons_head obj live
  sets _ _ _ _ := ⟨trivial, fun _ => rfl⟩
  others live op enter leave _ := by
    cases op with
    | enterCriticalSection obj => exact absurd rfl (enter obj)
    | leaveCriticalSection obj => exact absurd rfl (leave obj)
    | _ => exact ⟨trivial, fun _ => rfl⟩

def allReleased (_ : Party) (_ : Except (Thrown E) Unit) (live : List Obj) : Prop := live = []

theorem clients_disciplined (classOf : Obj → SyncClass) (threads : Party → SyncM Obj V E Unit) (sets : Party → Obj → Prop)
    (clients : ∀ party, Client classOf (sets party) (threads party)) :
    Disciplined (discipline classOf) allReleased (fun _ => []) fun party => (threads party).run :=
  fun party => client_follows classOf (sets party) (discipline classOf) _ (discipline_restores classOf (sets party))
    (threads party) (clients party) _ [] trivial fun _ => rfl

variable [DecidableEq Party]

structure Exclusion (world : Sync Party Obj V) (live : Party → List Obj) : Prop where
  intact : ∀ obj, world.m_sect obj ≠ .broken
  counted : ∀ party obj, (world.m_sect obj).depth party = (live party).count obj
  stopped : ∀ party, world.stopped party = true → live party = []

theorem exclusion_alone (world : Sync Party Obj V) (live : Party → List Obj) (exclusion : Exclusion world live)
    (first second : Party) (obj : Obj) (one : obj ∈ live first) (two : obj ∈ live second) : first = second := by
  apply RecursiveLock.owner_unique first second (world.m_sect obj)
  · rw [exclusion.counted]
    exact List.count_pos_iff.mpr one
  · rw [exclusion.counted]
    exact List.count_pos_iff.mpr two

theorem stopped_elsewhere (world : Sync Party Obj V) (live : Party → List Obj) (exclusion : Exclusion world live)
    (party : Party) (running : world.stopped party = false) (later : List Obj) (other : Party)
    (stopped : world.stopped other = true) : Function.update live party later other = [] := by
  have different : other ≠ party := by
    intro same
    subst same
    simp [running] at stopped
  rw [Function.update_of_ne different]
  exact exclusion.stopped other stopped

theorem exclusion_entered (world : Sync Party Obj V) (live : Party → List Obj) (exclusion : Exclusion world live)
    (party : Party) (obj : Obj) (running : world.stopped party = false)
    (available : (world.m_sect obj).available party = true) :
    Exclusion { world with m_sect := Function.update world.m_sect obj ((world.m_sect obj).acquire party) }
      (Function.update live party (obj :: live party)) := by
  refine ⟨fun x => ?_, fun other x => ?_, stopped_elsewhere world live exclusion party running _⟩
  · by_cases same : x = obj
    · subst same
      simpa using RecursiveLock.acquire_intact party _ available
    · simpa [Function.update_of_ne same] using exclusion.intact x
  · have counted := exclusion.counted other x
    dsimp only
    by_cases same : x = obj
    · subst same
      rw [Function.update_self, RecursiveLock.depth_acquire party other _ available, counted]
      by_cases mine : other = party
      · subst mine
        simp
      · simp [mine]
    · rw [Function.update_of_ne same, counted]
      by_cases mine : other = party
      · subst mine
        simp [Ne.symm same]
      · simp [mine]

theorem exclusion_left (world : Sync Party Obj V) (live : Party → List Obj) (exclusion : Exclusion world live)
    (party : Party) (obj : Obj) (running : world.stopped party = false) (held : obj ∈ live party) :
    Exclusion { world with m_sect := Function.update world.m_sect obj ((world.m_sect obj).release party) }
      (Function.update live party ((live party).erase obj)) := by
  have owned : 0 < (world.m_sect obj).depth party := by
    rw [exclusion.counted]
    exact List.count_pos_iff.mpr held
  refine ⟨fun x => ?_, fun other x => ?_, stopped_elsewhere world live exclusion party running _⟩
  · by_cases same : x = obj
    · subst same
      simpa using RecursiveLock.release_intact party _ owned
    · simpa [Function.update_of_ne same] using exclusion.intact x
  · have counted := exclusion.counted other x
    dsimp only
    by_cases same : x = obj
    · subst same
      rw [Function.update_self, RecursiveLock.depth_release party other _ owned, counted]
      by_cases mine : other = party
      · subst mine
        simp
      · simp [mine]
    · rw [Function.update_of_ne same, counted]
      by_cases mine : other = party
      · subst mine
        simp [List.count_erase_of_ne same]
      · simp [mine]

theorem exclusion_same (world later : Sync Party Obj V) (live : Party → List Obj) (exclusion : Exclusion world live)
    (sections : later.m_sect = world.m_sect) (stopped : later.stopped = world.stopped) : Exclusion later live := by
  refine ⟨?_, ?_, ?_⟩
  · simpa [sections] using exclusion.intact
  · simpa [sections] using exclusion.counted
  · simpa [stopped] using exclusion.stopped

theorem exclusion_stopped (world : Sync Party Obj V) (live : Party → List Obj) (exclusion : Exclusion world live)
    (party : Party) (outside : ∀ obj, (world.m_sect obj).depth party = 0) :
    Exclusion { world with stopped := Function.update world.stopped party true } live := by
  refine ⟨exclusion.intact, exclusion.counted, fun other stopped => ?_⟩
  by_cases same : other = party
  · subst same
    apply List.eq_nil_iff_forall_not_mem.mpr
    intro obj member
    have none := outside obj
    rw [exclusion.counted] at none
    exact absurd member (List.count_eq_zero.mp none)
  · dsimp only at stopped
    rw [Function.update_of_ne same] at stopped
    exact exclusion.stopped other stopped

theorem exclusion_called (classOf : Obj → SyncClass) (world : Sync Party Obj V) (live : Party → List Obj) (party : Party)
    (op : SyncOp Obj V) (reply : SyncReply op) (exclusion : Exclusion world live)
    (permitted : (discipline classOf).permits (live party) op) (answered : world.answers party op reply) :
    Exclusion (world.after classOf party op reply)
      (Function.update live party ((discipline classOf).advance (live party) op reply)) := by
  have running := running_of_answers world party op reply answered
  cases op with
  | enterCriticalSection obj => exact exclusion_entered world live exclusion party obj running answered.2
  | leaveCriticalSection obj => exact exclusion_left world live exclusion party obj running permitted
  | waitForSingleObject obj milliseconds =>
      obtain ⟨signalled, same, _⟩ := wait_signals classOf world party obj milliseconds reply
      simp only [discipline, Function.update_eq_self, same]
      exact exclusion_same world _ live exclusion rfl rfl
  | setEvent obj =>
      simp only [discipline, Function.update_eq_self]
      cases reply <;> exact exclusion_same world _ live exclusion rfl rfl
  | resetEvent obj =>
      simp only [discipline, Function.update_eq_self]
      cases reply <;> exact exclusion_same world _ live exclusion rfl rfl
  | load obj =>
      simp only [discipline, Function.update_eq_self]
      exact exclusion_same world _ live exclusion rfl rfl
  | store obj val =>
      simp only [discipline, Function.update_eq_self]
      exact exclusion_same world _ live exclusion rfl rfl

abbrev SyncConfig (Party Obj V E : Type) :=
  Config Party (SyncOp Obj V) SyncReply (Sync Party Obj V) fun _ => Except (Thrown E) Unit

abbrev SyncLabel (Party Obj V : Type) := PoolLabel Party (SyncOp Obj V) SyncReply Party

abbrev SyncTrail (Party Obj V E : Type) := List (SyncConfig Party Obj V E × SyncLabel Party Obj V)

section Runs

variable (classOf : Obj → SyncClass) (data : Obj → V) (threads : Party → SyncM Obj V E Unit)

def syncRuns : Lts (SyncConfig Party Obj V E) (SyncLabel Party Obj V) :=
  pool (syncMachine classOf) (· = ⟨constructed classOf data, fun party => (threads party).run⟩)

def liveLocks (trail : SyncTrail Party Obj V E) : Party → List Obj := ghosts (discipline classOf) (fun _ => []) trail

theorem exclusion_run (sets : Party → Obj → Prop) (clients : ∀ party, Client classOf (sets party) (threads party))
    (trail : SyncTrail Party Obj V E) (config : SyncConfig Party Obj V E)
    (run : Run (syncRuns classOf data threads) trail config) : Exclusion config.world (liveLocks classOf trail) := by
  refine ghost_invariant (syncMachine classOf) (discipline classOf) allReleased (fun _ => [])
    ⟨constructed classOf data, fun party => (threads party).run⟩ (clients_disciplined classOf threads sets clients)
    Exclusion ?_ ?_ ?_ trail config run
  · exact ⟨by simp [constructed], by simp [constructed], fun _ _ => rfl⟩
  · intro world live party op reply exclusion permitted answered
    exact exclusion_called classOf world live party op reply exclusion permitted answered
  · intro world live party later exclusion moved
    obtain ⟨outside, rfl⟩ := moved
    exact exclusion_stopped world live exclusion party outside

end Runs

end Rcp.Win
