import RcpLib.Win.SyncRuns

set_option autoImplicit false

namespace Rcp.Win

open Semantics Rcp.Threads

variable {Party Obj V E : Type}

abbrev Update (V : Type) := V → V

-- A thread's live SyncLocks, each datum as it has read or written it since it entered
-- the section, the updates that it is to make, and how many of them it has made.
structure Updating (Obj V : Type) where
  live : List Obj
  known : Obj → Option V
  updates : Obj → List (Update V)
  made : Obj → Nat

def updateAll (classOf : Obj → SyncClass) (obj : Obj) : List (Update V) → SyncM Obj V E Unit
  | [] => pure ()
  | update :: later => do
      SyncLock.scope classOf obj (do
        let val ← callSync (.load obj)
        callSync (.store obj (update val)))
      updateAll classOf obj later

theorem update_all_client (classOf : Obj → SyncClass) (sets : Obj → Prop) (obj : Obj) (updates : List (Update V)) :
    Client classOf sets (updateAll classOf obj updates : SyncM Obj V E Unit) := by
  induction updates with
  | nil => exact .pure ()
  | cons update later ih => exact .bind _ _ (.scope obj _ (.bind _ _ (.load obj) fun _ => .store obj _)) fun _ => ih

variable [DecidableEq Obj]

def Updating.left (self : Updating Obj V) (obj : Obj) : Updating Obj V where
  live := self.live.erase obj
  known := if obj ∈ self.live.erase obj then self.known else Function.update self.known obj none
  updates := self.updates
  made := self.made

def Updating.learned (self : Updating Obj V) (obj : Obj) (val : V) : Updating Obj V :=
  { self with known := Function.update self.known obj (some val) }

-- A datum is touched only under a SyncLock on its section, and a store is the next
-- update, applied to what the thread has seen.
def updating : Protocol (SyncOp Obj V) SyncReply (Updating Obj V) where
  permits self
    | .load obj => obj ∈ self.live
    | .store obj val => obj ∈ self.live ∧
        ∃ seen update, self.known obj = some seen ∧ (self.updates obj)[self.made obj]? = some update ∧ val = update seen
    | _ => True
  advance self
    | .enterCriticalSection obj, _ => { self with live := obj :: self.live }
    | .leaveCriticalSection obj, _ => self.left obj
    | .load obj, val => self.learned obj val
    | .store obj val, _ => { self.learned obj val with made := Function.update self.made obj (self.made obj + 1) }
    | _, _ => self

def allUpdated (_ : Party) (outcome : Except (Thrown E) Unit) (self : Updating Obj V) : Prop :=
  outcome = .ok () → ∀ obj, self.made obj = (self.updates obj).length

theorem update_all_follows (classOf : Obj → SyncClass) (obj : Obj) (guards : classOf obj = .criticalSection)
    (party : Party) (self : Updating Obj V) (within : self.made obj ≤ (self.updates obj).length)
    (apart : ∀ x, x ≠ obj → self.made x = (self.updates x).length) :
    (updateAll classOf obj ((self.updates obj).drop (self.made obj)) : SyncM Obj V E Unit).run.Follows updating
      (allUpdated party) self := by
  generalize listed : (self.updates obj).drop (self.made obj) = updates
  induction updates generalizing self with
  | nil =>
      intro _ x
      by_cases same : x = obj
      · rw [same]
        exact Nat.le_antisymm within (List.drop_eq_nil_iff.mp listed)
      · exact apart x same
  | cons update later ih =>
      have next : (self.updates obj)[self.made obj]? = some update := by
        rw [← List.head?_drop, listed, List.head?_cons]
      have more : (self.updates obj).drop (self.made obj + 1) = later := by
        rw [← List.tail_drop, listed, List.tail_cons]
      obtain ⟨short, _⟩ := List.getElem?_eq_some_iff.mp next
      rw [updateAll, ExceptT.run_bind, section_scope_run classOf obj guards]
      refine ⟨trivial, fun _ => ⟨List.mem_cons_self, fun val => ⟨⟨List.mem_cons_self, val, update, ?_, next, rfl⟩,
        fun _ => ⟨trivial, fun _ => ?_⟩⟩⟩⟩
      · simp [updating, Updating.learned]
      · apply ih
        · simp only [updating, Updating.left, Updating.learned, Function.update_self]
          exact short
        · intro x different
          simpa [updating, Updating.left, Updating.learned, Function.update_of_ne different] using apart x different
        · simpa [updating, Updating.left, Updating.learned] using more

variable [DecidableEq Party]

-- A datum is what the updates made so far give, one after the other, and those of one
-- thread come in its own order.
structure Serial (data : V) (updates : Party → List (Update V)) (current : V) (made : Party → Nat)
    (order : List (Party × Update V)) : Prop where
  folds : current = order.foldl (fun val entry => entry.2 val) data
  shares : ∀ party, (order.filter fun entry => entry.1 = party).map Prod.snd = (updates party).take (made party)
  within : ∀ party, made party ≤ (updates party).length

theorem serial_made (data : V) (updates : Party → List (Update V)) (current : V) (made : Party → Nat)
    (order : List (Party × Update V)) (serial : Serial data updates current made order) (party : Party)
    (update : Update V) (next : (updates party)[made party]? = some update) :
    Serial data updates (update current) (Function.update made party (made party + 1)) (order ++ [(party, update)]) := by
  obtain ⟨short, _⟩ := List.getElem?_eq_some_iff.mp next
  refine ⟨?_, fun other => ?_, fun other => ?_⟩
  · rw [serial.folds, List.foldl_append]
    rfl
  · have shares := serial.shares other
    by_cases same : other = party
    · subst same
      rw [Function.update_self, List.take_add_one, next, ← shares]
      simp
    · rw [Function.update_of_ne same]
      simpa [Ne.symm same] using shares
  · by_cases same : other = party
    · subst same
      rw [Function.update_self]
      exact short
    · rw [Function.update_of_ne same]
      exact serial.within other

structure Serialised (data : Obj → V) (updates : Party → Obj → List (Update V)) (world : Sync Party Obj V)
    (own : Party → Updating Obj V) : Prop where
  exclusion : Exclusion world fun party => (own party).live
  guarded : ∀ party obj val, (own party).known obj = some val → obj ∈ (own party).live ∧ world.data obj = val
  planned : ∀ party, (own party).updates = updates party
  serial : ∀ obj, ∃ order, Serial (data obj) (fun party => updates party obj) (world.data obj)
    (fun party => (own party).made obj) order

theorem data_same (classOf : Obj → SyncClass) (world : Sync Party Obj V) (party : Party) (op : SyncOp Obj V)
    (reply : SyncReply op) (reads : ∀ obj val, op ≠ .store obj val) :
    (world.after classOf party op reply).data = world.data := by
  cases op with
  | enterCriticalSection obj => rfl
  | leaveCriticalSection obj => rfl
  | waitForSingleObject obj milliseconds =>
      obtain ⟨_, same, _⟩ := wait_signals classOf world party obj milliseconds reply
      rw [same]
  | setEvent obj => cases reply <;> rfl
  | resetEvent obj => cases reply <;> rfl
  | load obj => rfl
  | store obj val => exact absurd rfl (reads obj val)

theorem made_same (self : Updating Obj V) (op : SyncOp Obj V) (reply : SyncReply op)
    (reads : ∀ obj val, op ≠ .store obj val) : (updating.advance self op reply).made = self.made := by
  cases op with
  | store obj val => exact absurd rfl (reads obj val)
  | _ => rfl

theorem updates_same (self : Updating Obj V) (op : SyncOp Obj V) (reply : SyncReply op) :
    (updating.advance self op reply).updates = self.updates := by
  cases op <;> rfl

theorem live_same (classOf : Obj → SyncClass) (self : Updating Obj V) (op : SyncOp Obj V) (reply : SyncReply op) :
    (updating.advance self op reply).live = (discipline classOf).advance self.live op reply := by
  cases op <;> rfl

-- What a thread has seen under a SyncLock is still there: any other thread that stores
-- would have a SyncLock on the same section.
theorem guarded_called (classOf : Obj → SyncClass) (world : Sync Party Obj V) (own : Party → Updating Obj V)
    (party : Party) (op : SyncOp Obj V) (reply : SyncReply op)
    (exclusion : Exclusion world fun other => (own other).live)
    (guarded : ∀ other obj val, (own other).known obj = some val → obj ∈ (own other).live ∧ world.data obj = val)
    (permitted : updating.permits (own party) op) (answered : world.answers party op reply) (other : Party) (obj : Obj)
    (val : V) (known : (Function.update own party (updating.advance (own party) op reply) other).known obj = some val) :
    obj ∈ (Function.update own party (updating.advance (own party) op reply) other).live ∧
      (world.after classOf party op reply).data obj = val := by
  by_cases mine : other = party
  · subst mine
    rw [Function.update_self] at known ⊢
    cases op with
    | enterCriticalSection target =>
        obtain ⟨held, current⟩ := guarded other obj val known
        exact ⟨List.mem_cons_of_mem target held, current⟩
    | leaveCriticalSection target =>
        dsimp only [updating, Updating.left] at known ⊢
        by_cases still : target ∈ (own other).live.erase target
        · rw [if_pos still] at known
          obtain ⟨held, current⟩ := guarded other obj val known
          by_cases same : obj = target
          · exact ⟨same ▸ still, current⟩
          · exact ⟨(List.mem_erase_of_ne same).mpr held, current⟩
        · rw [if_neg still] at known
          have different : obj ≠ target := by
            intro same
            subst same
            simp at known
          rw [Function.update_of_ne different] at known
          obtain ⟨held, current⟩ := guarded other obj val known
          exact ⟨(List.mem_erase_of_ne different).mpr held, current⟩
    | load target =>
        dsimp only [updating, Updating.learned] at known
        by_cases same : obj = target
        · subst same
          rw [Function.update_self] at known
          exact ⟨permitted, answered.2.symm.trans (Option.some.inj known)⟩
        · rw [Function.update_of_ne same] at known
          exact guarded other obj val known
    | store target stored =>
        dsimp only [updating, Updating.learned, Sync.after] at known ⊢
        by_cases same : obj = target
        · subst same
          rw [Function.update_self] at known ⊢
          exact ⟨permitted.1, Option.some.inj known⟩
        · rw [Function.update_of_ne same] at known ⊢
          exact guarded other obj val known
    | waitForSingleObject | setEvent | resetEvent =>
        rw [data_same classOf world other _ reply (by simp)]
        exact guarded other obj val known
  · rw [Function.update_of_ne mine] at known ⊢
    obtain ⟨held, current⟩ := guarded other obj val known
    refine ⟨held, ?_⟩
    by_cases reads : ∀ target stored, op ≠ .store target stored
    · rw [data_same classOf world party op reply reads]
      exact current
    · obtain ⟨target, stored, rfl⟩ : ∃ target stored, op = .store target stored := by
        simpa only [not_forall, not_not] using reads
      have different : obj ≠ target := by
        intro same
        subst same
        exact mine (exclusion_alone world _ exclusion other party obj held permitted.1)
      dsimp only [Sync.after]
      rw [Function.update_of_ne different]
      exact current

theorem serialised_called (classOf : Obj → SyncClass) (data : Obj → V) (updates : Party → Obj → List (Update V))
    (world : Sync Party Obj V) (own : Party → Updating Obj V) (party : Party) (op : SyncOp Obj V) (reply : SyncReply op)
    (serialised : Serialised data updates world own)
    (permitted : ((discipline classOf).both updating Updating.live).permits (own party) op)
    (answered : world.answers party op reply) :
    Serialised data updates (world.after classOf party op reply)
      (Function.update own party (updating.advance (own party) op reply)) := by
  refine ⟨?_, ?_, fun other => ?_, fun x => ?_⟩
  · have live := Function.comp_update Updating.live own party (updating.advance (own party) op reply)
    dsimp only [Function.comp_def] at live
    rw [live, live_same classOf]
    exact exclusion_called classOf world _ party op reply serialised.exclusion permitted.1 answered
  · exact guarded_called classOf world own party op reply serialised.exclusion serialised.guarded permitted.2 answered
  · by_cases same : other = party
    · subst same
      rw [Function.update_self, updates_same]
      exact serialised.planned other
    · rw [Function.update_of_ne same]
      exact serialised.planned other
  · obtain ⟨order, serial⟩ := serialised.serial x
    have counts := Function.comp_update (fun self : Updating Obj V => self.made x) own party
      (updating.advance (own party) op reply)
    dsimp only [Function.comp_def] at counts
    rw [counts]
    by_cases reads : ∀ obj val, op ≠ .store obj val
    · rw [data_same classOf world party op reply reads, made_same (own party) op reply reads, Function.update_eq_self]
      exact ⟨order, serial⟩
    · obtain ⟨obj, val, rfl⟩ : ∃ obj val, op = .store obj val := by
        simpa only [not_forall, not_not] using reads
      obtain ⟨_, _, seen, update, known, next, rfl⟩ := permitted
      by_cases same : x = obj
      · subst same
        have current : world.data x = seen := (serialised.guarded party x seen known).2
        rw [serialised.planned] at next
        refine ⟨order ++ [(party, update)], ?_⟩
        have made := serial_made _ _ _ _ order serial party update next
        simpa [Sync.after, updating, current] using made
      · refine ⟨order, ?_⟩
        simpa [Sync.after, updating, Function.update_of_ne same] using serial

def ownUpdates (updates : Party → Obj → List (Update V)) (party : Party) : Updating Obj V :=
  ⟨[], fun _ => none, updates party, fun _ => 0⟩

def stores (party : Party) (obj : Obj) : SyncLabel Party Obj V → Bool
  | .call other (.store target _) _ => decide (other = party ∧ target = obj)
  | _ => false

theorem made_tally (updates : Party → Obj → List (Update V)) (trail : SyncTrail Party Obj V E) (party : Party) (obj : Obj) :
    (ghosts updating (ownUpdates updates) trail party).made obj = tally (stores party obj) trail := by
  induction trail with
  | nil => rfl
  | cons entry trail ih =>
      obtain ⟨config, label⟩ := entry
      rw [tally_cons, ← ih]
      cases label with
      | event _ => rfl
      | call other op reply =>
          by_cases mine : party = other
          · subst mine
            rw [ghosts_here]
            by_cases reads : ∀ target val, op ≠ .store target val
            · rw [made_same _ op reply reads]
              cases op with
              | store target val => exact absurd rfl (reads target val)
              | _ => rfl
            · obtain ⟨target, val, rfl⟩ : ∃ target val, op = .store target val := by
                simpa only [not_forall, not_not] using reads
              by_cases same : obj = target
              · subst same
                simp [updating, stores]
              · simp [updating, stores, Function.update_of_ne same, Ne.symm same]
          · rw [ghosts_elsewhere _ _ _ _ _ _ op reply mine]
            cases op <;> simp [stores, Ne.symm mine]

section Runs

variable (classOf : Obj → SyncClass) (data : Obj → V) (threads : Party → SyncM Obj V E Unit)
variable (updates : Party → Obj → List (Update V)) (sets : Party → Obj → Prop)

theorem serialised_run (clients : ∀ party, Client classOf (sets party) (threads party))
    (disciplined : Disciplined updating allUpdated (ownUpdates updates) fun party => (threads party).run)
    (trail : SyncTrail Party Obj V E) (config : SyncConfig Party Obj V E)
    (run : Run (syncRuns classOf data threads) trail config) :
    Serialised data updates config.world (ghosts updating (ownUpdates updates) trail) := by
  have both : Disciplined ((discipline classOf).both updating Updating.live)
      (fun party outcome self => allReleased party outcome self.live ∧ allUpdated party outcome self) (ownUpdates updates)
      fun party => (threads party).run :=
    fun party => follows_both _ _ _ (live_same classOf) _ _ _ _
      (clients_disciplined classOf threads sets clients party) (disciplined party)
  rw [← ghosts_both (discipline classOf) updating Updating.live]
  refine ghost_invariant (syncMachine classOf) ((discipline classOf).both updating Updating.live) _ (ownUpdates updates)
    ⟨constructed classOf data, fun party => (threads party).run⟩ both (Serialised data updates) ?_ ?_ ?_ trail config run
  · exact ⟨⟨by simp [constructed], by simp [constructed, ownUpdates], fun _ _ => rfl⟩, by simp [ownUpdates], fun _ => rfl,
      fun x => ⟨[], rfl, fun _ => rfl, fun _ => Nat.zero_le _⟩⟩
  · intro world own party op reply serialised permitted answered
    exact serialised_called classOf data updates world own party op reply serialised permitted answered
  · intro world own party later serialised moved
    obtain ⟨outside, rfl⟩ := moved
    exact ⟨exclusion_stopped world _ serialised.exclusion party outside, serialised.guarded, serialised.planned,
      serialised.serial⟩

theorem updates_serialise (clients : ∀ party, Client classOf (sets party) (threads party))
    (disciplined : Disciplined updating allUpdated (ownUpdates updates) fun party => (threads party).run)
    (trail : SyncTrail Party Obj V E) (config : SyncConfig Party Obj V E)
    (run : Run (syncRuns classOf data threads) trail config) (obj : Obj) :
    (∃ order, Serial (data obj) (fun party => updates party obj) (config.world.data obj)
      (fun party => tally (stores party obj) trail) order) ∧
      ∀ party, Returned config party (.ok ()) → tally (stores party obj) trail = (updates party obj).length := by
  have serialised := serialised_run classOf data threads updates sets clients disciplined trail config run
  have made : (fun party => (ghosts updating (ownUpdates updates) trail party).made obj) =
      fun party => tally (stores party obj) trail := funext fun party => made_tally updates trail party obj
  refine ⟨made ▸ serialised.serial obj, fun party returned => ?_⟩
  have final := returned_final (syncMachine classOf) updating allUpdated (ownUpdates updates)
    ⟨constructed classOf data, fun party => (threads party).run⟩ disciplined trail config run party (.ok ()) returned
  have all := final rfl obj
  rw [made_tally, (serialised.planned party)] at all
  exact all

end Runs

def counterClass : Unit → SyncClass := fun _ => .criticalSection

def increments : Bool → Unit → List (Update Nat) := fun _ _ => [(· + 1)]

def incrementers : Bool → SyncM Unit Nat Nat Unit := fun party => updateAll counterClass () (increments party ())

theorem updates_serialise_increments : ∃ trail config, Run (syncRuns counterClass (fun _ => 0) incrementers) trail config ∧
    Returned config true (.ok ()) ∧ tally (stores true ()) trail = 1 ∧
      ∃ order, Serial 0 (fun party => increments party ()) (config.world.data ())
        (fun party => tally (stores party ()) trail) order := by
  have start : Run (syncRuns counterClass (fun _ => 0) incrementers) [] _ := .start _ rfl
  have entered := run_call _ _ _ _ start true (.enterCriticalSection ()) _ () rfl ⟨rfl, rfl⟩
  have loaded := run_call _ _ _ _ entered true (.load ()) _ 0 rfl ⟨rfl, rfl⟩
  have stored := run_call _ _ _ _ loaded true (.store () 1) _ () rfl rfl
  have left := run_call _ _ _ _ stored true (.leaveCriticalSection ()) _ () rfl rfl
  have disciplined : Disciplined updating allUpdated (ownUpdates increments) fun party => (incrementers party).run :=
    fun party => update_all_follows counterClass () rfl party (ownUpdates increments party) (Nat.zero_le _)
      fun _ different => absurd rfl different
  obtain ⟨serial, all⟩ := updates_serialise counterClass (fun _ => 0) incrementers increments (fun _ _ => False)
    (fun party => update_all_client counterClass _ () (increments party ())) disciplined _ _ left ()
  exact ⟨_, _, left, rfl, all true rfl, serial⟩

end Rcp.Win
