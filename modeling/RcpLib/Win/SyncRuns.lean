import RcpLib.Semantics.Tally
import RcpLib.Win.SyncExclusion

set_option autoImplicit false

namespace Rcp.Win

open Semantics Rcp.Threads

section Sections

variable {Party Obj V E : Type} [DecidableEq Party] [DecidableEq Obj]
variable (classOf : Obj → SyncClass) (data : Obj → V) (threads : Party → SyncM Obj V E Unit)
variable (sets : Party → Obj → Prop) (clients : ∀ party, Client classOf (sets party) (threads party))

include clients

theorem released_of_returned (trail : SyncTrail Party Obj V E) (config : SyncConfig Party Obj V E)
    (run : Run (syncRuns classOf data threads) trail config) (party : Party) (outcome : Except (Thrown E) Unit)
    (returned : Returned config party outcome) : liveLocks classOf trail party = [] :=
  returned_final (syncMachine classOf) (discipline classOf) allReleased (fun _ => [])
    ⟨constructed classOf data, fun party => (threads party).run⟩ (clients_disciplined classOf threads sets clients)
    trail config run party outcome returned

theorem blocked_by_owner (trail : SyncTrail Party Obj V E) (config : SyncConfig Party Obj V E)
    (run : Run (syncRuns classOf data threads) trail config) (party : Party)
    (running : config.world.stopped party = false) (blocked : Blocked (syncMachine classOf) config party) :
    ∃ obj next other, config.program party = .call (.enterCriticalSection obj) next ∧ other ≠ party ∧
      obj ∈ liveLocks classOf trail other ∧ config.world.stopped other = false ∧
      ∀ outcome, ¬ Returned config other outcome := by
  have exclusion := exclusion_run classOf data threads sets clients trail config run
  obtain ⟨op, next, current, unanswered⟩ := blocked
  cases op with
  | enterCriticalSection obj =>
      have taken : (config.world.m_sect obj).available party = false := by
        cases available : (config.world.m_sect obj).available party with
        | false => rfl
        | true => exact absurd ⟨running, available⟩ (unanswered ())
      obtain ⟨other, different, owns⟩ := RecursiveLock.unavailable party _ (exclusion.intact obj) taken
      rw [exclusion.counted] at owns
      have live := List.count_pos_iff.mp owns
      refine ⟨obj, next, other, current, different, live, ?_, fun outcome returned => ?_⟩
      · by_contra stopped
        rw [exclusion.stopped other (by simpa using stopped)] at live
        cases live
      · rw [released_of_returned classOf data threads sets clients trail config run other outcome returned] at live
        cases live
  | leaveCriticalSection obj => exact absurd running (unanswered ())
  | waitForSingleObject obj milliseconds => exact absurd ⟨running, .inr (.inr rfl)⟩ (unanswered waitFailed)
  | setEvent obj => exact absurd running (unanswered true)
  | resetEvent obj => exact absurd running (unanswered true)
  | load obj => exact absurd ⟨running, rfl⟩ (unanswered (config.world.data obj))
  | store obj val => exact absurd running (unanswered ())

end Sections

def sampleClass : Bool → SyncClass
  | true => .criticalSection
  | false => .event true false

def sampleThread : SyncM Bool Nat Nat Unit :=
  SyncLock.scope sampleClass true (SyncLock.scope sampleClass true
    (SyncLock.scope sampleClass false (throw (.user 7))))

theorem sample_client : Client sampleClass (fun _ => False) sampleThread :=
  .scope true _ (.scope true _ (.scope false _ (.throw _)))

theorem sample_entered : ∃ trail config, Run (syncRuns sampleClass (fun _ => 0) fun _ : Bool => sampleThread) trail config ∧
    config.world.stopped false = false ∧ Blocked (syncMachine sampleClass) config false := by
  have start : Run (syncRuns sampleClass (fun _ => 0) fun _ : Bool => sampleThread) [] _ := .start _ rfl
  have entered := run_call _ _ _ _ start true (.enterCriticalSection true) _ () rfl ⟨rfl, rfl⟩
  refine ⟨_, _, entered, rfl, _, _, rfl, fun reply answered => ?_⟩
  cases answered.2

theorem blocked_by_owner_sample : ∃ trail config,
    Run (syncRuns sampleClass (fun _ => 0) fun _ : Bool => sampleThread) trail config ∧
      ∃ obj other, other ≠ false ∧ obj ∈ liveLocks sampleClass trail other := by
  obtain ⟨trail, config, run, running, blocked⟩ := sample_entered
  obtain ⟨obj, _, other, _, different, live, _, _⟩ := blocked_by_owner sampleClass (fun _ => 0) (fun _ => sampleThread)
    (fun _ _ => False) (fun _ => sample_client) trail config run false running blocked
  exact ⟨trail, config, run, obj, other, different, live⟩

section Events

variable {Party Obj V E : Type} [DecidableEq Party]

-- Which events a thread may set; it never changes.
def setting : Protocol (SyncOp Obj V) SyncReply (Obj → Prop) where
  permits allowed
    | .setEvent obj => allowed obj
    | _ => True
  advance allowed _ _ := allowed

variable [DecidableEq Obj]

def signal (obj : Obj) (config : SyncConfig Party Obj V E) : Nat := (config.world.signalled obj).toNat

end Events

end Rcp.Win
