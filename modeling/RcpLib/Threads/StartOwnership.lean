import RcpLib.Threads.StartRuns

set_option autoImplicit false

namespace Rcp.Threads.Start

open Semantics PromiseStd

def Told (startStrategy : StartStrategy) (running : Running) : Creating → Prop
  | .leaving _ | .returned _ => startStrategy = .wait → running.set = true
  | _ => True

theorem moves_told (startStrategy : StartStrategy) (creating moved : Creating) (running next : Running) (label : Label)
    (moves : Moves startStrategy creating running label moved next) (told : Told startStrategy running creating) :
    Told startStrategy next moved := by
  have kept : running.set = true → next.set = true := by cases moves <;> simp [Running.set]
  cases moves with
  | futureGet wait created _ set => exact fun _ => set
  | leaveScope => cases startStrategy <;> simp [Creating.afterScope, Told]
  | destroyFailed => cases startStrategy <;> exact trivial
  | drop => exact told
  | take creating | load creating | set _ creating | enter creating | leave creating | leaveThread creating
  | destroy creating =>
      cases creating with
      | leaving | returned => exact fun wait => kept (told wait)
      | _ => exact trivial
  | _ => exact trivial

theorem start_runs (startStrategy : StartStrategy) (trail : List (Shared × Label)) (config : Shared)
    (run : Run (startRuns startStrategy) trail config) :
    ∃ creating running, Stands startStrategy config creating running ∧ Told startStrategy running creating ∧
      ∀ counted : Counted, tally counted.counts trail = (counted.expected startStrategy creating running).toNat := by
  refine run_invariant (startRuns startStrategy) (fun trail config => ∃ creating running,
    Stands startStrategy config creating running ∧ Told startStrategy running creating ∧
      ∀ counted : Counted, tally counted.counts trail = (counted.expected startStrategy creating running).toNat)
    ?_ ?_ trail config run
  · intro start initial
    obtain rfl := initial
    cases startStrategy with
    | wait =>
        refine ⟨.makingPromise, .taking, ?_, trivial, ?_⟩
        · exact ⟨rfl, constructor_run .wait, thread_proc_run, ⟨rfl, trivial⟩, fun _ => rfl⟩
        · intro counted
          cases counted <;> rfl
    | noWait =>
        refine ⟨.makingCallable, .taking, ?_, trivial, ?_⟩
        · exact ⟨rfl, constructor_run .noWait, thread_proc_run, ⟨trivial, trivial⟩, fun _ => rfl⟩
        · intro counted
          cases counted <;> rfl
  · intro trail before label after _ earlier taken
    obtain ⟨creating, running, stands, told, counts⟩ := earlier
    obtain ⟨moved, next, moves, stood⟩ := step_moves startStrategy before after label creating running stands taken
    refine ⟨moved, next, stood, moves_told startStrategy creating moved running next label moves told, fun counted => ?_⟩
    rw [tally_cons, counts counted, moves_counted startStrategy creating moved running next label moves counted]

def touchesPromise (world : World) : Label → Bool
  | .call _ (.makeCallable started) _ => started
  | .call _ .destroyCallable _ => world.carries
  | .call _ .getFuture _ | .call _ .futureGet _ | .call _ .dropStarted _ | .call _ .setStarted _ => true
  | _ => false

def touchesCallable : Label → Bool
  | .call _ .takeCallable _ | .call _ .loadStarted _ | .call _ .enterCallable _ | .call _ .leaveCallable _ => true
  | .call _ .destroyCallable _ => true
  | _ => false

theorem moves_alive (startStrategy : StartStrategy) (creating moved : Creating) (running next : Running) (label : Label)
    (moves : Moves startStrategy creating running label moved next)
    (idle : creating.created = false → running = .taking) :
    (touchesPromise (worldAt startStrategy creating running) label = true →
      (worldAt startStrategy creating running).refs ≠ 0) ∧
    (touchesCallable label = true → (worldAt startStrategy creating running).live = true) := by
  have kept : creating.created = true → creating.keeps = true := by
    cases creating <;> simp [Creating.created, Creating.keeps]
  cases moves with
  | makePromise => simp [touchesPromise, touchesCallable]
  | makeCallable => cases startStrategy <;> simp [touchesPromise, touchesCallable, worldAt, Creating.holds]
  | createFails => simp [touchesPromise, touchesCallable]
  | creates => simp [touchesPromise, touchesCallable]
  | unwind => simp [touchesPromise, touchesCallable]
  | destroyFailed code =>
      rw [idle rfl]
      simp [touchesPromise, worldAt, Creating.holds, Creating.keeps, Creating.made, Running.keeps]
  | dropFailed wait => simp [touchesPromise, touchesCallable, worldAt, wait, Creating.holds]
  | release => simp [touchesPromise, touchesCallable]
  | leaveScope => simp [touchesPromise, touchesCallable]
  | getFuture wait => simp [touchesPromise, touchesCallable, worldAt, wait, Creating.holds]
  | futureGet wait => simp [touchesPromise, touchesCallable, worldAt, wait, Creating.holds]
  | drop wait => simp [touchesPromise, touchesCallable, worldAt, wait, Creating.holds]
  | take _ created => simp [touchesPromise, worldAt, kept created, Running.keeps]
  | load _ created => simp [touchesPromise, worldAt, kept created, Running.keeps]
  | set wait _ created => simp [touchesCallable, worldAt, wait, kept created, Running.keeps]
  | enter _ created => simp [touchesPromise, worldAt, kept created, Running.keeps]
  | leave _ created => simp [touchesPromise, worldAt, kept created, Running.keeps]
  | leaveThread => simp [touchesPromise, touchesCallable]
  | destroy _ created => simp +contextual [touchesPromise, worldAt, kept created, Running.keeps]

theorem steps_alive (startStrategy : StartStrategy) (trail : List (Shared × Label)) (config : Shared)
    (run : Run (startRuns startStrategy) trail config) (before : Shared) (label : Label)
    (member : (before, label) ∈ trail) :
    (touchesPromise before.world label = true → before.world.refs ≠ 0) ∧
      (touchesCallable label = true → before.world.live = true) := by
  obtain ⟨⟨earlier, reached⟩, after, taken⟩ := trail_reachable (startRuns startStrategy) trail config run _ member
  obtain ⟨creating, running, stands, _, _⟩ := start_runs startStrategy earlier before reached
  obtain ⟨moved, next, moves, _⟩ := step_moves startStrategy before after label creating running stands taken
  rw [stands.world]
  exact moves_alive startStrategy creating moved running next label moves stands.idle

theorem blocked_waiting (startStrategy : StartStrategy) (config : Shared) (creating : Creating) (running : Running)
    (stands : Stands startStrategy config creating running) (blocked : Blocked startMachine config .creator) :
    creating.created = true ∧ running.set = false := by
  obtain ⟨op, next, current, unanswered⟩ := blocked
  rw [stands.creator] at current
  cases creating with
  | waiting created =>
      cases current
      refine ⟨rfl, ?_⟩
      have wait : startStrategy = .wait := stands.fits.1
      by_contra set
      refine unanswered () ?_
      change config.world.promise.result ≠ none
      simp [stands.world, worldAt, wait, set]
  | gettingFuture | unwinding | leavingScope =>
      cases current
      exact absurd rfl (unanswered _)
  | creatingThread =>
      cases current
      exact absurd trivial (unanswered (.error 0))
  | makingPromise | makingCallable | destroying | dropping | releasing | leaving =>
      cases current
      exact absurd trivial (unanswered ())
  | failed | returned => cases current

theorem thread_enabled (startStrategy : StartStrategy) (config : Shared) (creating : Creating) (running : Running)
    (stands : Stands startStrategy config creating running) (created : creating.created = true)
    (unset : running.set = false) : Enabled startMachine config .newThread := by
  have started : config.world.created = true := by rw [stands.world]; exact created
  cases running with
  | taking => exact ⟨.takeCallable, _, (), stands.newThread, started, trivial⟩
  | loading => exact ⟨.loadStarted, _, _, stands.newThread, started, rfl⟩
  | setting => exact ⟨.setStarted, _, _, stands.newThread, started, rfl⟩
  | entering | inside | leavingScope | destroying | done => cases unset

theorem start_handshake (startStrategy : StartStrategy) (trail : List (Shared × Label)) (config : Shared)
    (run : Run (startRuns startStrategy) trail config) :
    (tally Counted.entry.counts trail ≤ tally Counted.creation.counts trail ∧
      tally Counted.creation.counts trail + tally Counted.failure.counts trail ≤ 1) ∧
    (tally Counted.destroyedByCreator.counts trail ≤ tally Counted.failure.counts trail ∧
      tally Counted.destroyedByThread.counts trail ≤ tally Counted.return.counts trail ∧
      tally Counted.destroyedByCreator.counts trail + tally Counted.destroyedByThread.counts trail ≤ 1) ∧
    (∀ thrown, Returned config .creator (.error thrown) → tally Counted.destroyedByCreator.counts trail = 1) ∧
    (∀ result, Returned config .newThread result → tally Counted.destroyedByThread.counts trail = 1) ∧
    (startStrategy = .wait → ∀ created, Returned config .creator (.ok created) → tally Counted.set.counts trail = 1) ∧
    tally Counted.set.counts trail ≤ 1 ∧
    (∀ before label, (before, label) ∈ trail →
      (touchesPromise before.world label = true → before.world.refs ≠ 0) ∧
      (touchesCallable label = true → before.world.live = true)) ∧
    (Blocked startMachine config .creator →
      Enabled startMachine config .newThread ∧ tally Counted.set.counts trail = 0) := by
  obtain ⟨creating, running, stands, told, counts⟩ := start_runs startStrategy trail config run
  simp only [counts]
  refine ⟨?_, ?_, ?_, ?_, ?_, ?_, steps_alive startStrategy trail config run, ?_⟩
  · constructor
    · cases created : creating.created with
      | false => simp [Counted.expected, created, stands.idle created, Running.entered]
      | true => simpa [Counted.expected, created] using Bool.toNat_le running.entered
    · cases creating <;> simp [Counted.expected, Creating.created, Creating.failedCreation]
  · refine ⟨?_, ?_, ?_⟩
    · cases creating <;> simp [Counted.expected, Creating.destroyed, Creating.failedCreation]
    · cases running <;> simp [Counted.expected, Running.keeps, Running.left]
    · cases created : creating.created with
      | false => simpa [Counted.expected, stands.idle created, Running.keeps] using Bool.toNat_le creating.destroyed
      | true =>
          have intact : creating.destroyed = false := by
            cases creating <;> first | rfl | cases created
          simpa [Counted.expected, intact] using Bool.toNat_le (!running.keeps)
  · intro thrown returned
    have program := stands.creator.symm.trans returned
    cases creating <;> cases program
    rfl
  · intro result returned
    have program := stands.newThread.symm.trans returned
    cases running <;> cases program
    rfl
  · intro wait created returned
    have program := stands.creator.symm.trans returned
    cases creating <;> cases program
    simp [Counted.expected, wait, told wait]
  · exact Bool.toNat_le _
  · intro blocked
    obtain ⟨created, unset⟩ := blocked_waiting startStrategy config creating running stands blocked
    refine ⟨thread_enabled startStrategy config creating running stands created unset, ?_⟩
    simp [Counted.expected, unset]

-- The new thread is over before the constructor releases the Callable; in the
-- second run the creation fails.
theorem start_handshake_early :
    (∃ trail config, Run (startRuns .wait) trail config ∧ Returned config .creator (.ok (1, 1)) ∧
      tally Counted.set.counts trail = 1 ∧ tally Counted.destroyedByThread.counts trail = 1) ∧
    (∃ trail config, Run (startRuns .noWait) trail config ∧
      Returned config .creator (.error (.systemError 8 "create thread failure")) ∧
      tally Counted.destroyedByCreator.counts trail = 1) := by
  constructor
  · have start : Run (startRuns .wait) [] _ := .start _ rfl
    have promised := run_call _ _ _ _ start .creator .makePromise _ () rfl trivial
    have made := run_call _ _ _ _ promised .creator (.makeCallable true) _ () rfl trivial
    have created := run_call _ _ _ _ made .creator .createThread _ (.ok (1, 1)) rfl trivial
    have taken := run_call _ _ _ _ created .newThread .takeCallable _ () rfl ⟨rfl, trivial⟩
    have loaded := run_call _ _ _ _ taken .newThread .loadStarted _ true rfl ⟨rfl, rfl⟩
    have set := run_call _ _ _ _ loaded .newThread .setStarted _ (.ok ()) rfl ⟨rfl, rfl⟩
    have entered := run_call _ _ _ _ set .newThread .enterCallable _ () rfl ⟨rfl, trivial⟩
    have left := run_call _ _ _ _ entered .newThread .leaveCallable _ () rfl ⟨rfl, trivial⟩
    have owned := run_call _ _ _ _ left .newThread .callablePtrOwns _ true rfl ⟨rfl, rfl⟩
    have destroyed := run_call _ _ _ _ owned .newThread .destroyCallable _ () rfl ⟨rfl, trivial⟩
    have released := run_call _ _ _ _ destroyed .creator .releaseCallable _ () rfl trivial
    have empty := run_call _ _ _ _ released .creator .callablePtrOwns _ false rfl rfl
    have future := run_call _ _ _ _ empty .creator .getFuture _ (.ok ()) rfl rfl
    have told := run_call _ _ _ _ future .creator .futureGet _ () rfl (by rintro ⟨⟩)
    have dropped := run_call _ _ _ _ told .creator .dropStarted _ () rfl trivial
    have handshake := start_handshake .wait _ _ dropped
    exact ⟨_, _, dropped, rfl, handshake.2.2.2.2.1 rfl (1, 1) rfl, handshake.2.2.2.1 (.ok ()) rfl⟩
  · have start : Run (startRuns .noWait) [] _ := .start _ rfl
    have made := run_call _ _ _ _ start .creator (.makeCallable false) _ () rfl trivial
    have failed := run_call _ _ _ _ made .creator .createThread _ (.error 8) rfl trivial
    have owned := run_call _ _ _ _ failed .creator .callablePtrOwns _ true rfl rfl
    have destroyed := run_call _ _ _ _ owned .creator .destroyCallable _ () rfl trivial
    exact ⟨_, _, destroyed, rfl, (start_handshake .noWait _ _ destroyed).2.2.1 _ rfl⟩

end Rcp.Threads.Start
