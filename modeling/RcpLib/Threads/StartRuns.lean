import RcpLib.Threads.StartHandshake

set_option autoImplicit false

namespace Rcp.Threads.Start

open Semantics PromiseStd

inductive Creating where
  | makingPromise
  | makingCallable
  | creatingThread
  | unwinding (code : Int)
  | destroying (code : Int)
  | dropping (code : Int)
  | failed (code : Int)
  | releasing (created : HANDLE × ThreadId)
  | leavingScope (created : HANDLE × ThreadId)
  | gettingFuture (created : HANDLE × ThreadId)
  | waiting (created : HANDLE × ThreadId)
  | leaving (created : HANDLE × ThreadId)
  | returned (created : HANDLE × ThreadId)

-- Where the new thread stands; `taking` also before it is created.
inductive Running where
  | taking
  | loading
  | setting
  | entering
  | inside
  | leavingScope
  | destroying
  | done

abbrev CreatorProgram := Program StartOp StartReply (Except Thrown (HANDLE × ThreadId))

abbrev ThreadProgram := Program StartOp StartReply (Except Thrown Unit)

def failure (code : Int) : CreatorProgram := .ret (.error (.systemError code "create thread failure"))

def leave (result : Except Thrown (HANDLE × ThreadId)) : CreatorProgram := .call .dropStarted fun _ => .ret result

def await (created : HANDLE × ThreadId) : CreatorProgram := .call .futureGet fun _ => leave (.ok created)

def getFuture (created : HANDLE × ThreadId) : CreatorProgram :=
  .call .getFuture fun
    | .ok () => await created
    | .error code => leave (.error (.futureError code))

def afterCreation (startStrategy : StartStrategy) (created : HANDLE × ThreadId) : CreatorProgram :=
  match startStrategy with
  | .wait => getFuture created
  | .noWait => .ret (.ok created)

def afterFailure (startStrategy : StartStrategy) (code : Int) : CreatorProgram :=
  match startStrategy with
  | .wait => leave (.error (.systemError code "create thread failure"))
  | .noWait => failure code

def destroy (next : CreatorProgram) : CreatorProgram := .call .destroyCallable fun _ => next

def leaveScope (next : CreatorProgram) : CreatorProgram :=
  .call .callablePtrOwns fun owns => if owns then destroy next else next

def release (startStrategy : StartStrategy) (pair : HANDLE × ThreadId) : CreatorProgram :=
  .call .releaseCallable fun _ => leaveScope (afterCreation startStrategy pair)

def create (startStrategy : StartStrategy) : CreatorProgram :=
  .call .createThread fun
    | .error code => leaveScope (afterFailure startStrategy code)
    | .ok pair => release startStrategy pair

def make (startStrategy : StartStrategy) : CreatorProgram :=
  .call (.makeCallable (startStrategy == .wait)) fun _ => create startStrategy

theorem after_creation_run (startStrategy : StartStrategy) (pair : HANDLE × ThreadId) :
    (withDestructor (destroyStarted (startStrategy == .wait)) (do
      if startStrategy == .wait then
        waitForStarted
      return pair)).run = afterCreation startStrategy pair := by
  cases startStrategy with
  | wait =>
      refine congrArg (Program.call StartOp.getFuture) (funext fun reply => ?_)
      cases reply <;> rfl
  | noWait => rfl

theorem make_run (startStrategy : StartStrategy) :
    (withDestructor (destroyStarted (startStrategy == .wait)) (do
      let created ← withDestructor destroyCallablePtr do
        callStart (.makeCallable (startStrategy == .wait))
        initializeThread
      if startStrategy == .wait then
        waitForStarted
      return created)).run = make startStrategy := by
  refine congrArg (Program.call (StartOp.makeCallable (startStrategy == .wait))) (funext fun _ => ?_)
  refine congrArg (Program.call StartOp.createThread) (funext fun reply => ?_)
  cases reply with
  | error code =>
      refine congrArg (Program.call StartOp.callablePtrOwns) (funext fun owns => ?_)
      cases startStrategy <;> cases owns <;> rfl
  | ok pair =>
      refine congrArg (Program.call StartOp.releaseCallable) (funext fun _ => ?_)
      refine congrArg (Program.call StartOp.callablePtrOwns) (funext fun owns => ?_)
      cases owns with
      | false => exact after_creation_run startStrategy pair
      | true =>
          exact congrArg (Program.call StartOp.destroyCallable) (funext fun _ => after_creation_run startStrategy pair)

theorem constructor_run (startStrategy : StartStrategy) : (constructor startStrategy).run =
    match startStrategy with
    | .wait => .call .makePromise fun _ => make .wait
    | .noWait => make .noWait := by
  cases startStrategy with
  | wait => exact congrArg (Program.call StartOp.makePromise) (funext fun _ => make_run .wait)
  | noWait => exact make_run .noWait

def Creating.program (startStrategy : StartStrategy) : Creating → CreatorProgram
  | .makingPromise => .call .makePromise fun _ => make startStrategy
  | .makingCallable => make startStrategy
  | .creatingThread => create startStrategy
  | .unwinding code => leaveScope (afterFailure startStrategy code)
  | .destroying code => destroy (afterFailure startStrategy code)
  | .dropping code => leave (.error (.systemError code "create thread failure"))
  | .failed code => failure code
  | .releasing pair => release startStrategy pair
  | .leavingScope pair => leaveScope (afterCreation startStrategy pair)
  | .gettingFuture pair => getFuture pair
  | .waiting pair => await pair
  | .leaving pair => leave (.ok pair)
  | .returned pair => .ret (.ok pair)

def destroyTaken (result : Except Thrown Unit) : ThreadProgram := .call .destroyCallable fun _ => .ret result

def leaveThread (result : Except Thrown Unit) : ThreadProgram :=
  .call .callablePtrOwns fun owns => if owns then destroyTaken result else .ret result

def leaveCallable : ThreadProgram := .call .leaveCallable fun _ => leaveThread (.ok ())

def enterCallable : ThreadProgram := .call .enterCallable fun _ => leaveCallable

def setStarted : ThreadProgram :=
  .call .setStarted fun
    | .ok () => enterCallable
    | .error code => leaveThread (.error (.futureError code))

def loadStarted : ThreadProgram :=
  .call .loadStarted fun started => if started then setStarted else enterCallable

def Running.program : Running → ThreadProgram
  | .taking => .call .takeCallable fun _ => loadStarted
  | .loading => loadStarted
  | .setting => setStarted
  | .entering => enterCallable
  | .inside => leaveCallable
  | .leavingScope => leaveThread (.ok ())
  | .destroying => destroyTaken (.ok ())
  | .done => .ret (.ok ())

theorem entered_run : (withDestructor destroyCallablePtr (do
    callStart .enterCallable
    callStart .leaveCallable)).run = enterCallable := by
  refine congrArg (Program.call StartOp.enterCallable) (funext fun _ => ?_)
  refine congrArg (Program.call StartOp.leaveCallable) (funext fun _ => ?_)
  refine congrArg (Program.call StartOp.callablePtrOwns) (funext fun owns => ?_)
  cases owns <;> rfl

theorem thread_proc_run : threadProc.run = Running.taking.program := by
  refine congrArg (Program.call StartOp.takeCallable) (funext fun _ => ?_)
  refine congrArg (Program.call StartOp.loadStarted) (funext fun started => ?_)
  cases started with
  | false => exact entered_run
  | true =>
      refine congrArg (Program.call StartOp.setStarted) (funext fun reply => ?_)
      cases reply with
      | ok _ => exact entered_run
      | error code =>
          refine congrArg (Program.call StartOp.callablePtrOwns) (funext fun owns => ?_)
          cases owns <;> rfl

-- A promise is made, and its phases entered, under StartStrategy::Wait only.
def Creating.fits (startStrategy : StartStrategy) : Creating → Prop
  | .makingPromise => startStrategy = .wait
  | .dropping _ => startStrategy = .wait
  | .gettingFuture _ => startStrategy = .wait
  | .waiting _ => startStrategy = .wait
  | .leaving _ => startStrategy = .wait
  | _ => True

def Running.fits (startStrategy : StartStrategy) : Running → Prop
  | .setting => startStrategy = .wait
  | _ => True

def Creating.created : Creating → Bool
  | .releasing _ | .leavingScope _ | .gettingFuture _ | .waiting _ | .leaving _ | .returned _ => true
  | _ => false

def Creating.keeps : Creating → Bool
  | .makingPromise | .makingCallable | .dropping _ | .failed _ => false
  | _ => true

def Creating.made : Creating → Bool
  | .makingPromise | .makingCallable => false
  | _ => true

def Creating.holds : Creating → Bool
  | .makingPromise | .failed _ | .returned _ => false
  | _ => true

def Creating.retrieved : Creating → Bool
  | .waiting _ | .leaving _ | .returned _ => true
  | _ => false

def Creating.owns : Creating → Bool
  | .creatingThread | .unwinding _ | .destroying _ | .releasing _ => true
  | _ => false

def Running.owns : Running → Bool
  | .taking | .done => false
  | _ => true

def Running.set : Running → Bool
  | .entering | .inside | .leavingScope | .destroying | .done => true
  | _ => false

def Running.keeps : Running → Bool
  | .done => false
  | _ => true

-- The world is a function of where the two parties stand.
def worldAt (startStrategy : StartStrategy) (creating : Creating) (running : Running) : World :=
  let wait := startStrategy == .wait
  let live := creating.keeps && running.keeps
  { refs := (wait && creating.holds).toNat + (wait && live).toNat
    promise := ⟨if wait && running.set then some (.ok ()) else none, wait && creating.retrieved⟩
    live := live
    carries := wait && creating.made
    created := creating.created
    creatorOwns := creating.owns
    threadOwns := running.owns }

structure Stands (startStrategy : StartStrategy) (config : Shared) (creating : Creating) (running : Running) : Prop where
  world : config.world = worldAt startStrategy creating running
  creator : config.program .creator = creating.program startStrategy
  newThread : config.program .newThread = running.program
  fits : creating.fits startStrategy ∧ running.fits startStrategy
  idle : creating.created = false → running = .taking

def Creating.afterDestroy (startStrategy : StartStrategy) (code : Int) : Creating :=
  match startStrategy with
  | .wait => .dropping code
  | .noWait => .failed code

def Creating.afterScope (startStrategy : StartStrategy) (created : HANDLE × ThreadId) : Creating :=
  match startStrategy with
  | .wait => .gettingFuture created
  | .noWait => .returned created

def Running.afterLoad : StartStrategy → Running
  | .wait => .setting
  | .noWait => .entering

inductive Moves (startStrategy : StartStrategy) : Creating → Running → Label → Creating → Running → Prop where
  | makePromise (wait : startStrategy = .wait) (running : Running) :
      Moves startStrategy .makingPromise running (.call .creator .makePromise ()) .makingCallable running
  | makeCallable (running : Running) :
      Moves startStrategy .makingCallable running (.call .creator (.makeCallable (startStrategy == .wait)) ()) .creatingThread running
  | createFails (code : Int) (running : Running) :
      Moves startStrategy .creatingThread running (.call .creator .createThread (.error code)) (.unwinding code) running
  | creates (created : HANDLE × ThreadId) (running : Running) :
      Moves startStrategy .creatingThread running (.call .creator .createThread (.ok created)) (.releasing created) running
  | unwind (code : Int) (running : Running) :
      Moves startStrategy (.unwinding code) running (.call .creator .callablePtrOwns true) (.destroying code) running
  | destroyFailed (code : Int) (running : Running) :
      Moves startStrategy (.destroying code) running (.call .creator .destroyCallable ())
        (.afterDestroy startStrategy code) running
  | dropFailed (wait : startStrategy = .wait) (code : Int) (running : Running) :
      Moves startStrategy (.dropping code) running (.call .creator .dropStarted ()) (.failed code) running
  | release (created : HANDLE × ThreadId) (running : Running) :
      Moves startStrategy (.releasing created) running (.call .creator .releaseCallable ()) (.leavingScope created) running
  | leaveScope (created : HANDLE × ThreadId) (running : Running) :
      Moves startStrategy (.leavingScope created) running (.call .creator .callablePtrOwns false)
        (.afterScope startStrategy created) running
  | getFuture (wait : startStrategy = .wait) (created : HANDLE × ThreadId) (running : Running) :
      Moves startStrategy (.gettingFuture created) running (.call .creator .getFuture (.ok ())) (.waiting created) running
  | futureGet (wait : startStrategy = .wait) (created : HANDLE × ThreadId) (running : Running) (set : running.set = true) :
      Moves startStrategy (.waiting created) running (.call .creator .futureGet ()) (.leaving created) running
  | drop (wait : startStrategy = .wait) (created : HANDLE × ThreadId) (running : Running) :
      Moves startStrategy (.leaving created) running (.call .creator .dropStarted ()) (.returned created) running
  | take (creating : Creating) (created : creating.created = true) :
      Moves startStrategy creating .taking (.call .newThread .takeCallable ()) creating .loading
  | load (creating : Creating) (created : creating.created = true) :
      Moves startStrategy creating .loading (.call .newThread .loadStarted (startStrategy == .wait)) creating
        (.afterLoad startStrategy)
  | set (wait : startStrategy = .wait) (creating : Creating) (created : creating.created = true) :
      Moves startStrategy creating .setting (.call .newThread .setStarted (.ok ())) creating .entering
  | enter (creating : Creating) (created : creating.created = true) :
      Moves startStrategy creating .entering (.call .newThread .enterCallable ()) creating .inside
  | leave (creating : Creating) (created : creating.created = true) :
      Moves startStrategy creating .inside (.call .newThread .leaveCallable ()) creating .leavingScope
  | leaveThread (creating : Creating) (created : creating.created = true) :
      Moves startStrategy creating .leavingScope (.call .newThread .callablePtrOwns true) creating .destroying
  | destroy (creating : Creating) (created : creating.created = true) :
      Moves startStrategy creating .destroying (.call .newThread .destroyCallable ()) creating .done

theorem stands_creator (startStrategy : StartStrategy) (config : Shared) (creating moved : Creating) (running : Running)
    (stands : Stands startStrategy config creating running) (op : StartOp) (reply : StartReply op)
    (world : (worldAt startStrategy creating running).after .creator op reply = worldAt startStrategy moved running)
    (fits : moved.fits startStrategy) (idle : moved.created = false → running = .taking) :
    Stands startStrategy
      (config.resumed (config.world.after .creator op reply) .creator (moved.program startStrategy)) moved running := by
  refine ⟨?_, resumed_here config _ .creator _, ?_, ⟨fits, stands.fits.2⟩, idle⟩
  · rw [resumed_world, stands.world, world]
  · exact (resumed_elsewhere config _ .creator .newThread _ (by decide)).trans stands.newThread

theorem stands_thread (startStrategy : StartStrategy) (config : Shared) (creating : Creating) (running moved : Running)
    (stands : Stands startStrategy config creating running) (op : StartOp) (reply : StartReply op)
    (world : (worldAt startStrategy creating running).after .newThread op reply = worldAt startStrategy creating moved)
    (fits : moved.fits startStrategy) (created : creating.created = true) :
    Stands startStrategy
      (config.resumed (config.world.after .newThread op reply) .newThread moved.program) creating moved := by
  refine ⟨?_, ?_, resumed_here config _ .newThread _, ⟨stands.fits.1, fits⟩, fun idle => ?_⟩
  · rw [resumed_world, stands.world, world]
  · exact (resumed_elsewhere config _ .newThread .creator _ (by decide)).trans stands.creator
  · rw [created] at idle
    cases idle

theorem creator_moves (startStrategy : StartStrategy) (config : Shared) (creating : Creating) (running : Running)
    (stands : Stands startStrategy config creating running) (op : StartOp)
    (next : StartReply op → Program StartOp StartReply (Res .creator)) (reply : StartReply op)
    (current : creating.program startStrategy = .call op next)
    (answered : (worldAt startStrategy creating running).answers .creator op reply) :
    ∃ moved, Moves startStrategy creating running (.call .creator op reply) moved running ∧
      Stands startStrategy (config.resumed (config.world.after .creator op reply) .creator (next reply)) moved running := by
  cases creating with
  | makingPromise =>
      cases current
      have wait : startStrategy = .wait := stands.fits.1
      have idle := stands.idle rfl
      subst wait idle
      exact ⟨.makingCallable, .makePromise rfl .taking,
        stands_creator .wait config _ .makingCallable .taking stands _ _ rfl trivial fun _ => rfl⟩
  | makingCallable =>
      cases current
      have idle := stands.idle rfl
      subst idle
      refine ⟨.creatingThread, .makeCallable .taking,
        stands_creator startStrategy config _ .creatingThread .taking stands _ _ ?_ trivial fun _ => rfl⟩
      cases startStrategy <;> rfl
  | creatingThread =>
      cases current
      have idle := stands.idle rfl
      subst idle
      cases reply with
      | error code =>
          exact ⟨.unwinding code, .createFails code .taking,
            stands_creator startStrategy config _ (.unwinding code) .taking stands _ _ rfl trivial fun _ => rfl⟩
      | ok created =>
          refine ⟨.releasing created, .creates created .taking,
            stands_creator startStrategy config _ (.releasing created) .taking stands _ _ ?_ trivial fun _ => rfl⟩
          cases startStrategy <;> rfl
  | unwinding code =>
      cases current
      have idle := stands.idle rfl
      subst idle
      obtain rfl : reply = true := answered
      exact ⟨.destroying code, .unwind code .taking,
        stands_creator startStrategy config _ (.destroying code) .taking stands _ _ rfl trivial fun _ => rfl⟩
  | destroying code =>
      cases current
      have idle := stands.idle rfl
      subst idle
      refine ⟨.afterDestroy startStrategy code, .destroyFailed code .taking, ?_⟩
      cases startStrategy with
      | wait => exact stands_creator .wait config _ (.dropping code) .taking stands _ _ rfl rfl fun _ => rfl
      | noWait => exact stands_creator .noWait config _ (.failed code) .taking stands _ _ rfl trivial fun _ => rfl
  | dropping code =>
      cases current
      have wait : startStrategy = .wait := stands.fits.1
      have idle := stands.idle rfl
      subst wait idle
      exact ⟨.failed code, .dropFailed rfl code .taking,
        stands_creator .wait config _ (.failed code) .taking stands _ _ rfl trivial fun _ => rfl⟩
  | failed code => cases current
  | releasing created =>
      cases current
      exact ⟨.leavingScope created, .release created running,
        stands_creator startStrategy config _ (.leavingScope created) running stands _ _ rfl trivial (by rintro ⟨⟩)⟩
  | leavingScope created =>
      cases current
      obtain rfl : reply = false := answered
      refine ⟨.afterScope startStrategy created, .leaveScope created running, ?_⟩
      cases startStrategy with
      | wait => exact stands_creator .wait config _ (.gettingFuture created) running stands _ _ rfl rfl (by rintro ⟨⟩)
      | noWait => exact stands_creator .noWait config _ (.returned created) running stands _ _ rfl trivial (by rintro ⟨⟩)
  | gettingFuture created =>
      cases current
      have wait : startStrategy = .wait := stands.fits.1
      subst wait
      cases answered
      exact ⟨.waiting created, .getFuture rfl created running,
        stands_creator .wait config _ (.waiting created) running stands _ _ rfl rfl (by rintro ⟨⟩)⟩
  | waiting created =>
      cases current
      have wait : startStrategy = .wait := stands.fits.1
      subst wait
      have set : running.set = true := by
        cases set : running.set
        · exact absurd (by simp [worldAt, set]) answered
        · rfl
      exact ⟨.leaving created, .futureGet rfl created running set,
        stands_creator .wait config _ (.leaving created) running stands _ _ rfl rfl (by rintro ⟨⟩)⟩
  | leaving created =>
      cases current
      have wait : startStrategy = .wait := stands.fits.1
      subst wait
      refine ⟨.returned created, .drop rfl created running,
        stands_creator .wait config _ (.returned created) running stands _ _ ?_ trivial (by rintro ⟨⟩)⟩
      cases running <;> rfl
  | returned created => cases current

theorem thread_moves (startStrategy : StartStrategy) (config : Shared) (creating : Creating) (running : Running)
    (stands : Stands startStrategy config creating running) (op : StartOp)
    (next : StartReply op → Program StartOp StartReply (Res .newThread)) (reply : StartReply op)
    (current : running.program = .call op next) (created : creating.created = true)
    (answered : (worldAt startStrategy creating running).answers .newThread op reply) :
    ∃ moved, Moves startStrategy creating running (.call .newThread op reply) creating moved ∧
      Stands startStrategy (config.resumed (config.world.after .newThread op reply) .newThread (next reply)) creating moved := by
  have made : creating.made = true ∧ creating.keeps = true := by
    cases creating <;> first | exact ⟨rfl, rfl⟩ | cases created
  cases running with
  | taking =>
      cases current
      exact ⟨.loading, .take creating created,
        stands_thread startStrategy config creating _ .loading stands _ _ rfl trivial created⟩
  | loading =>
      cases current
      have carries : reply = (startStrategy == .wait) := by
        have same : reply = ((startStrategy == .wait) && creating.made) := answered
        simpa [made.1] using same
      subst carries
      refine ⟨.afterLoad startStrategy, .load creating created, ?_⟩
      cases startStrategy with
      | wait => exact stands_thread .wait config creating _ .setting stands _ _ rfl rfl created
      | noWait => exact stands_thread .noWait config creating _ .entering stands _ _ rfl trivial created
  | setting =>
      cases current
      have wait : startStrategy = .wait := stands.fits.2
      subst wait
      cases answered
      exact ⟨.entering, .set rfl creating created,
        stands_thread .wait config creating _ .entering stands _ _ rfl trivial created⟩
  | entering =>
      cases current
      exact ⟨.inside, .enter creating created,
        stands_thread startStrategy config creating _ .inside stands _ _ rfl trivial created⟩
  | inside =>
      cases current
      exact ⟨.leavingScope, .leave creating created,
        stands_thread startStrategy config creating _ .leavingScope stands _ _ rfl trivial created⟩
  | leavingScope =>
      cases current
      obtain rfl : reply = true := answered
      exact ⟨.destroying, .leaveThread creating created,
        stands_thread startStrategy config creating _ .destroying stands _ _ rfl trivial created⟩
  | destroying =>
      cases current
      refine ⟨.done, .destroy creating created,
        stands_thread startStrategy config creating _ .done stands _ _ ?_ trivial created⟩
      simp [World.after, World.setOwns, worldAt, Running.keeps, Running.set, Running.owns, made]
  | done => cases current

theorem step_moves (startStrategy : StartStrategy) (before after : Shared) (label : Label) (creating : Creating)
    (running : Running) (stands : Stands startStrategy before creating running)
    (taken : PoolStep startMachine before label after) :
    ∃ creating' running', Moves startStrategy creating running label creating' running' ∧
      Stands startStrategy after creating' running' := by
  cases taken with
  | call party op next reply current answered =>
      cases party with
      | creator =>
          obtain ⟨moved, moves, stood⟩ := creator_moves startStrategy before creating running stands op next reply
            (stands.creator.symm.trans current) (by rw [← stands.world]; exact answered)
          exact ⟨moved, running, moves, stood⟩
      | newThread =>
          have created : creating.created = true := by
            have created := answered.1
            rwa [stands.world] at created
          obtain ⟨moved, moves, stood⟩ := thread_moves startStrategy before creating running stands op next reply
            (stands.newThread.symm.trans current) created (by rw [← stands.world]; exact answered.2)
          exact ⟨creating, moved, moves, stood⟩
  | event event => exact event.elim

inductive Counted where
  | creation
  | failure
  | set
  | entry
  | return
  | destroyedByCreator
  | destroyedByThread

def Counted.counts : Counted → Label → Bool
  | .creation, .call .creator .createThread (.ok _) => true
  | .failure, .call .creator .createThread (.error _) => true
  | .set, .call _ .setStarted _ => true
  | .entry, .call _ .enterCallable _ => true
  | .return, .call _ .leaveCallable _ => true
  | .destroyedByCreator, .call .creator .destroyCallable _ => true
  | .destroyedByThread, .call .newThread .destroyCallable _ => true
  | _, _ => false

def Creating.failedCreation : Creating → Bool
  | .unwinding _ | .destroying _ | .dropping _ | .failed _ => true
  | _ => false

def Creating.destroyed : Creating → Bool
  | .dropping _ | .failed _ => true
  | _ => false

def Running.entered : Running → Bool
  | .inside | .leavingScope | .destroying | .done => true
  | _ => false

def Running.left : Running → Bool
  | .leavingScope | .destroying | .done => true
  | _ => false

def Counted.expected (startStrategy : StartStrategy) (creating : Creating) (running : Running) : Counted → Bool
  | .creation => creating.created
  | .failure => creating.failedCreation
  | .set => startStrategy == .wait && running.set
  | .entry => running.entered
  | .return => running.left
  | .destroyedByCreator => creating.destroyed
  | .destroyedByThread => !running.keeps

theorem moves_counted (startStrategy : StartStrategy) (creating moved : Creating) (running next : Running) (label : Label)
    (moves : Moves startStrategy creating running label moved next) (counted : Counted) :
    (counted.expected startStrategy moved next).toNat =
      (counted.expected startStrategy creating running).toNat + (counted.counts label).toNat := by
  cases moves <;> cases counted <;> cases startStrategy <;> first | rfl | contradiction

end Rcp.Threads.Start
