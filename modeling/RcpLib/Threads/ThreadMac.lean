import RcpLib.Threads.Os

set_option autoImplicit false

namespace Rcp.Threads.Mac

open Semantics Method

-- The result of pthread_join is stored and never read.
def joinImpl : Member Unit := do
  let self ← this
  let _result ← callOs (.pthreadJoin self.handle)
  return

theorem join_impl_run (self : Thread) :
    joinImpl.run self = .call (.pthreadJoin self.handle) fun _ => .ret (.ok (), self) := rfl

def detachImpl : Member Unit := do
  let self ← this
  let _result ← callOs (.pthreadDetach self.handle)
  return

theorem detach_impl_run (self : Thread) :
    detachImpl.run self = .call (.pthreadDetach self.handle) fun _ => .ret (.ok (), self) := rfl

def terminateImpl : Member Unit := do
  let self ← this
  let _result ← callOs (.pthreadKill self.handle exitFailure)
  joinImpl

theorem terminate_impl_run (self : Thread) :
    terminateImpl.run self = .call (.pthreadKill self.handle exitFailure) fun _ => joinImpl.run self := rfl

-- The id is the pthread_t itself.
def initializeThread : Member (HANDLE × ThreadId) := do
  let created ← callOs .pthreadCreate
  match created with
  | .error error => raise (.systemError error "create thread failure")
  | .ok handle => return (handle, handle)

end Rcp.Threads.Mac
