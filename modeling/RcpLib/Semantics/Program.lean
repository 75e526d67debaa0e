import Mathlib.Logic.Basic

set_option autoImplicit false

namespace Semantics

-- A sequential program over an interface of atomic operations. `call op next`
-- performs one operation and continues with its reply; everything between two
-- operations is local to the program.
inductive Program (Op : Type) (Reply : Op → Type) (α : Type) where
  | ret (value : α)
  | call (op : Op) (next : Reply op → Program Op Reply α)

variable {Op : Type} {Reply : Op → Type} {α β : Type}

def Program.bind : Program Op Reply α → (α → Program Op Reply β) → Program Op Reply β
  | .ret value, next => next value
  | .call op step, next => .call op fun reply => (step reply).bind next

instance : Monad (Program Op Reply) where
  pure := .ret
  bind := .bind

def perform (op : Op) : Program Op Reply (Reply op) := .call op .ret

@[simp] theorem pure_eq_ret (value : α) : (pure value : Program Op Reply α) = .ret value := rfl

@[simp] theorem ret_bind (value : α) (next : α → Program Op Reply β) :
    (Program.ret value >>= next) = next value := rfl

@[simp] theorem call_bind (op : Op) (step : Reply op → Program Op Reply α) (next : α → Program Op Reply β) :
    (Program.call op step >>= next) = .call op fun reply => step reply >>= next := rfl

@[simp] theorem perform_bind (op : Op) (next : Reply op → Program Op Reply β) :
    (perform op >>= next) = .call op next := rfl

theorem bind_ret (program : Program Op Reply α) : (program >>= Program.ret) = program := by
  induction program with
  | ret value => rfl
  | call op step ih => simp [ih]

theorem bind_bind {γ : Type} (program : Program Op Reply α) (first : α → Program Op Reply β)
    (second : β → Program Op Reply γ) :
    ((program >>= first) >>= second) = (program >>= fun value => first value >>= second) := by
  induction program with
  | ret value => rfl
  | call op step ih => simp [ih]

instance : LawfulMonad (Program Op Reply) :=
  LawfulMonad.mk' _ (fun program => bind_ret program) (fun _ _ => rfl)
    (fun program first second => bind_bind program first second)

-- A block with a local object: the destructor runs whether the block returns or throws.
def withDestructor {ε : Type} (destructor : Program Op Reply Unit) (body : ExceptT ε (Program Op Reply) α) :
    ExceptT ε (Program Op Reply) α :=
  ExceptT.mk do
    let result ← body.run
    destructor
    return result

-- What a world may reply to an operation, and what the operation leaves behind.
-- An operation that no reply answers blocks.
structure Handler (Op : Type) (Reply : Op → Type) (World : Type) where
  answers : World → (op : Op) → Reply op → Prop
  after : World → (op : Op) → Reply op → World

variable {World : Type}

-- Partial correctness under interference: between any two operations, and before
-- the first and after the last one, the world may move along `rely`.
def Program.Ensures (handler : Handler Op Reply World) (rely : World → World → Prop)
    (post : α → World → Prop) : Program Op Reply α → World → Prop
  | .ret value, world => ∀ later, rely world later → post value later
  | .call op next, world => ∀ later, rely world later → ∀ reply, handler.answers later op reply →
      (next reply).Ensures handler rely post (handler.after later op reply)

theorem ensures_stable (handler : Handler Op Reply World) (rely : World → World → Prop)
    (post : α → World → Prop) (trans : ∀ a b c, rely a b → rely b c → rely a c)
    (program : Program Op Reply α) (world later : World) (moved : rely world later)
    (ensures : program.Ensures handler rely post world) : program.Ensures handler rely post later := by
  cases program with
  | ret value => exact fun final further => ensures final (trans _ _ _ moved further)
  | call op next => exact fun final further => ensures final (trans _ _ _ moved further)

theorem ensures_call (handler : Handler Op Reply World) (rely : World → World → Prop)
    (post : α → World → Prop) (refl : ∀ a, rely a a) (op : Op) (next : Reply op → Program Op Reply α)
    (world : World) (reply : Reply op) (answered : handler.answers world op reply)
    (ensures : (Program.call op next).Ensures handler rely post world) :
    (next reply).Ensures handler rely post (handler.after world op reply) :=
  ensures world (refl world) reply answered

theorem ensures_ret (handler : Handler Op Reply World) (rely : World → World → Prop)
    (post : α → World → Prop) (refl : ∀ a, rely a a) (value : α) (world : World)
    (ensures : (Program.ret value).Ensures handler rely post world) : post value world :=
  ensures world (refl world)

theorem ensures_mono (handler : Handler Op Reply World) (rely : World → World → Prop)
    (post weaker : α → World → Prop) (weaken : ∀ value world, post value world → weaker value world)
    (program : Program Op Reply α) (world : World)
    (ensures : program.Ensures handler rely post world) : program.Ensures handler rely weaker world := by
  induction program generalizing world with
  | ret value => exact fun later moved => weaken value later (ensures later moved)
  | call op next ih => exact fun later moved reply answered => ih reply _ (ensures later moved reply answered)

theorem ensures_bind (handler : Handler Op Reply World) (rely : World → World → Prop)
    (post : β → World → Prop) (refl : ∀ a, rely a a) (program : Program Op Reply α)
    (next : α → Program Op Reply β) (world : World)
    (ensures : program.Ensures handler rely (fun value world => (next value).Ensures handler rely post world) world) :
    (program >>= next).Ensures handler rely post world := by
  induction program generalizing world with
  | ret value => exact ensures world (refl world)
  | call op step ih => exact fun later moved reply answered => ih reply _ (ensures later moved reply answered)

theorem ensures_of_stable (handler : Handler Op Reply World) (rely : World → World → Prop) (stable : World → Prop)
    (moved : ∀ a b, stable a → rely a b → stable b)
    (performed : ∀ world op reply, stable world → handler.answers world op reply → stable (handler.after world op reply))
    (program : Program Op Reply α) (world : World) (now : stable world) :
    program.Ensures handler rely (fun _ => stable) world := by
  induction program generalizing world with
  | ret value => exact fun later further => moved world later now further
  | call op next ih =>
      exact fun later further reply answered => ih reply _ (performed later op reply (moved world later now further) answered)

-- A protocol keeps a ghost state beside a program: it says which operations the
-- ghost state permits and how each reply moves it.
structure Protocol (Op : Type) (Reply : Op → Type) (Ghost : Type) where
  permits : Ghost → Op → Prop
  advance : Ghost → (op : Op) → Reply op → Ghost

variable {Ghost : Type}

def Program.Follows (protocol : Protocol Op Reply Ghost) (final : α → Ghost → Prop) :
    Program Op Reply α → Ghost → Prop
  | .ret value, ghost => final value ghost
  | .call op next, ghost => protocol.permits ghost op ∧
      ∀ reply, (next reply).Follows protocol final (protocol.advance ghost op reply)

theorem follows_mono (protocol : Protocol Op Reply Ghost) (final weaker : α → Ghost → Prop)
    (weaken : ∀ value ghost, final value ghost → weaker value ghost) (program : Program Op Reply α)
    (ghost : Ghost) (follows : program.Follows protocol final ghost) : program.Follows protocol weaker ghost := by
  induction program generalizing ghost with
  | ret value => exact weaken value ghost follows
  | call op next ih => exact ⟨follows.1, fun reply => ih reply _ (follows.2 reply)⟩

theorem follows_bind (protocol : Protocol Op Reply Ghost) (final : β → Ghost → Prop)
    (program : Program Op Reply α) (next : α → Program Op Reply β) (ghost : Ghost)
    (follows : program.Follows protocol (fun value ghost => (next value).Follows protocol final ghost) ghost) :
    (program >>= next).Follows protocol final ghost := by
  induction program generalizing ghost with
  | ret value => exact follows
  | call op step ih => exact ⟨follows.1, fun reply => ih reply _ (follows.2 reply)⟩

-- Two protocols over one ghost state, of which the first one sees a part.
def Protocol.both {View : Type} (first : Protocol Op Reply View) (second : Protocol Op Reply Ghost) (view : Ghost → View) :
    Protocol Op Reply Ghost :=
  ⟨fun ghost op => first.permits (view ghost) op ∧ second.permits ghost op, second.advance⟩

theorem follows_both {View : Type} (first : Protocol Op Reply View) (second : Protocol Op Reply Ghost) (view : Ghost → View)
    (agrees : ∀ ghost op reply, view (second.advance ghost op reply) = first.advance (view ghost) op reply)
    (final : α → View → Prop) (other : α → Ghost → Prop) (program : Program Op Reply α) (ghost : Ghost)
    (one : program.Follows first final (view ghost)) (two : program.Follows second other ghost) :
    program.Follows (first.both second view) (fun value ghost => final value (view ghost) ∧ other value ghost) ghost := by
  induction program generalizing ghost with
  | ret value => exact ⟨one, two⟩
  | call op next ih =>
      refine ⟨⟨one.1, two.1⟩, fun reply => ih reply _ ?_ (two.2 reply)⟩
      change (next reply).Follows first final (view (second.advance ghost op reply))
      rw [agrees]
      exact one.2 reply

-- Running a program alone in a world whose replies are a function of its state;
-- none is a call that blocks.
def Program.eval (answer : World → (op : Op) → Option (Reply op))
    (after : World → (op : Op) → Reply op → World) : Program Op Reply α → World → Option (α × World)
  | .ret value, world => some (value, world)
  | .call op next, world =>
      match answer world op with
      | none => none
      | some reply => (next reply).eval answer after (after world op reply)

-- A member function of an object: it reads and writes the fields of its object,
-- may throw, and keeps the fields it has written when it throws.
structure Method (Op : Type) (Reply : Op → Type) (Thrown Fields : Type) (α : Type) where
  run : Fields → Program Op Reply (Except Thrown α × Fields)

namespace Method

variable {Thrown Fields : Type}

def resume (next : α → Method Op Reply Thrown Fields β) :
    Except Thrown α × Fields → Program Op Reply (Except Thrown β × Fields)
  | (.ok value, self) => (next value).run self
  | (.error thrown, self) => .ret (.error thrown, self)

instance : Monad (Method Op Reply Thrown Fields) where
  pure value := ⟨fun self => .ret (.ok value, self)⟩
  bind method next := ⟨fun self => method.run self >>= resume next⟩

def raise (thrown : Thrown) : Method Op Reply Thrown Fields α := ⟨fun self => .ret (.error thrown, self)⟩

def this : Method Op Reply Thrown Fields Fields := ⟨fun self => .ret (.ok self, self)⟩

def assign (fields : Fields) : Method Op Reply Thrown Fields Unit := ⟨fun _ => .ret (.ok (), fields)⟩

def system (op : Op) : Method Op Reply Thrown Fields (Reply op) :=
  ⟨fun self => .call op fun reply => .ret (.ok reply, self)⟩

@[simp] theorem run_pure (value : α) (self : Fields) :
    (pure value : Method Op Reply Thrown Fields α).run self = .ret (.ok value, self) := rfl

@[simp] theorem run_raise (thrown : Thrown) (self : Fields) :
    (raise thrown : Method Op Reply Thrown Fields α).run self = .ret (.error thrown, self) := rfl

@[simp] theorem run_raise_bind (thrown : Thrown) (next : α → Method Op Reply Thrown Fields β) (self : Fields) :
    (raise thrown >>= next).run self = .ret (.error thrown, self) := rfl

@[simp] theorem run_this_bind (next : Fields → Method Op Reply Thrown Fields β) (self : Fields) :
    (this >>= next).run self = (next self).run self := rfl

@[simp] theorem run_assign (fields self : Fields) :
    (assign fields : Method Op Reply Thrown Fields Unit).run self = .ret (.ok (), fields) := rfl

@[simp] theorem run_system_bind (op : Op) (next : Reply op → Method Op Reply Thrown Fields β) (self : Fields) :
    (system op >>= next).run self = .call op fun reply => (next reply).run self := rfl

@[simp] theorem run_ite (condition : Prop) [Decidable condition] (yes no : Method Op Reply Thrown Fields α)
    (self : Fields) : (if condition then yes else no).run self = if condition then yes.run self else no.run self := by
  split <;> rfl

theorem run_bind (method : Method Op Reply Thrown Fields α) (next : α → Method Op Reply Thrown Fields β)
    (self : Fields) : (method >>= next).run self = method.run self >>= resume next := rfl

@[simp] theorem resume_ok (next : α → Method Op Reply Thrown Fields β) (value : α) (self : Fields) :
    resume next (.ok value, self) = (next value).run self := rfl

@[simp] theorem resume_error (next : α → Method Op Reply Thrown Fields β) (thrown : Thrown) (self : Fields) :
    resume next (.error thrown, self) = .ret (.error thrown, self) := rfl

end Method

end Semantics
