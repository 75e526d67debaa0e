import Mathlib.Data.List.Perm.Basic
import Mathlib.Data.List.Pairwise
import Mathlib.Logic.Function.Basic

set_option autoImplicit false

namespace Rcp.Threads.Capture

inductive Category where
  | lvalue
  | rvalue
deriving DecidableEq, Repr

-- One function argument of a constructor: a variable of the caller, as it is
-- passed. A temporary is a variable that nothing else names.
structure Item (Var : Type) where
  source : Var
  category : Category
deriving DecidableEq, Repr

def Item.move {Var : Type} (item : Item Var) : Item Var := ⟨item.source, .rvalue⟩

-- What a member of CallableImpl is: Function and Args are reference types for the
-- items that are passed as lvalues.
inductive Member (Var Value : Type) where
  | reference (source : Var)
  | value (value : Value)
deriving DecidableEq, Repr

inductive TupleOrder where
  | firstToLast
  | lastToFirst
deriving DecidableEq, Repr

def TupleOrder.arrange {Var : Type} (order : TupleOrder) (args : List (Item Var)) : List (Item Var) :=
  match order with
  | .firstToLast => args
  | .lastToFirst => args.reverse

theorem arrange_perm {Var : Type} (order : TupleOrder) (fn : Item Var) (args : List (Item Var)) :
    (fn :: order.arrange args).Perm (fn :: args) := by
  cases order with
  | firstToLast => exact .refl _
  | lastToFirst => exact .cons fn args.reverse_perm

variable {Var Value : Type} [DecidableEq Var]

abbrev Store (Var Value : Type) := Var → Value

structure CallableImpl (Var Value : Type) where
  callable : Member Var Value
  argumentsTuple : List (Member Var Value)

-- Initialises a member from std::forward<T>(item). `moved` is what a move leaves
-- behind in its source.
def Item.forward (moved : Value → Value) (item : Item Var) (store : Store Var Value) :
    Member Var Value × Store Var Value :=
  match item.category with
  | .lvalue => (.reference item.source, store)
  | .rvalue => (.value (store item.source), Function.update store item.source (moved (store item.source)))

def forwardAll (moved : Value → Value) : List (Item Var) → Store Var Value → List (Member Var Value) × Store Var Value
  | [], store => ([], store)
  | item :: rest, store =>
      let (member, between) := item.forward moved store
      let (members, after) := forwardAll moved rest between
      (member :: members, after)

-- std::tuple does not fix the order in which its elements are initialised.
def makeTuple (moved : Value → Value) (order : TupleOrder) (args : List (Item Var)) (store : Store Var Value) :
    List (Member Var Value) × Store Var Value :=
  match order with
  | .firstToLast => forwardAll moved args store
  | .lastToFirst =>
      let (members, after) := forwardAll moved args.reverse store
      (members.reverse, after)

-- Thread( StartStrategy, Function&& fn, Args&&... args ).
def threadWithStrategy (moved : Value → Value) (order : TupleOrder) (fn : Item Var) (args : List (Item Var))
    (store : Store Var Value) : CallableImpl Var Value × Store Var Value :=
  let (callable, between) := fn.forward moved store
  let (argumentsTuple, after) := makeTuple moved order args between
  (⟨callable, argumentsTuple⟩, after)

-- Thread( Function&& fn, Args&&... args ).
def thread (moved : Value → Value) (order : TupleOrder) (fn : Item Var) (args : List (Item Var))
    (store : Store Var Value) : CallableImpl Var Value × Store Var Value :=
  threadWithStrategy moved order fn.move (args.map Item.move) store

inductive Constructor where
  | withStrategy
  | plain
deriving DecidableEq, Repr

def Constructor.construct (constructor : Constructor) (moved : Value → Value) (order : TupleOrder) (fn : Item Var)
    (args : List (Item Var)) (store : Store Var Value) : CallableImpl Var Value × Store Var Value :=
  match constructor with
  | .withStrategy => threadWithStrategy moved order fn args store
  | .plain => thread moved order fn args store

def Member.received (store : Store Var Value) : Member Var Value → Value
  | .reference source => store source
  | .value held => held

-- std::apply( std::move( callable ), std::move( argumentsTuple ) ).
def CallableImpl.execute (self : CallableImpl Var Value) (store : Store Var Value) : Value × List Value :=
  (self.callable.received store, self.argumentsTuple.map (Member.received store))

def write (writes : List (Var × Value)) (store : Store Var Value) : Store Var Value :=
  writes.foldl (fun store entry => Function.update store entry.1 entry.2) store

def CapturesAsStdThread (constructor : Constructor) (moved : Value → Value) (order : TupleOrder) (fn : Item Var)
    (args : List (Item Var)) (store : Store Var Value) (writes : List (Var × Value)) : Prop :=
  let (callable, after) := constructor.construct moved order fn args store
  (∀ item ∈ fn :: args, item.category = .lvalue → after item.source = store item.source) ∧
    callable.execute (write writes after) = (store fn.source, args.map fun item => store item.source)

def Constructor.moves (constructor : Constructor) (item : Item Var) : Prop :=
  constructor = .plain ∨ item.category = .rvalue

def Shares (constructor : Constructor) (moved : Value → Value) (store : Store Var Value) (first second : Item Var) : Prop :=
  first.source = second.source → constructor.moves first ∨ constructor.moves second →
    moved (store first.source) = store first.source

-- Moving must not change what is moved from an lvalue or named twice, and what is
-- kept by reference must have its old value again when the thread runs.
def HoldsWhen (constructor : Constructor) (moved : Value → Value) (items : List (Item Var)) (store : Store Var Value)
    (writes : List (Var × Value)) : Prop :=
  (∀ item ∈ items, item.category = .lvalue →
    match constructor with
    | .withStrategy => write writes store item.source = store item.source
    | .plain => moved (store item.source) = store item.source) ∧
  items.Pairwise (Shares constructor moved store)

theorem write_apart (writes : List (Var × Value)) (first second : Store Var Value) (x : Var) (same : first x = second x) :
    write writes first x = write writes second x := by
  induction writes generalizing first second with
  | nil => exact same
  | cons entry rest ih =>
      refine ih _ _ ?_
      by_cases here : x = entry.1
      · simp [here]
      · simpa [Function.update_of_ne here] using same

def BothMoved (moved : Value → Value) (original : Store Var Value) (first second : Item Var) : Prop :=
  first.source = second.source → first.category = .rvalue → second.category = .rvalue →
    moved (original first.source) = original first.source

theorem forward_all_received (moved : Value → Value) (items : List (Item Var)) (store original run : Store Var Value) :
    (forwardAll moved items store).1.map (Member.received run) = items.map (fun item => original item.source) ↔
      (∀ item ∈ items, item.category = .lvalue → run item.source = original item.source) ∧
      (∀ item ∈ items, item.category = .rvalue → store item.source = original item.source) ∧
      items.Pairwise (BothMoved moved original) := by
  induction items generalizing store with
  | nil => simp [forwardAll]
  | cons item rest ih =>
      obtain ⟨source, category⟩ := item
      cases category with
      | lvalue => simp [forwardAll, Item.forward, Member.received, ih, BothMoved, and_assoc]
      | rvalue =>
          simp only [forwardAll, Item.forward, List.map_cons, List.cons.injEq, Member.received, ih, List.pairwise_cons,
            List.forall_mem_cons]
          constructor
          · intro received
            obtain ⟨here, lvalues, rvalues, pairs⟩ := received
            have fixed : ∀ item ∈ rest, BothMoved moved original ⟨source, .rvalue⟩ item := by
              intro item member same _ category
              have held := rvalues item member category
              dsimp only at same
              rwa [← same, Function.update_self, here] at held
            refine ⟨⟨by simp, lvalues⟩, ⟨fun _ => here, fun item member category => ?_⟩, fixed, pairs⟩
            by_cases same : item.source = source
            · rw [same, here]
            · simpa only [Function.update_of_ne same] using rvalues item member category
          · intro all
            obtain ⟨⟨_, lvalues⟩, ⟨here, rvalues⟩, fixed, pairs⟩ := all
            have here := here trivial
            refine ⟨here, lvalues, fun item member category => ?_, pairs⟩
            by_cases same : item.source = source
            · rw [same, Function.update_self, here]
              exact fixed item member same.symm rfl category
            · simpa only [Function.update_of_ne same] using rvalues item member category

theorem forward_all_untouched (moved : Value → Value) (items : List (Item Var)) (store : Store Var Value) (x : Var)
    (untouched : ∀ item ∈ items, item.category = .rvalue → item.source ≠ x) :
    (forwardAll moved items store).2 x = store x := by
  induction items generalizing store with
  | nil => rfl
  | cons item rest ih =>
      obtain ⟨first, others⟩ := List.forall_mem_cons.mp untouched
      obtain ⟨source, category⟩ := item
      cases category with
      | lvalue => exact ih store others
      | rvalue => exact (ih _ others).trans (Function.update_of_ne (first rfl).symm _ _)

theorem forward_all_moved (moved : Value → Value) (items : List (Item Var)) (store : Store Var Value) (x : Var)
    (pairs : items.Pairwise (BothMoved moved store)) (member : ⟨x, .rvalue⟩ ∈ items) :
    (forwardAll moved items store).2 x = moved (store x) := by
  induction items generalizing store with
  | nil => simp at member
  | cons item rest ih =>
      obtain ⟨first, others⟩ := List.pairwise_cons.mp pairs
      obtain ⟨source, category⟩ := item
      cases category with
      | lvalue => exact ih store others (by simpa using member)
      | rvalue =>
          -- A source that is moved again is one that a move does not change.
          have unchanged : ∀ y, ⟨y, .rvalue⟩ ∈ rest →
              Function.update store source (moved (store source)) y = store y := by
            intro y again
            by_cases same : y = source
            · rw [same, Function.update_self]
              exact first _ again same.symm rfl rfl
            · exact Function.update_of_ne same _ _
          have later : rest.Pairwise (BothMoved moved (Function.update store source (moved (store source)))) := by
            refine others.imp_of_mem fun {left right} memberLeft _ both same leftMoved rightMoved => ?_
            obtain ⟨y, _⟩ := left
            subst leftMoved
            rw [unchanged y memberLeft]
            exact both same rfl rightMoved
          by_cases again : ⟨x, .rvalue⟩ ∈ rest
          · exact (ih _ later again).trans (congrArg moved (unchanged x again))
          · have here : x = source := by simpa [again] using member
            subst here
            refine (forward_all_untouched moved rest _ x ?_).trans (Function.update_self _ _ _)
            rintro ⟨y, _⟩ inside rfl rfl
            exact again inside

instance shares_symmetric (constructor : Constructor) (moved : Value → Value) (store : Store Var Value) :
    Std.Symm (Shares constructor moved store) where
  symm first second shares same moves := by
    rw [same]
    exact shares same.symm moves.symm

theorem forward_all_captures (moved : Value → Value) (items : List (Item Var)) (store : Store Var Value)
    (writes : List (Var × Value)) :
    (∀ item ∈ items, item.category = .lvalue → (forwardAll moved items store).2 item.source = store item.source) ∧
      (forwardAll moved items store).1.map (Member.received (write writes (forwardAll moved items store).2)) =
        items.map (fun item => store item.source) ↔
    HoldsWhen .withStrategy moved items store writes := by
  rw [forward_all_received]
  constructor
  · intro halves
    obtain ⟨alone, lvalues, _, pairs⟩ := halves
    refine ⟨fun item member category => ?_, pairs.imp_of_mem fun {first second} memberFirst memberSecond both same moves => ?_⟩
    · rw [← lvalues item member category]
      exact write_apart writes _ _ item.source (alone item member category).symm
    · obtain ⟨x, firstCategory⟩ := first
      obtain ⟨y, secondCategory⟩ := second
      cases same
      cases firstCategory with
      | lvalue =>
          cases secondCategory with
          | lvalue => simp [Constructor.moves] at moves
          | rvalue => exact (forward_all_moved moved items store x pairs memberSecond).symm.trans (alone _ memberFirst rfl)
      | rvalue =>
          cases secondCategory with
          | lvalue => exact (forward_all_moved moved items store x pairs memberFirst).symm.trans (alone _ memberSecond rfl)
          | rvalue => exact both rfl rfl rfl
  · intro conditions
    obtain ⟨rewritten, shares⟩ := conditions
    have pairs : items.Pairwise (BothMoved moved store) :=
      shares.imp fun share same firstMoved _ => share same (.inl (.inr firstMoved))
    have alone : ∀ item ∈ items, item.category = .lvalue →
        (forwardAll moved items store).2 item.source = store item.source := by
      intro item member category
      by_cases also : ⟨item.source, .rvalue⟩ ∈ items
      · rw [forward_all_moved moved items store item.source pairs also]
        have different : item ≠ ⟨item.source, .rvalue⟩ := by
          intro same
          rw [same] at category
          cases category
        exact shares.forall member also different rfl (.inr (.inr rfl))
      · refine forward_all_untouched moved items store item.source ?_
        rintro ⟨x, _⟩ inside rfl rfl
        exact also inside
    refine ⟨alone, fun item member category => ?_, fun _ _ _ => rfl, pairs⟩
    rw [← rewritten item member category]
    exact write_apart writes _ _ item.source ((alone item member category).trans rfl)

theorem with_strategy_store (moved : Value → Value) (order : TupleOrder) (fn : Item Var) (args : List (Item Var))
    (store : Store Var Value) : (threadWithStrategy moved order fn args store).2 =
      (forwardAll moved (fn :: order.arrange args) store).2 := by
  cases order <;> rfl

theorem with_strategy_execute (moved : Value → Value) (order : TupleOrder) (fn : Item Var) (args : List (Item Var))
    (store run : Store Var Value) :
    (threadWithStrategy moved order fn args store).1.execute run = (store fn.source, args.map fun item => store item.source) ↔
      (forwardAll moved (fn :: order.arrange args) store).1.map (Member.received run) =
        (fn :: order.arrange args).map fun item => store item.source := by
  cases order with
  | firstToLast => simp [threadWithStrategy, makeTuple, CallableImpl.execute, forwardAll, TupleOrder.arrange]
  | lastToFirst =>
      simp only [threadWithStrategy, makeTuple, CallableImpl.execute, forwardAll, TupleOrder.arrange, List.map_cons,
        List.map_reverse, List.cons.injEq, Prod.mk.injEq]
      refine and_congr_right fun _ => ?_
      rw [List.reverse_eq_iff]

theorem holds_when_perm (constructor : Constructor) (moved : Value → Value) (items others : List (Item Var))
    (store : Store Var Value) (writes : List (Var × Value)) (perm : items.Perm others) :
    HoldsWhen constructor moved items store writes ↔ HoldsWhen constructor moved others store writes := by
  refine and_congr ?_ ?_
  · simp only [perm.mem_iff]
  · exact perm.pairwise_iff fun {_ _} => Std.Symm.symm _ _

theorem with_strategy_captures (moved : Value → Value) (order : TupleOrder) (fn : Item Var) (args : List (Item Var))
    (store : Store Var Value) (writes : List (Var × Value)) :
    CapturesAsStdThread .withStrategy moved order fn args store writes ↔
      HoldsWhen .withStrategy moved (fn :: args) store writes := by
  rw [← holds_when_perm .withStrategy moved _ _ store writes (arrange_perm order fn args), ← forward_all_captures]
  simp only [CapturesAsStdThread, Constructor.construct, with_strategy_execute, with_strategy_store,
    (arrange_perm order fn args).mem_iff]

instance both_moved_symmetric (moved : Value → Value) (original : Store Var Value) :
    Std.Symm (BothMoved moved original) where
  symm first second both same firstMoved secondMoved := by
    rw [same]
    exact both same.symm secondMoved firstMoved

theorem plain_execute (moved : Value → Value) (order : TupleOrder) (fn : Item Var) (args : List (Item Var))
    (store run : Store Var Value) :
    (thread moved order fn args store).1.execute run = (store fn.source, args.map fun item => store item.source) ↔
      ((fn :: args).map Item.move).Pairwise (BothMoved moved store) := by
  have sources : (args.map fun item => store item.source) = (args.map Item.move).map fun item => store item.source := by
    rw [List.map_map]
    rfl
  have perm := arrange_perm order fn.move (args.map Item.move)
  have rvalues : ∀ item ∈ fn.move :: order.arrange (args.map Item.move), item.category = .rvalue := by
    intro item member
    have among := perm.mem_iff.mp member
    rcases List.mem_cons.mp among with rfl | later
    · rfl
    · obtain ⟨_, _, rfl⟩ := List.mem_map.mp later
      rfl
  rw [thread, sources, show store fn.source = store fn.move.source from rfl, with_strategy_execute, forward_all_received,
    perm.pairwise_iff fun {_ _} => Std.Symm.symm _ _]
  refine ⟨fun all => all.2.2, fun pairs => ⟨fun item member category => ?_, fun _ _ _ => rfl, pairs⟩⟩
  rw [rvalues item member] at category
  cases category

theorem plain_store (moved : Value → Value) (order : TupleOrder) (fn : Item Var) (args : List (Item Var))
    (store : Store Var Value) (pairs : ((fn :: args).map Item.move).Pairwise (BothMoved moved store)) (item : Item Var)
    (member : item ∈ fn :: args) : (thread moved order fn args store).2 item.source = moved (store item.source) := by
  have perm := arrange_perm order fn.move (args.map Item.move)
  rw [thread, with_strategy_store]
  refine forward_all_moved moved _ store item.source ?_ (perm.mem_iff.mpr (List.mem_map_of_mem (f := Item.move) member))
  exact (perm.pairwise_iff fun {_ _} => Std.Symm.symm _ _).mpr pairs

theorem plain_captures (moved : Value → Value) (order : TupleOrder) (fn : Item Var) (args : List (Item Var))
    (store : Store Var Value) (writes : List (Var × Value)) :
    CapturesAsStdThread .plain moved order fn args store writes ↔ HoldsWhen .plain moved (fn :: args) store writes := by
  have shared : ((fn :: args).map Item.move).Pairwise (BothMoved moved store) ↔
      (fn :: args).Pairwise (Shares .plain moved store) := by
    rw [List.pairwise_map]
    refine List.Pairwise.iff fun first second => ?_
    simp [BothMoved, Shares, Item.move, Constructor.moves]
  simp only [CapturesAsStdThread, Constructor.construct, plain_execute, HoldsWhen, ← shared]
  refine and_congr_left fun pairs => forall₃_congr fun item member _ => ?_
  rw [plain_store moved order fn args store pairs item member]

theorem captures_as_std_thread (constructor : Constructor) (moved : Value → Value) (order : TupleOrder) (fn : Item Var)
    (args : List (Item Var)) (store : Store Var Value) (writes : List (Var × Value)) :
    CapturesAsStdThread constructor moved order fn args store writes ↔
      HoldsWhen constructor moved (fn :: args) store writes := by
  cases constructor with
  | withStrategy => exact with_strategy_captures moved order fn args store writes
  | plain => exact plain_captures moved order fn args store writes

-- A move leaves 0 behind. The caller passes its variable 1 as an lvalue and then
-- overwrites it; or it looks at it after the plain constructor.
theorem captures_otherwise :
    ¬ CapturesAsStdThread .withStrategy (fun _ => 0) .firstToLast ⟨0, .rvalue⟩ [⟨1, .lvalue⟩] (fun _ => 5) [((1 : Nat), 6)] ∧
      ¬ CapturesAsStdThread .plain (fun _ => 0) .firstToLast ⟨0, .rvalue⟩ [⟨1, .lvalue⟩] (fun _ => 5) [((1 : Nat), 5)] := by
  refine ⟨fun captures => ?_, fun captures => ?_⟩
  · have received : [6] = [5] := congrArg Prod.snd captures.2
    simp at received
  · have left : 0 = 5 := captures.1 ⟨1, .lvalue⟩ (by simp) rfl
    simp at left

end Rcp.Threads.Capture
