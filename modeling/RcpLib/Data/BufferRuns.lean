import RcpLib.Data.BufferMemory

set_option autoImplicit false

namespace Rcp.Data

open Semantics

def Buffer.Terminated : Buffer → Prop
  | .string m_data => m_data.memory.drop (m_data.length * m_data.charSize) = List.replicate m_data.charSize 0
  | _ => True

-- The last character of a std::string may only be overwritten with NUL.
def KeepsNul (heap : Heap) (buffer : Ref) (offset : Nat) (byte : UInt8) : Prop :=
  ∀ place m_data, heap.data buffer = some place → find place heap.cells = some (.string m_data) →
    m_data.length * m_data.charSize ≤ offset → byte = 0

-- What the constructors make that take no Buffer. NUL is represented by zero bytes.
inductive Constructed : Buffer → Prop where
  | ofData (data : List UInt8) : Constructed (VectorBuffer.ofData data)
  | ofLength (length : Nat) : Constructed (VectorBuffer.ofLength length)
  | typed {T : Type} (layout : Layout T) (value : T) : Constructed (TypedBuffer.construct layout value)
  | string {Char : Type} [OfNat Char 0] (layout : Layout Char) (nul : layout.encode 0 = List.replicate layout.size 0)
      (text : List Char) : Constructed (StringBuffer.construct layout text)

-- What the program promises: it uses a buffer through a shared_ptr that it has, and
-- writes inside of data() and size().
def Permitted (heap : Heap) : BufferAction → Prop
  | .make buffer => Constructed buffer
  | .share buffer => heap.owners buffer ≠ 0
  | .shareMove buffer => heap.owners buffer ≠ 0
  | .copy buffer => heap.owners buffer ≠ 0
  | .drop buffer => heap.owners buffer ≠ 0
  | .write buffer offset byte => heap.owners buffer ≠ 0 ∧ (∃ size, heap.size buffer = some size ∧ offset < size) ∧
      KeepsNul heap buffer offset byte

-- A state that has used an object after its end is none.
def buffers : Lts (Option Heap) BufferAction where
  initial state := state = some Heap.empty
  step before action after := ∃ heap, before = some heap ∧ Permitted heap action ∧ after = heap.perform action

def memoryAfter : List (Option Heap × BufferAction) → SharedMemory
  | [] => .empty
  | (_, action) :: trail => (memoryAfter trail).perform action

def AllTerminated (heap : Heap) : Prop := ∀ ref buffer, find ref heap.cells = some buffer → buffer.Terminated

theorem string_construct_terminated {Char : Type} [OfNat Char 0] (layout : Layout Char)
    (nul : layout.encode 0 = List.replicate layout.size 0) (text : List Char) :
    (StringBuffer.construct layout text).Terminated := by
  have sized : text.length * layout.size = (layout.encodeAll text).length := (layout.encode_all_length text).symm
  simp [StringBuffer.construct, Buffer.Terminated, layout.encode_all_append, sized, nul]

theorem constructed_refers (buffer : Buffer) (constructed : Constructed buffer) : referred buffer = none := by
  cases constructed <;> rfl

theorem constructed_terminated (buffer : Buffer) (constructed : Constructed buffer) : buffer.Terminated := by
  cases constructed with
  | ofData | ofLength | typed => trivial
  | string layout nul text => exact string_construct_terminated layout nul text

theorem owned_live (heap : Heap) (sound : Sound none heap) (ref : Ref) (owned : heap.owners ref ≠ 0) :
    find ref heap.cells ≠ none := by
  apply (sound.live ref).mpr
  rw [sound.counted]
  omega

theorem refines_perform (heap : Heap) (model : SharedMemory) (refines : Refines heap model) (action : BufferAction)
    (permitted : Permitted heap action) :
    ∃ later, heap.perform action = some later ∧ Refines later (model.perform action) := by
  cases action with
  | make buffer => exact ⟨_, rfl, refines_make heap model refines buffer (constructed_refers buffer permitted)⟩
  | share buffer =>
      have live := owned_live heap refines.sound buffer permitted
      have retained := retained_sound heap buffer refines.sound ((refines.sound.live buffer).mp live)
      exact ⟨_, rfl, refines_alias heap model refines buffer _ live retained rfl rfl⟩
  | shareMove buffer =>
      have live := owned_live heap refines.sound buffer permitted
      have disowned := disowned_sound heap buffer refines.sound permitted
      exact ⟨_, rfl, refines_alias heap model refines buffer _ live disowned rfl rfl⟩
  | copy buffer =>
      have live := owned_live heap refines.sound buffer permitted
      have retained := retained_sound heap buffer refines.sound ((refines.sound.live buffer).mp live)
      refine ⟨_, rfl, owned_sound _ buffer retained, refines.next, fun ref now => ?_⟩
      exact represents_same_cells heap _ model ref (refines.represents ref now) rfl
  | drop buffer => exact refines_drop heap model refines buffer permitted
  | write buffer offset byte =>
      exact refines_write heap model refines buffer offset byte (owned_live heap refines.sound buffer permitted.1)

theorem buffers_run (trail : List (Option Heap × BufferAction)) (state : Option Heap) (run : Run buffers trail state) :
    ∃ heap, state = some heap ∧ Refines heap (memoryAfter trail) := by
  refine run_invariant buffers (fun trail state => ∃ heap, state = some heap ∧ Refines heap (memoryAfter trail))
    ?_ ?_ trail state run
  · intro start initial
    refine ⟨Heap.empty, initial, ⟨?_, ?_, ?_, ?_, ?_⟩, rfl, ?_⟩ <;> simp [Heap.empty, Distinct, find, holders]
  · intro trail before action after _ earlier taken
    obtain ⟨heap, here, refines⟩ := earlier
    obtain ⟨self, same, permitted, result⟩ := taken
    obtain rfl : heap = self := Option.some.inj (here.symm.trans same)
    obtain ⟨later, performed, kept⟩ := refines_perform heap (memoryAfter trail) refines action permitted
    exact ⟨later, result.trans performed, kept⟩

theorem shared_buffers_refine (trail : List (Option Heap × BufferAction)) (state : Option Heap)
    (run : Run buffers trail state) : ∃ heap, state = some heap ∧ ∀ ref, heap.owners ref ≠ 0 →
      heap.data ref = some ((memoryAfter trail).region ref) ∧
      heap.size ref = some ((memoryAfter trail).contents ref).length ∧
      ∀ offset, heap.read ref offset = ((memoryAfter trail).contents ref)[offset]? := by
  obtain ⟨heap, here, refines⟩ := buffers_run trail state run
  exact ⟨heap, here, fun ref owned =>
    refines_observed heap _ refines ref (owned_live heap refines.sound ref owned)⟩

-- A reference is to an older buffer, so the newest buffers have none to them: without
-- a shared_ptr of the program, they and then all others are gone.
theorem all_gone (heap : Heap) (sound : Sound none heap) (unowned : ∀ ref, heap.owners ref = 0) : heap.cells = [] := by
  have absent : ∀ distance ref, heap.next ≤ ref + distance → find ref heap.cells = none := by
    intro distance
    induction distance with
    | zero =>
        intro ref beyond
        by_contra present
        exact Nat.not_lt_of_le beyond (sound.bounded ref ((sound.live ref).mp present))
    | succ distance ih =>
        intro ref beyond
        by_contra present
        have counted := (sound.live ref).mp present
        rw [sound.counted, unowned] at counted
        have held : 0 < holders (pointsTo ref) heap.cells := by
          simp only [reduceCtorEq, if_false] at counted
          omega
        obtain ⟨⟨newer, buffer⟩, member, refers⟩ := List.countP_pos_iff.mp held
        obtain rfl : buffer = .shared ref := by
          cases buffer <;> simp_all [pointsTo]
        have found := (find_iff_mem newer _ heap.cells sound.distinct).mpr member
        have later := sound.acyclic newer ref found
        rw [ih newer (Nat.le_trans beyond (by rw [← Nat.succ_add_eq_add_succ]; exact Nat.add_le_add_right later distance))] at found
        cases found
  cases cells : heap.cells with
  | nil => rfl
  | cons binding rest =>
      have gone := absent heap.next binding.1 (Nat.le_add_left heap.next binding.1)
      rw [cells] at gone
      simp [find] at gone

theorem buffers_live_while_owned (trail : List (Option Heap × BufferAction)) (state : Option Heap)
    (run : Run buffers trail state) : ∃ heap, state = some heap ∧
      (∀ ref, heap.counts ref = heap.owners ref + holders (pointsTo ref) heap.cells) ∧
      (∀ ref, find ref heap.cells ≠ none ↔ heap.owners ref ≠ 0 ∨ ∃ newer, find newer heap.cells = some (.shared ref)) ∧
      ((∀ ref, heap.owners ref = 0) → heap.cells = []) := by
  obtain ⟨heap, here, refines⟩ := buffers_run trail state run
  have sound := refines.sound
  have counted : ∀ ref, heap.counts ref = heap.owners ref + holders (pointsTo ref) heap.cells := by
    simpa using sound.counted
  refine ⟨heap, here, counted, fun ref => ?_, all_gone heap sound⟩
  constructor
  · intro live
    by_cases owned : heap.owners ref = 0
    · have some_count := (sound.live ref).mp live
      have held : 0 < holders (pointsTo ref) heap.cells := by
        rw [counted, owned] at some_count
        omega
      obtain ⟨⟨newer, buffer⟩, member, refers⟩ := List.countP_pos_iff.mp held
      obtain rfl : buffer = .shared ref := by
        cases buffer <;> simp_all [pointsTo]
      exact .inr ⟨newer, (find_iff_mem newer _ heap.cells sound.distinct).mpr member⟩
    · exact .inl owned
  · intro kept
    rcases kept with owned | ⟨newer, found⟩
    · exact owned_live heap sound ref owned
    · exact shared_alive heap sound newer ref found

theorem set_terminated (heap : Heap) (ref place : Ref) (buffer : Buffer) (offset : Nat) (byte : UInt8)
    (at_place : heap.data ref = some place) (found : find place heap.cells = some buffer) (ended : buffer.Terminated)
    (keeps : KeepsNul heap ref offset byte) : (buffer.set offset byte).Terminated := by
  cases buffer with
  | string m_data =>
      have nul : m_data.memory.drop (m_data.length * m_data.charSize) = List.replicate m_data.charSize 0 := ended
      simp only [Buffer.set, StringMemory.set, Buffer.Terminated, List.drop_set]
      split
      · exact nul
      · rename_i beyond
        rw [keeps place m_data at_place found (Nat.le_of_not_lt beyond), nul, List.set_replicate_self]
  | _ => trivial

theorem terminated_perform (heap later : Heap) (model : SharedMemory) (refines : Refines heap model)
    (ended : AllTerminated heap) (action : BufferAction) (permitted : Permitted heap action)
    (performed : heap.perform action = some later) : AllTerminated later := by
  have made (given : Heap) (buffer : Buffer) (cells : given.cells = heap.cells) (new : buffer.Terminated) :
      AllTerminated (given.make buffer) := by
    intro ref other found
    simp only [Heap.make, find_store, cells] at found
    by_cases fresh : ref = given.next
    · obtain rfl : buffer = other := by simpa [fresh] using found
      exact new
    · exact ended ref other (by simpa [fresh] using found)
  cases action with
  | make buffer =>
      cases performed
      exact made heap buffer rfl (constructed_terminated buffer permitted)
  | share buffer =>
      cases performed
      exact made _ (.shared buffer) rfl trivial
  | shareMove buffer =>
      cases performed
      exact made _ (.shared buffer) rfl trivial
  | copy buffer =>
      cases performed
      exact ended
  | drop buffer =>
      have disowned := disowned_sound heap buffer refines.sound permitted
      have counted := pending_counted { heap with owners := Function.update heap.owners buffer (heap.owners buffer - 1) }
        buffer disowned
      obtain ⟨left, released, _, shrinks⟩ :=
        release_sound heap.next _ buffer disowned (refines.sound.bounded buffer counted)
      obtain rfl : left = later := Option.some.inj (released.symm.trans performed)
      intro ref other found
      rcases shrinks.cells ref with same | gone
      · exact ended ref other (same.symm.trans found)
      · rw [gone] at found
        cases found
  | write buffer offset byte =>
      have place := (refines_observed heap model refines buffer (owned_live heap refines.sound buffer permitted.1)).1
      obtain ⟨target, found, _⟩ := leads_end heap buffer _
        (refines.represents buffer (owned_live heap refines.sound buffer permitted.1)).leads
      have written := set_terminated heap buffer _ target offset byte place found (ended _ target found) permitted.2.2
      simp only [Heap.perform, Heap.write, place, found, Option.bind_eq_bind, Option.bind_some, Option.some.injEq] at performed
      subst performed
      intro ref other there
      simp only [find_store] at there
      by_cases same : ref = model.region buffer
      · obtain rfl : target.set offset byte = other := by simpa [same] using there
        exact written
      · exact ended ref other (by simpa [same] using there)

theorem string_buffers_terminated (trail : List (Option Heap × BufferAction)) (state : Option Heap)
    (run : Run buffers trail state) : ∃ heap, state = some heap ∧ ∀ ref place m_data, heap.owners ref ≠ 0 →
      heap.data ref = some place → find place heap.cells = some (.string m_data) →
        heap.size ref = some ((m_data.length + 1) * m_data.charSize) ∧
        ∀ k, k < m_data.charSize → heap.read ref (m_data.length * m_data.charSize + k) = some 0 := by
  have ended : ∃ heap, state = some heap ∧ AllTerminated heap := by
    refine run_invariant buffers (fun _ state => ∃ heap, state = some heap ∧ AllTerminated heap) ?_ ?_ trail state run
    · intro start initial
      exact ⟨Heap.empty, initial, fun ref buffer found => by simp [Heap.empty, find] at found⟩
    · intro trail before action after previous earlier taken
      obtain ⟨heap, here, kept⟩ := earlier
      obtain ⟨self, same, permitted, result⟩ := taken
      obtain ⟨other, there, refines⟩ := buffers_run trail before previous
      obtain rfl : heap = self := Option.some.inj (here.symm.trans same)
      obtain rfl : heap = other := Option.some.inj (here.symm.trans there)
      obtain ⟨later, performed, _⟩ := refines_perform heap (memoryAfter trail) refines action permitted
      exact ⟨later, result.trans performed, terminated_perform heap later _ refines kept action permitted performed⟩
  obtain ⟨heap, here, kept⟩ := ended
  obtain ⟨other, there, refines⟩ := buffers_run trail state run
  obtain rfl : heap = other := Option.some.inj (here.symm.trans there)
  refine ⟨heap, here, fun ref place m_data owned at_place found => ?_⟩
  have live := owned_live heap refines.sound ref owned
  obtain ⟨placed, sized, _⟩ := refines_observed heap _ refines ref live
  obtain rfl : (memoryAfter trail).region ref = place := Option.some.inj (placed.symm.trans at_place)
  have bytes := (refines.represents ref live).bytes _ found
  refine ⟨?_, fun k inside => ?_⟩
  · rw [sized, ← bytes, Buffer.bytes, m_data.sized]
  · have nul : m_data.memory.drop (m_data.length * m_data.charSize) = List.replicate m_data.charSize 0 := kept _ _ found
    simp only [Heap.read, placed, found, Option.bind_eq_bind, Option.bind_some, Buffer.bytes]
    rw [← List.getElem?_drop, nul]
    simp [inside]

def sampleString : Buffer := StringBuffer.construct byteLayout [0x41]

theorem run_perform (trail : List (Option Heap × BufferAction)) (heap later : Heap) (run : Run buffers trail (some heap))
    (action : BufferAction) (permitted : Permitted heap action) (performed : heap.perform action = some later) :
    Run buffers ((some heap, action) :: trail) (some later) :=
  .step trail _ action _ run ⟨heap, rfl, permitted, performed.symm⟩

theorem sample_run : ∃ trail heap, Run buffers trail (some heap) ∧ heap.owners 1 ≠ 0 ∧ heap.data 1 = some 0 ∧
    ∃ m_data, find 0 heap.cells = some (.string m_data) ∧ 0 < m_data.charSize := by
  have start : Run buffers [] (some Heap.empty) := .start _ rfl
  have made := run_perform _ _ _ start (.make sampleString) (.string byteLayout rfl [0x41]) rfl
  have shared := run_perform _ _ _ made (.share 0) Nat.one_ne_zero rfl
  have written := run_perform _ _ _ shared (.write 1 0 0x42)
    ⟨by decide, ⟨2, rfl, by decide⟩, fun place m_data at_place found low => by
      cases at_place
      cases found
      exact absurd low (by decide)⟩ rfl
  have dropped := run_perform _ _ _ written (.drop 0) Nat.one_ne_zero rfl
  exact ⟨_, _, dropped, by decide, rfl, _, rfl, by decide⟩

theorem shared_buffers_refine_sample : ∃ trail heap, Run buffers trail (some heap) ∧ heap.owners 1 ≠ 0 ∧
    ∀ offset, heap.read 1 offset = ((memoryAfter trail).contents 1)[offset]? := by
  obtain ⟨trail, heap, run, owned, _⟩ := sample_run
  obtain ⟨other, same, observed⟩ := shared_buffers_refine trail (some heap) run
  obtain rfl := Option.some.inj same
  exact ⟨trail, heap, run, owned, (observed 1 owned).2.2⟩

theorem buffers_live_while_owned_sample : ∃ trail heap, Run buffers trail (some heap) ∧ heap.owners 1 ≠ 0 ∧
    find 1 heap.cells ≠ none := by
  obtain ⟨trail, heap, run, owned, _⟩ := sample_run
  obtain ⟨other, same, _, live, _⟩ := buffers_live_while_owned trail (some heap) run
  obtain rfl := Option.some.inj same
  exact ⟨trail, heap, run, owned, (live 1).mpr (.inl owned)⟩

theorem string_buffers_terminated_sample : ∃ trail heap, ∃ m_data : StringMemory, Run buffers trail (some heap) ∧
    heap.read 1 (m_data.length * m_data.charSize + 0) = some 0 := by
  obtain ⟨trail, heap, run, owned, place, m_data, found, some_char⟩ := sample_run
  obtain ⟨other, same, ended⟩ := string_buffers_terminated trail (some heap) run
  obtain rfl := Option.some.inj same
  exact ⟨trail, heap, m_data, run, (ended 1 0 m_data owned place found).2 0 some_char⟩

end Rcp.Data
