import RcpLib.Data.BufferLife

set_option autoImplicit false

namespace Rcp.Data

open Semantics

-- Where the chain of SharedBuffers from an object ends.
inductive Leads (heap : Heap) : Ref → Ref → Prop where
  | root (ref : Ref) (buffer : Buffer) (found : find ref heap.cells = some buffer) (own : referred buffer = none) :
      Leads heap ref ref
  | step (ref m_buffer root : Ref) (found : find ref heap.cells = some (.shared m_buffer))
      (further : Leads heap m_buffer root) : Leads heap ref root

theorem leads_end (heap : Heap) (ref root : Ref) (leads : Leads heap ref root) :
    ∃ buffer, find root heap.cells = some buffer ∧ referred buffer = none := by
  induction leads with
  | root ref buffer found own => exact ⟨buffer, found, own⟩
  | step ref m_buffer root found further ih => exact ih

theorem shared_alive (heap : Heap) (sound : Sound none heap) (ref m_buffer : Ref)
    (found : find ref heap.cells = some (.shared m_buffer)) : find m_buffer heap.cells ≠ none := by
  have held : 0 < holders (pointsTo m_buffer) heap.cells :=
    List.countP_pos_iff.mpr ⟨(ref, .shared m_buffer), mem_of_find ref _ heap.cells found, by simp [pointsTo]⟩
  apply (sound.live m_buffer).mpr
  rw [sound.counted]
  omega

theorem leads_data (heap : Heap) (sound : Sound none heap) (ref root : Ref) (leads : Leads heap ref root) (fuel : Nat)
    (enough : ref < fuel) : data fuel heap ref = some root := by
  induction leads generalizing fuel with
  | root ref buffer found own =>
      cases fuel with
      | zero => exact absurd enough (Nat.not_lt_zero ref)
      | succ fuel =>
          cases buffer with
          | shared m_buffer => simp [referred] at own
          | _ => simp [data, found]
  | step ref m_buffer root found further ih =>
      cases fuel with
      | zero => exact absurd enough (Nat.not_lt_zero ref)
      | succ fuel =>
          have older := Nat.lt_of_lt_of_le (sound.acyclic ref m_buffer found) (Nat.le_of_lt_succ enough)
          simpa [data, found] using ih fuel older

theorem leads_size (heap : Heap) (sound : Sound none heap) (ref root : Ref) (leads : Leads heap ref root) (fuel : Nat)
    (enough : ref < fuel) (buffer : Buffer) (place : find root heap.cells = some buffer) :
    size fuel heap ref = some buffer.bytes.length := by
  induction leads generalizing fuel with
  | root ref other found own =>
      cases fuel with
      | zero => exact absurd enough (Nat.not_lt_zero ref)
      | succ fuel =>
          obtain rfl : other = buffer := Option.some.inj (found.symm.trans place)
          cases other with
          | shared m_buffer => simp [referred] at own
          | string m_data => simp [size, found, Buffer.bytes, m_data.sized]
          | _ => simp [size, found, Buffer.bytes]
  | step ref m_buffer root found further ih =>
      cases fuel with
      | zero => exact absurd enough (Nat.not_lt_zero ref)
      | succ fuel =>
          have older := Nat.lt_of_lt_of_le (sound.acyclic ref m_buffer found) (Nat.le_of_lt_succ enough)
          simpa [size, found] using ih fuel older place

theorem leads_shrunk (heap later : Heap) (sound : Sound none later) (shrinks : Shrinks heap later) (ref root : Ref)
    (leads : Leads heap ref root) (live : find ref later.cells ≠ none) : Leads later ref root := by
  induction leads with
  | root ref buffer found own =>
      rcases shrinks.cells ref with same | gone
      · exact .root ref buffer (same.trans found) own
      · exact absurd gone live
  | step ref m_buffer root found further ih =>
      rcases shrinks.cells ref with same | gone
      · exact .step ref m_buffer root (same.trans found) (ih (shared_alive later sound ref m_buffer (same.trans found)))
      · exact absurd gone live

theorem leads_kept (heap later : Heap) (ref root : Ref) (leads : Leads heap ref root)
    (kept : ∀ x buffer, find x heap.cells = some buffer →
      ∃ changed, find x later.cells = some changed ∧ referred changed = referred buffer) : Leads later ref root := by
  induction leads with
  | root ref buffer found own =>
      obtain ⟨changed, now, same⟩ := kept ref buffer found
      exact .root ref changed now (same.trans own)
  | step ref m_buffer root found further ih =>
      obtain ⟨changed, now, same⟩ := kept ref _ found
      obtain rfl : changed = .shared m_buffer := by
        cases changed <;> simp_all [referred]
      exact .step ref m_buffer root now ih

-- What the buffers are for: regions of memory, and for each buffer the region that
-- it gives access to.
structure SharedMemory where
  next : Ref
  region : Ref → Ref
  memory : Ref → List UInt8

def SharedMemory.empty : SharedMemory := ⟨0, fun _ => 0, fun _ => []⟩

def SharedMemory.contents (model : SharedMemory) (ref : Ref) : List UInt8 := model.memory (model.region ref)

def SharedMemory.alias (model : SharedMemory) (ref : Ref) : SharedMemory where
  next := model.next + 1
  region := Function.update model.region model.next (model.region ref)
  memory := model.memory

def SharedMemory.perform (model : SharedMemory) : BufferAction → SharedMemory
  | .make buffer => ⟨model.next + 1, Function.update model.region model.next model.next,
      Function.update model.memory model.next buffer.bytes⟩
  | .share buffer => model.alias buffer
  | .shareMove buffer => model.alias buffer
  | .copy _ => model
  | .drop _ => model
  | .write buffer offset byte => { model with
      memory := Function.update model.memory (model.region buffer) ((model.contents buffer).set offset byte) }

structure Represents (heap : Heap) (model : SharedMemory) (ref : Ref) : Prop where
  leads : Leads heap ref (model.region ref)
  bytes : ∀ buffer, find (model.region ref) heap.cells = some buffer → buffer.bytes = model.contents ref

structure Refines (heap : Heap) (model : SharedMemory) : Prop where
  sound : Sound none heap
  next : model.next = heap.next
  represents : ∀ ref, find ref heap.cells ≠ none → Represents heap model ref

theorem refines_observed (heap : Heap) (model : SharedMemory) (refines : Refines heap model) (ref : Ref)
    (live : find ref heap.cells ≠ none) :
    heap.data ref = some (model.region ref) ∧ heap.size ref = some (model.contents ref).length ∧
      ∀ offset, heap.read ref offset = (model.contents ref)[offset]? := by
  have represents := refines.represents ref live
  have bound := refines.sound.bounded ref ((refines.sound.live ref).mp live)
  obtain ⟨buffer, found, _⟩ := leads_end heap ref _ represents.leads
  have bytes := represents.bytes buffer found
  have place := leads_data heap refines.sound ref _ represents.leads heap.next bound
  refine ⟨place, ?_, fun offset => ?_⟩
  · rw [← bytes]
    exact leads_size heap refines.sound ref _ represents.leads heap.next bound buffer found
  · rw [← bytes, Heap.read, Heap.data, place]
    simp [found]

theorem next_absent (heap : Heap) (sound : Sound none heap) : find heap.next heap.cells = none := by
  by_contra present
  exact Nat.lt_irrefl _ (sound.bounded heap.next ((sound.live heap.next).mp present))

theorem represents_made (heap : Heap) (sound : Sound none heap) (model later : SharedMemory) (buffer : Buffer) (ref : Ref)
    (represents : Represents heap model ref) (region : later.region ref = model.region ref)
    (contents : later.contents ref = model.contents ref) (cells : Heap)
    (made : cells.cells = store heap.next buffer heap.cells) : Represents cells later ref := by
  have apart (x : Ref) (old : Buffer) (found : find x heap.cells = some old) : find x cells.cells = some old := by
    have different : x ≠ heap.next := by
      intro same
      rw [same, next_absent heap sound] at found
      cases found
    rw [made, find_store, if_neg different, found]
  refine ⟨?_, fun other found => ?_⟩
  · rw [region]
    exact leads_kept heap cells ref _ represents.leads fun x old found => ⟨old, apart x old found, rfl⟩
  · obtain ⟨old, before, _⟩ := leads_end heap ref _ represents.leads
    rw [region, apart _ old before] at found
    rw [contents, ← Option.some.inj found]
    exact represents.bytes old before

theorem represents_same_cells (heap later : Heap) (model : SharedMemory) (ref : Ref)
    (represents : Represents heap model ref) (cells : later.cells = heap.cells) : Represents later model ref := by
  refine ⟨?_, fun buffer found => represents.bytes buffer (by rw [← cells, found])⟩
  exact leads_kept heap later ref _ represents.leads fun x old found => ⟨old, by rw [cells, found], rfl⟩

theorem refines_make (heap : Heap) (model : SharedMemory) (refines : Refines heap model) (buffer : Buffer)
    (own : referred buffer = none) : Refines (heap.make buffer) (model.perform (.make buffer)) := by
  have sound := made_sound heap buffer (by rw [own]; exact refines.sound)
  refine ⟨sound, by simp [SharedMemory.perform, Heap.make, refines.next], fun ref live => ?_⟩
  by_cases new : ref = heap.next
  · subst new
    have region : (model.perform (.make buffer)).region heap.next = heap.next := by
      simp [SharedMemory.perform, refines.next]
    have placed : find heap.next (heap.make buffer).cells = some buffer := by simp [Heap.make, find_store]
    refine ⟨?_, fun other found => ?_⟩
    · rw [region]
      exact .root heap.next buffer placed own
    · rw [region, placed] at found
      obtain rfl := Option.some.inj found
      simp [SharedMemory.contents, SharedMemory.perform, refines.next]
  · have old : find ref heap.cells ≠ none := by simpa [Heap.make, find_store, new] using live
    have represents := refines.represents ref old
    have placed : model.region ref ≠ heap.next := by
      intro same
      obtain ⟨other, found, _⟩ := leads_end heap ref _ represents.leads
      rw [same, next_absent heap refines.sound] at found
      cases found
    apply represents_made heap refines.sound model _ buffer ref represents _ _ (heap.make buffer) rfl
    · simp [SharedMemory.perform, refines.next, new]
    · simp [SharedMemory.contents, SharedMemory.perform, refines.next, new, placed]

theorem refines_alias (heap : Heap) (model : SharedMemory) (refines : Refines heap model) (buffer : Ref) (given : Heap)
    (live : find buffer heap.cells ≠ none) (sound : Sound (some buffer) given) (cells : given.cells = heap.cells)
    (next : given.next = heap.next) : Refines (given.make (.shared buffer)) (model.alias buffer) := by
  have made : (given.make (.shared buffer)).cells = store heap.next (.shared buffer) heap.cells := by
    rw [Heap.make, cells, next]
  have kept (x : Ref) (old : Buffer) (found : find x heap.cells = some old) : x ≠ heap.next := by
    intro same
    rw [same, next_absent heap refines.sound] at found
    cases found
  refine ⟨made_sound given (.shared buffer) sound, by simp [SharedMemory.alias, Heap.make, refines.next, next],
    fun ref now => ?_⟩
  by_cases new : ref = heap.next
  · subst new
    have region : (model.alias buffer).region heap.next = model.region buffer := by
      simp [SharedMemory.alias, refines.next]
    have represents := refines.represents buffer live
    have old := represents_made heap refines.sound model model (.shared buffer) buffer represents rfl rfl
      (given.make (.shared buffer)) made
    refine ⟨?_, fun other found => ?_⟩
    · rw [region]
      exact .step heap.next buffer _ (by rw [made, find_store, if_pos rfl]) old.leads
    · rw [region] at found
      have bytes := old.bytes other found
      simpa [SharedMemory.contents, SharedMemory.alias, refines.next] using bytes
  · have old : find ref heap.cells ≠ none := by
      rw [made, find_store, if_neg new] at now
      exact now
    apply represents_made heap refines.sound model _ (.shared buffer) ref (refines.represents ref old) _ _ _ made
    · simp [SharedMemory.alias, refines.next, new]
    · simp [SharedMemory.contents, SharedMemory.alias, refines.next, new]

theorem refines_drop (heap : Heap) (model : SharedMemory) (refines : Refines heap model) (buffer : Ref)
    (owned : heap.owners buffer ≠ 0) :
    ∃ later, heap.perform (.drop buffer) = some later ∧ Refines later (model.perform (.drop buffer)) := by
  have disowned := disowned_sound heap buffer refines.sound owned
  have counted := pending_counted { heap with owners := Function.update heap.owners buffer (heap.owners buffer - 1) }
    buffer disowned
  obtain ⟨later, released, sound, shrinks⟩ := release_sound heap.next _ buffer disowned (refines.sound.bounded buffer counted)
  refine ⟨later, released, sound, refines.next.trans shrinks.next.symm, fun ref live => ?_⟩
  have before : find ref heap.cells ≠ none := by
    rcases shrinks.cells ref with same | gone
    · rw [same] at live
      exact live
    · exact absurd gone live
  have represents := represents_same_cells heap
    { heap with owners := Function.update heap.owners buffer (heap.owners buffer - 1) } model ref
    (refines.represents ref before) rfl
  refine ⟨leads_shrunk _ later sound shrinks ref _ represents.leads live, fun other found => ?_⟩
  rcases shrinks.cells (model.region ref) with same | gone
  · exact represents.bytes other (same.symm.trans found)
  · rw [SharedMemory.perform, gone] at found
    cases found

theorem bytes_set (buffer : Buffer) (own : referred buffer = none) (offset : Nat) (byte : UInt8) :
    (buffer.set offset byte).bytes = buffer.bytes.set offset byte := by
  cases buffer with
  | shared m_buffer => simp [referred] at own
  | _ => rfl

theorem refines_write (heap : Heap) (model : SharedMemory) (refines : Refines heap model) (buffer : Ref) (offset : Nat)
    (byte : UInt8) (live : find buffer heap.cells ≠ none) :
    ∃ later, heap.perform (.write buffer offset byte) = some later ∧
      Refines later (model.perform (.write buffer offset byte)) := by
  have place := (refines_observed heap model refines buffer live).1
  have written := refines.represents buffer live
  obtain ⟨target, found, own⟩ := leads_end heap buffer _ written.leads
  have reference := referred_set target offset byte
  refine ⟨{ heap with cells := store (model.region buffer) (target.set offset byte) heap.cells }, ?_,
    stored_sound heap _ target _ refines.sound found reference, refines.next, fun ref now => ?_⟩
  · simp [Heap.perform, Heap.write, place, found]
  · have before : find ref heap.cells ≠ none := by
      rw [find_store] at now
      by_cases same : ref = model.region buffer
      · simp [same, found]
      · simpa [same] using now
    have represents := refines.represents ref before
    refine ⟨leads_kept heap _ ref _ represents.leads fun x old there => ?_, fun other there => ?_⟩
    · by_cases same : x = model.region buffer
      · subst same
        obtain rfl := Option.some.inj (found.symm.trans there)
        exact ⟨target.set offset byte, by simp [find_store], reference⟩
      · exact ⟨old, by simp [find_store, same, there], rfl⟩
    · simp only [SharedMemory.perform, find_store] at there
      by_cases same : model.region ref = model.region buffer
      · obtain rfl : target.set offset byte = other := by simpa [same] using there
        simp [SharedMemory.contents, SharedMemory.perform, same, bytes_set target own, written.bytes target found]
      · have bytes := represents.bytes other (by simpa [same] using there)
        simpa [SharedMemory.contents, SharedMemory.perform, same] using bytes

end Rcp.Data
