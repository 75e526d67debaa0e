import RcpLib.Semantics.Assoc
import RcpLib.Semantics.Layout
import RcpLib.Semantics.Transition

set_option autoImplicit false

namespace Rcp.Data

open Semantics

-- The identity of a Buffer object that shared_ptrs refer to.
abbrev Ref := Nat

-- The characters of a string with the NUL that ends them.
structure StringMemory where
  charSize : Nat
  length : Nat
  memory : List UInt8
  sized : memory.length = (length + 1) * charSize

inductive Buffer where
  | vector (m_data : List UInt8)
  | shared (m_buffer : Ref)
  | typed (m_data : List UInt8)
  | string (m_data : StringMemory)

def VectorBuffer.ofData (data : List UInt8) : Buffer := .vector data

def VectorBuffer.ofLength (length : Nat) : Buffer := .vector (List.replicate length 0)

def TypedBuffer.construct {T : Type} (layout : Layout T) (value : T) : Buffer := .typed (layout.encode value)

def TypedBuffer.value {T : Type} (layout : Layout T) (m_data : List UInt8) : T := layout.decode m_data

def StringBuffer.construct {Char : Type} [OfNat Char 0] (layout : Layout Char) (data : List Char) : Buffer :=
  .string ⟨layout.size, data.length, layout.encodeAll (data ++ [0]), by rw [layout.encode_all_length]; simp⟩

-- The Buffer objects that live, with the use counts of the shared_ptrs to them, and
-- how many of these the program has outside of the buffers.
structure Heap where
  next : Ref
  cells : Assoc Ref Buffer
  counts : Ref → Nat
  owners : Ref → Nat

def Heap.empty : Heap := ⟨0, [], fun _ => 0, fun _ => 0⟩

-- The virtual functions. A SharedBuffer asks its m_buffer; the depth of such calls is
-- the fuel. An object that does not live has no answer.
def data : Nat → Heap → Ref → Option Ref
  | 0, _, _ => none
  | fuel + 1, heap, ref =>
      match find ref heap.cells with
      | some (.shared m_buffer) => data fuel heap m_buffer
      | some _ => some ref
      | none => none

def size : Nat → Heap → Ref → Option Nat
  | 0, _, _ => none
  | fuel + 1, heap, ref =>
      match find ref heap.cells with
      | some (.vector m_data) => some m_data.length
      | some (.shared m_buffer) => size fuel heap m_buffer
      | some (.typed m_data) => some m_data.length
      | some (.string m_data) => some ((m_data.length + 1) * m_data.charSize)
      | none => none

def Buffer.bytes : Buffer → List UInt8
  | .vector m_data => m_data
  | .shared _ => []
  | .typed m_data => m_data
  | .string m_data => m_data.memory

def StringMemory.set (self : StringMemory) (offset : Nat) (byte : UInt8) : StringMemory :=
  { self with memory := self.memory.set offset byte, sized := by rw [List.length_set, self.sized] }

def Buffer.set (offset : Nat) (byte : UInt8) : Buffer → Buffer
  | .vector m_data => .vector (m_data.set offset byte)
  | .shared m_buffer => .shared m_buffer
  | .typed m_data => .typed (m_data.set offset byte)
  | .string m_data => .string (m_data.set offset byte)

-- No chain is longer than the number of buffers that have been made.
def Heap.data (heap : Heap) (ref : Ref) : Option Ref := Data.data heap.next heap ref

def Heap.size (heap : Heap) (ref : Ref) : Option Nat := Data.size heap.next heap ref

def Heap.read (heap : Heap) (ref : Ref) (offset : Nat) : Option UInt8 := do
  let place ← heap.data ref
  let buffer ← find place heap.cells
  buffer.bytes[offset]?

def Heap.write (heap : Heap) (ref : Ref) (offset : Nat) (byte : UInt8) : Option Heap := do
  let place ← heap.data ref
  let buffer ← find place heap.cells
  some { heap with cells := store place (buffer.set offset byte) heap.cells }

def Heap.make (heap : Heap) (buffer : Buffer) : Heap where
  next := heap.next + 1
  cells := store heap.next buffer heap.cells
  counts := Function.update heap.counts heap.next 1
  owners := Function.update heap.owners heap.next 1

-- The destructor of a shared_ptr. The last one destroys the object, and with a
-- SharedBuffer the shared_ptr in it.
def release : Nat → Heap → Ref → Option Heap
  | 0, _, _ => none
  | fuel + 1, heap, ref =>
      if heap.counts ref = 0 then none
      else
        let left := { heap with counts := Function.update heap.counts ref (heap.counts ref - 1) }
        if heap.counts ref = 1 then
          let gone := { left with cells := remove ref heap.cells }
          match find ref heap.cells with
          | some (.shared m_buffer) => release fuel gone m_buffer
          | _ => some gone
        else some left

inductive BufferAction where
  | make (buffer : Buffer)
  | share (buffer : Ref)
  | shareMove (buffer : Ref)
  | copy (buffer : Ref)
  | drop (buffer : Ref)
  | write (buffer : Ref) (offset : Nat) (byte : UInt8)

-- share and shareMove are the constructors of SharedBuffer: one copies the
-- shared_ptr that it is given, the other takes it over.
def Heap.perform (heap : Heap) : BufferAction → Option Heap
  | .make buffer => some (heap.make buffer)
  | .share buffer => some
      ({ heap with counts := Function.update heap.counts buffer (heap.counts buffer + 1) }.make (.shared buffer))
  | .shareMove buffer => some
      ({ heap with owners := Function.update heap.owners buffer (heap.owners buffer - 1) }.make (.shared buffer))
  | .copy buffer => some { heap with
      counts := Function.update heap.counts buffer (heap.counts buffer + 1)
      owners := Function.update heap.owners buffer (heap.owners buffer + 1) }
  | .drop buffer =>
      release heap.next { heap with owners := Function.update heap.owners buffer (heap.owners buffer - 1) } buffer
  | .write buffer offset byte => heap.write buffer offset byte

end Rcp.Data
