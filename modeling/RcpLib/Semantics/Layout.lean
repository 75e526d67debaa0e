import Mathlib.Data.List.TakeWhile

set_option autoImplicit false

namespace Semantics

-- The object representation of a type: every value in the same number of bytes.
structure Layout (α : Type) where
  size : Nat
  positive : 0 < size
  encode : α → List UInt8
  decode : List UInt8 → α
  encode_length : ∀ value, (encode value).length = size
  decode_encode : ∀ value, decode (encode value) = value

namespace Layout

variable {α : Type} (layout : Layout α)

def encodeAll (values : List α) : List UInt8 := values.flatMap layout.encode

-- The first elements of an array at an address.
def decodeN : Nat → List UInt8 → List α
  | 0, _ => []
  | count + 1, bytes => layout.decode (bytes.take layout.size) :: decodeN count (bytes.drop layout.size)

@[simp] theorem encode_all_nil : layout.encodeAll [] = [] := rfl

@[simp] theorem encode_all_cons (value : α) (values : List α) :
    layout.encodeAll (value :: values) = layout.encode value ++ layout.encodeAll values := rfl

theorem encode_all_append (first second : List α) :
    layout.encodeAll (first ++ second) = layout.encodeAll first ++ layout.encodeAll second := by
  simp [encodeAll]

theorem encode_all_length (values : List α) : (layout.encodeAll values).length = values.length * layout.size := by
  induction values with
  | nil => simp
  | cons value values ih =>
      rw [encode_all_cons, List.length_append, layout.encode_length, ih, List.length_cons, Nat.add_mul]
      omega

theorem decode_n_encode_all (values : List α) (rest : List UInt8) :
    layout.decodeN values.length (layout.encodeAll values ++ rest) = values := by
  induction values with
  | nil => rfl
  | cons value values ih =>
      have sized := layout.encode_length value
      rw [encode_all_cons, List.append_assoc, List.length_cons, decodeN, ← sized, List.take_left, List.drop_left,
        layout.decode_encode, ih]

theorem decode_n_take (count : Nat) (bytes : List UInt8) (more : Nat) :
    (layout.decodeN (count + more) bytes).take count = layout.decodeN count bytes := by
  induction count generalizing bytes with
  | zero => simp [decodeN]
  | succ count ih =>
      rw [Nat.succ_add, decodeN, decodeN, List.take_succ_cons, ih]

end Layout

def byteLayout : Layout UInt8 where
  size := 1
  positive := Nat.one_pos
  encode byte := [byte]
  decode bytes := bytes.headD 0
  encode_length _ := rfl
  decode_encode _ := rfl

def ofBytes (a b c d : UInt8) : UInt32 :=
  UInt32.ofNat (a.toNat + 0x100 * b.toNat + 0x10000 * c.toNat + 0x1000000 * d.toNat)

def littleEndian (value : UInt32) : List UInt8 :=
  [UInt8.ofNat value.toNat, UInt8.ofNat (value.toNat / 0x100), UInt8.ofNat (value.toNat / 0x10000),
    UInt8.ofNat (value.toNat / 0x1000000)]

def word32Layout : Layout UInt32 where
  size := 4
  positive := by decide
  encode := littleEndian
  decode
    | [a, b, c, d] => ofBytes a b c d
    | _ => 0
  encode_length _ := rfl
  decode_encode value := by
    have bound := value.toNat_lt
    apply UInt32.toNat_inj.mp
    simp only [littleEndian, ofBytes, UInt32.toNat_ofNat', UInt8.toNat_ofNat']
    omega

theorem byte_encode_all (bytes : List UInt8) : byteLayout.encodeAll bytes = bytes := by
  simp [Layout.encodeAll, byteLayout]

end Semantics
