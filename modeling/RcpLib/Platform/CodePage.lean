import RcpLib.Semantics.CString

set_option autoImplicit false

namespace Rcp.Platform

open Semantics

abbrev DWORD := UInt32
abbrev UINT := UInt32

def errorInvalidParameter : DWORD := 87
def errorInsufficientBuffer : DWORD := 122
def errorNoUnicodeTranslation : DWORD := 1113
def cpAcp : UINT := 0
def cpOemcp : UINT := 1
def cpUtf8 : UINT := 65001

def staticCastInt (size : Nat) : Int :=
  if size % 0x100000000 < 0x80000000 then (size % 0x100000000 : Nat) else (size % 0x100000000 : Nat) - 0x100000000

theorem static_cast_small (size : Nat) (small : size < 0x80000000) : staticCastInt size = size := by
  unfold staticCastInt
  split <;> omega

-- A string view: the memory from data() on, and how many characters of it are viewed.
structure View (α : Type) where
  memory : List α
  length : Nat
  inside : length ≤ memory.length

def View.chars {α : Type} (self : View α) : List α := self.memory.take self.length

-- The view of a text that a NUL follows, as in a whole std::string.
def View.ended {α : Type} [OfNat α 0] (chars rest : List α) : View α := ⟨chars ++ 0 :: rest, chars.length, by simp⟩

theorem view_chars_length {α : Type} (view : View α) : view.chars.length = view.length := by
  rw [View.chars, List.length_take, Nat.min_eq_left view.inside]

theorem view_memory_ended {α : Type} [OfNat α 0] (src : View α) (text : List α) (same : src.chars = text ++ [0]) :
    ∃ rest, src.memory = text ++ 0 :: rest := by
  have joined : src.chars ++ src.memory.drop src.length = src.memory := List.take_append_drop _ _
  rw [same, List.append_assoc, List.singleton_append] at joined
  exact ⟨src.memory.drop src.length, joined.symm⟩

theorem view_chars_split {α : Type} [OfNat α 0] (src : View α) (text rest : List α) (memory : src.memory = text ++ 0 :: rest)
    (longer : text.length + 1 ≤ src.length) :
    src.chars = text ++ 0 :: rest.take (src.length - (text.length + 1)) := by
  have count : src.length - text.length = (src.length - (text.length + 1)) + 1 := by omega
  rw [View.chars, memory, List.take_append, List.take_of_length_le (by omega), count, List.take_succ_cons]

-- What the system makes of a text in one direction of one code page: the converted
-- text, or the error that rejects it. A failed call may spill into its buffer.
structure Conversion (α β : Type) [OfNat α 0] [OfNat β 0] where
  convert : List α → Except DWORD (List β)
  terminated : ∀ text, 0 ∉ text → convert (text ++ [0]) = (convert text).map (· ++ [0])
  overflow : DWORD
  spill : List α → Nat → List β

section Calls

variable {α β : Type} [OfNat α 0] [OfNat β 0]

-- What every code page does: no text converts to no text, and a NUL comes only from a NUL.
structure NulSafe (conversion : Conversion α β) : Prop where
  empty : conversion.convert [] = .ok []
  nulFree : ∀ text converted, 0 ∉ text → conversion.convert text = .ok converted → 0 ∉ converted

def perCharacter (encode : α → List β) (nul : encode 0 = [0]) : Conversion α β where
  convert text := .ok (text.flatMap encode)
  terminated text _ := by simp [nul, Except.map]
  overflow := errorInvalidParameter
  spill _ _ := []

theorem per_character_nul_safe (encode : α → List β) (nul : encode 0 = [0])
    (nonzero : ∀ char, char ≠ 0 → 0 ∉ encode char) : NulSafe (perCharacter encode nul) := by
  refine ⟨rfl, fun text converted nulFree accepted member => ?_⟩
  have same : text.flatMap encode = converted := Except.ok.inj accepted
  rw [← same] at member
  obtain ⟨char, inside, encoded⟩ := List.mem_flatMap.mp member
  exact nonzero char (fun zero => nulFree (zero ▸ inside)) encoded

-- What a call returns, the buffer after it, how many characters it wrote there and how
-- many it read, and what it sets the last error to.
structure Call (β : Type) where
  result : Nat
  buffer : List β
  written : Nat
  read : Nat
  error : Option DWORD

def Call.failed (buffer : List β) (read : Nat) (error : DWORD) : Call β := ⟨0, buffer, 0, read, some error⟩

def Conversion.spilled (conversion : Conversion α β) (text : List α) (buffer : List β) (size : Nat) : List β :=
  overwrite buffer ((conversion.spill text size).take size)

def Conversion.fill (conversion : Conversion α β) (text : List α) (buffer : List β) (size : Nat) : Call β :=
  match conversion.convert text with
  | .error error => .failed (conversion.spilled text buffer size) text.length error
  | .ok converted =>
      if size = 0 then
        if converted.length < 0x80000000 then ⟨converted.length, buffer, 0, text.length, none⟩
        else .failed buffer text.length conversion.overflow
      else if converted.length ≤ size then
        ⟨converted.length, overwrite buffer converted, converted.length, text.length, none⟩
      else .failed (conversion.spilled text buffer size) text.length errorInsufficientBuffer

theorem fill_rejected (conversion : Conversion α β) (text : List α) (buffer : List β) (size : Nat) (error : DWORD)
    (rejected : conversion.convert text = .error error) :
    conversion.fill text buffer size = .failed (conversion.spilled text buffer size) text.length error := by
  simp only [Conversion.fill, rejected]

theorem fill_query (conversion : Conversion α β) (text : List α) (buffer : List β) (size : Nat) (converted : List β)
    (accepted : conversion.convert text = .ok converted) (zero : size = 0) (short : converted.length < 0x80000000) :
    conversion.fill text buffer size = ⟨converted.length, buffer, 0, text.length, none⟩ := by
  simp only [Conversion.fill, accepted, if_pos zero, if_pos short]

theorem fill_overflow (conversion : Conversion α β) (text : List α) (buffer : List β) (size : Nat) (converted : List β)
    (accepted : conversion.convert text = .ok converted) (zero : size = 0) (long : ¬ converted.length < 0x80000000) :
    conversion.fill text buffer size = .failed buffer text.length conversion.overflow := by
  simp only [Conversion.fill, accepted, if_pos zero, if_neg long]

theorem fill_fits (conversion : Conversion α β) (text : List α) (buffer : List β) (size : Nat) (converted : List β)
    (accepted : conversion.convert text = .ok converted) (positive : size ≠ 0) (fits : converted.length ≤ size) :
    conversion.fill text buffer size =
      ⟨converted.length, overwrite buffer converted, converted.length, text.length, none⟩ := by
  simp only [Conversion.fill, accepted, if_neg positive, if_pos fits]

theorem fill_insufficient (conversion : Conversion α β) (text : List α) (buffer : List β) (size : Nat)
    (converted : List β) (accepted : conversion.convert text = .ok converted) (positive : size ≠ 0)
    (exceeds : ¬ converted.length ≤ size) :
    conversion.fill text buffer size =
      .failed (conversion.spilled text buffer size) text.length errorInsufficientBuffer := by
  simp only [Conversion.fill, accepted, if_neg positive, if_neg exceeds]

theorem convert_accepted (conversion : Conversion α β) (text : List α) (nulFree : 0 ∉ text) (converted : List β)
    (accepted : conversion.convert text = .ok converted) : conversion.convert (text ++ [0]) = .ok (converted ++ [0]) := by
  rw [conversion.terminated text nulFree, accepted]
  rfl

theorem convert_rejected (conversion : Conversion α β) (text : List α) (nulFree : 0 ∉ text) (error : DWORD)
    (rejected : conversion.convert text = .error error) : conversion.convert (text ++ [0]) = .error error := by
  rw [conversion.terminated text nulFree, rejected]
  rfl

variable [DecidableEq α]

inductive Reading (α : Type) where
  | invalid
  | fault
  | chars (text : List α)

-- The characters that a call reads. The length -1 stands for all up to a NUL and the
-- NUL; a fault is a read outside the memory.
def reading (memory : List α) (length : Int) : Reading α :=
  if length = -1 then if 0 ∈ memory then .chars (cString memory ++ [0]) else .fault
  else if 0 < length then if length.toNat ≤ memory.length then .chars (memory.take length.toNat) else .fault
  else .invalid

-- WideCharToMultiByte and MultiByteToWideChar with no flags.
def Conversion.call (conversion : Conversion α β) (memory : List α) (length : Int) (buffer : List β) (size : Int) :
    Option (Call β) :=
  if size < 0 then some (.failed buffer 0 errorInvalidParameter)
  else
    match reading memory length with
    | .invalid => some (.failed buffer 0 errorInvalidParameter)
    | .fault => none
    | .chars text => some (conversion.fill text buffer size.toNat)

theorem call_negative (conversion : Conversion α β) (memory : List α) (length : Int) (buffer : List β) (size : Int)
    (negative : size < 0) : conversion.call memory length buffer size = some (.failed buffer 0 errorInvalidParameter) := by
  rw [Conversion.call, if_pos negative]

theorem call_terminated (conversion : Conversion α β) (memory : List α) (terminated : 0 ∈ memory) (buffer : List β)
    (size : Int) (positive : ¬ size < 0) :
    conversion.call memory (-1) buffer size = some (conversion.fill (cString memory ++ [0]) buffer size.toNat) := by
  rw [Conversion.call, if_neg positive, reading, if_pos rfl, if_pos terminated]

end Calls

end Rcp.Platform
