import RcpLib.Platform.PlatformWin

set_option autoImplicit false

namespace Rcp.Platform

open Semantics

-- What a conversion returned, and how many characters from data() on its calls read.
structure Converted (β : Type) where
  text : List β
  reads : List Nat

section Conversions

variable {α β : Type} [DecidableEq α] [OfNat α 0] [OfNat β 0]

-- The body that toUtf8 and fromUtf8 share.
def convertView (conversion : Conversion α β) (src : View α) : Option (Converted β) :=
  let len := staticCastInt src.length
  if len = 0 then some ⟨[], []⟩
  else
    match conversion.call src.memory len [] 0 with
    | none => none
    | some first =>
        let charcount := first.result
        if charcount = 0 then some ⟨[], [first.read]⟩
        else
          match conversion.call src.memory len (resize [] charcount) charcount with
          | none => none
          | some second => some ⟨second.buffer, [first.read, second.read]⟩

def toUtf8 (windows : Windows) (src : View UInt16) : Option (Converted UInt8) :=
  convertView (windows.wideCharToMultiByte cpUtf8 false) src

def fromUtf8 (windows : Windows) (src : View UInt8) : Option (Converted UInt16) :=
  convertView (windows.multiByteToWideChar cpUtf8) src

-- The conversion of all of the view or nothing, with no read outside the view.
def AllOrNothing (conversion : Conversion α β) (src : View α) (outcome : Option (Converted β)) : Prop :=
  ∃ result, outcome = some result ∧ (∀ read ∈ result.reads, read ≤ src.length) ∧
    (result.text = [] ∨ conversion.convert src.chars = .ok result.text)

-- The length is the int it is cast to, or one that the code or the system turns away,
-- or -1 for a view that ends with its first NUL.
def LengthKept (src : View α) : Prop :=
  src.length < 0x80000000 ∨ src.length % 0x100000000 = 0 ∨
    (0x80000000 ≤ src.length % 0x100000000 ∧ src.length % 0x100000000 < 0xFFFFFFFF) ∨
    (src.length % 0x100000000 = 0xFFFFFFFF ∧ ∃ text, 0 ∉ text ∧ src.chars = text ++ [0])

theorem call_reading (conversion : Conversion α β) (memory : List α) (length : Int) (buffer : List β) (size : Nat)
    (text : List α) (read : reading memory length = .chars text) :
    conversion.call memory length buffer size = some (conversion.fill text buffer size) := by
  rw [Conversion.call, if_neg (by omega), read]
  rfl

theorem convert_view_empty (conversion : Conversion α β) (src : View α) (zero : staticCastInt src.length = 0) :
    convertView conversion src = some ⟨[], []⟩ := by
  simp only [convertView, if_pos zero]

theorem convert_view_invalid (conversion : Conversion α β) (src : View α) (present : staticCastInt src.length ≠ 0)
    (invalid : reading src.memory (staticCastInt src.length) = .invalid) :
    convertView conversion src = some ⟨[], [0]⟩ := by
  have first : conversion.call src.memory (staticCastInt src.length) [] 0 = some (.failed [] 0 errorInvalidParameter) := by
    rw [Conversion.call, if_neg (by decide), invalid]
  simp [convertView, present, first, Call.failed]

theorem convert_view_fault (conversion : Conversion α β) (src : View α) (present : staticCastInt src.length ≠ 0)
    (fault : reading src.memory (staticCastInt src.length) = .fault) : convertView conversion src = none := by
  have first : conversion.call src.memory (staticCastInt src.length) [] 0 = none := by
    rw [Conversion.call, if_neg (by decide), fault]
  simp [convertView, present, first]

theorem convert_view_accepted (conversion : Conversion α β) (src : View α) (present : staticCastInt src.length ≠ 0)
    (text : List α) (read : reading src.memory (staticCastInt src.length) = .chars text) (converted : List β)
    (accepted : conversion.convert text = .ok converted) (nonempty : converted ≠ [])
    (counted : converted.length < 0x80000000) :
    convertView conversion src = some ⟨converted, [text.length, text.length]⟩ := by
  have count : converted.length ≠ 0 := fun empty => nonempty (List.length_eq_zero_iff.mp empty)
  have first := call_reading conversion src.memory (staticCastInt src.length) [] 0 text read
  have second := call_reading conversion src.memory (staticCastInt src.length) (resize [] converted.length) converted.length
    text read
  have queried := fill_query conversion text [] 0 converted accepted rfl counted
  have filled := fill_fits conversion text (resize [] converted.length) converted.length converted accepted count le_rfl
  have full : overwrite (resize ([] : List β) converted.length) converted = converted :=
    overwrite_full _ _ (by rw [resize_length])
  rw [queried] at first
  rw [filled, full] at second
  have asked : conversion.call src.memory (staticCastInt src.length) [] 0 = _ := first
  simp [convertView, present, asked, second, nonempty]

theorem convert_view_chars (conversion : Conversion α β) (src : View α) (present : staticCastInt src.length ≠ 0)
    (text : List α) (read : reading src.memory (staticCastInt src.length) = .chars text) :
    ∃ result, convertView conversion src = some result ∧ (∀ read ∈ result.reads, read = text.length) ∧
      result.reads ≠ [] ∧ (result.text = [] ∨ conversion.convert text = .ok result.text) := by
  have first : conversion.call src.memory (staticCastInt src.length) [] 0 = _ :=
    call_reading conversion src.memory (staticCastInt src.length) [] 0 text read
  cases converted : conversion.convert text with
  | error error =>
      rw [fill_rejected conversion text [] 0 error converted] at first
      exact ⟨⟨[], [text.length]⟩, by simp [convertView, present, first, Call.failed], by simp, by simp, .inl rfl⟩
  | ok wide =>
      by_cases counted : wide.length < 0x80000000
      · by_cases empty : wide = []
        · subst empty
          rw [fill_query conversion text [] 0 [] converted rfl counted] at first
          exact ⟨⟨[], [text.length]⟩, by simp [convertView, present, first], by simp, by simp, .inl rfl⟩
        · exact ⟨_, convert_view_accepted conversion src present text read wide converted empty counted, by simp, by simp,
            .inr rfl⟩
      · rw [fill_overflow conversion text [] 0 wide converted rfl counted] at first
        exact ⟨⟨[], [text.length]⟩, by simp [convertView, present, first, Call.failed], by simp, by simp, .inl rfl⟩

theorem all_of_chars (conversion : Conversion α β) (src : View α) (present : staticCastInt src.length ≠ 0)
    (read : reading src.memory (staticCastInt src.length) = .chars src.chars) :
    AllOrNothing conversion src (convertView conversion src) := by
  obtain ⟨result, converted, reads, _, outcome⟩ := convert_view_chars conversion src present src.chars read
  refine ⟨result, converted, fun read member => ?_, outcome⟩
  rw [reads read member, view_chars_length]

theorem all_or_nothing_kept (conversion : Conversion α β) (src : View α) (kept : LengthKept src) :
    AllOrNothing conversion src (convertView conversion src) := by
  rcases kept with small | zero | refused | ended
  · have len := static_cast_small src.length small
    by_cases empty : src.length = 0
    · exact ⟨_, convert_view_empty conversion src (by omega), by simp, .inl rfl⟩
    · refine all_of_chars conversion src (by omega) ?_
      have inside := src.inside
      rw [reading, len, if_neg (by omega), if_pos (by omega), Int.toNat_natCast, if_pos inside]
      rfl
  · have len : staticCastInt src.length = 0 := by
      rw [staticCastInt, if_pos (by omega), zero]
      rfl
    exact ⟨_, convert_view_empty conversion src len, by simp, .inl rfl⟩
  · obtain ⟨low, high⟩ := refused
    have len : staticCastInt src.length < -1 := by
      rw [staticCastInt, if_neg (by omega)]
      omega
    have invalid : reading src.memory (staticCastInt src.length) = .invalid := by
      rw [reading, if_neg (by omega), if_neg (by omega)]
    exact ⟨_, convert_view_invalid conversion src (by omega) invalid, by simp, .inl rfl⟩
  · obtain ⟨wraps, text, nulFree, same⟩ := ended
    have len : staticCastInt src.length = -1 := by
      rw [staticCastInt, if_neg (by omega), wraps]
      rfl
    obtain ⟨rest, memory⟩ := view_memory_ended src text same
    refine all_of_chars conversion src (by omega) ?_
    rw [reading, if_pos len, memory, if_pos (by simp), c_string_append text rest nulFree, same]

theorem all_or_nothing_lost (conversion : Conversion α β) (src : View α) (present : staticCastInt src.length ≠ 0)
    (text : List α) (read : reading src.memory (staticCastInt src.length) = .chars text) (part : List β)
    (accepted : conversion.convert text = .ok part) (nonempty : part ≠ []) (counted : part.length < 0x80000000)
    (differs : conversion.convert src.chars ≠ .ok part) :
    ¬ AllOrNothing conversion src (convertView conversion src) := by
  intro holds
  obtain ⟨result, same, _, outcome⟩ := holds
  rw [convert_view_accepted conversion src present text read part accepted nonempty counted] at same
  cases same
  exact outcome.elim nonempty differs

-- A code page of one unit for each character, and one that keeps only the first NUL
-- and whether anything follows it.
def flatPage (mark : β) : Conversion α β := perCharacter (fun char => [if char = 0 then 0 else mark]) (by simp)

def tailPage (mark : β) : Conversion α β where
  convert text :=
    .ok (if 0 ∈ text then 0 :: if text.drop ((cString text).length + 1) = [] then [] else [mark] else [])
  terminated text nulFree := by
    have ended : cString (text ++ [0]) = text := c_string_append text [] nulFree
    simp [ended, nulFree, Except.map]
  overflow := errorInvalidParameter
  spill _ _ := []

theorem flat_page_nul_safe (mark : β) (nonzero : mark ≠ 0) : NulSafe (flatPage mark : Conversion α β) := by
  refine per_character_nul_safe _ _ fun char present => ?_
  simp [present, Ne.symm nonzero]

theorem tail_page_nul_safe (mark : β) : NulSafe (tailPage mark : Conversion α β) := by
  refine ⟨by simp [tailPage], fun text converted nulFree accepted => ?_⟩
  simp only [tailPage, if_neg nulFree, Except.ok.injEq] at accepted
  simp [← accepted]

theorem flat_page_length (mark : β) (text : List α) :
    ∃ converted, (flatPage mark).convert text = .ok converted ∧ converted.length = text.length := by
  refine ⟨_, rfl, ?_⟩
  rw [← List.map_eq_flatMap, List.length_map]

theorem tail_page_split (mark : β) (text rest : List α) (nulFree : 0 ∉ text) :
    (tailPage mark).convert (text ++ 0 :: rest) = .ok (0 :: if rest = [] then [] else [mark]) := by
  have present : (0 : α) ∈ text ++ 0 :: rest := by simp
  simp only [tailPage, if_pos present, c_string_append text rest nulFree, drop_stop]

theorem reading_part (src : View α) (counted : src.length % 0x100000000 < 0x80000000)
    (nonzero : src.length % 0x100000000 ≠ 0) :
    reading src.memory (staticCastInt src.length) = .chars (src.memory.take (src.length % 0x100000000)) := by
  have inside := src.inside
  have len : staticCastInt src.length = (src.length % 0x100000000 : Nat) := by rw [staticCastInt, if_pos counted]
  rw [reading, len, if_neg (by omega), if_pos (by omega), Int.toNat_natCast, if_pos (by omega)]

theorem all_or_nothing_part (mark : β) (src : View α) (large : 0x80000000 ≤ src.length)
    (counted : src.length % 0x100000000 < 0x80000000) (nonzero : src.length % 0x100000000 ≠ 0) :
    ¬ AllOrNothing (flatPage mark) src (convertView (flatPage mark) src) := by
  have inside := src.inside
  have present : staticCastInt src.length ≠ 0 := by
    rw [staticCastInt, if_pos counted]
    omega
  obtain ⟨part, accepted, length⟩ := flat_page_length mark (src.memory.take (src.length % 0x100000000))
  obtain ⟨whole, converted, total⟩ := flat_page_length mark src.chars
  rw [List.length_take, Nat.min_eq_left (by omega)] at length
  rw [view_chars_length] at total
  have nonempty : part ≠ [] := by
    intro empty
    rw [empty] at length
    exact nonzero length.symm
  refine all_or_nothing_lost _ src present _ (reading_part src counted nonzero) part accepted nonempty (by omega) ?_
  intro same
  rw [converted] at same
  cases same
  omega

theorem all_or_nothing_terminated (mark : β) (src : View α) (wraps : src.length % 0x100000000 = 0xFFFFFFFF)
    (unended : ¬ ∃ text, 0 ∉ text ∧ src.chars = text ++ [0]) :
    ¬ AllOrNothing (tailPage mark) src (convertView (tailPage mark) src) := by
  have len : staticCastInt src.length = -1 := by
    rw [staticCastInt, if_neg (by omega), wraps]
    rfl
  intro holds
  by_cases terminated : 0 ∈ src.memory
  · have read : reading src.memory (staticCastInt src.length) = .chars (cString src.memory ++ [0]) := by
      rw [reading, if_pos len, if_pos terminated]
    have accepted := tail_page_split mark (cString src.memory) [] (c_string_nul_free _)
    obtain ⟨rest, memory⟩ := c_string_split src.memory terminated
    have longer : (cString src.memory).length + 1 ≤ src.length := by
      obtain ⟨result, converted, reads, some, _⟩ := convert_view_chars (tailPage mark) src (by omega) _ read
      obtain ⟨again, same, bound, _⟩ := holds
      rw [converted] at same
      cases same
      obtain ⟨first, member⟩ := List.exists_mem_of_ne_nil _ some
      have inside := bound first member
      rwa [reads first member, List.length_append, List.length_singleton] at inside
    have chars := view_chars_split src (cString src.memory) rest memory longer
    refine all_or_nothing_lost (tailPage mark) src (by omega) _ read [0] accepted (by simp) (by simp) ?_ holds
    intro whole
    rw [chars, tail_page_split mark _ _ (c_string_nul_free _)] at whole
    by_cases nothing : rest.take (src.length - ((cString src.memory).length + 1)) = []
    · rw [nothing] at chars
      exact unended ⟨cString src.memory, c_string_nul_free _, chars⟩
    · simp [nothing] at whole
  · have fault : reading src.memory (staticCastInt src.length) = .fault := by
      rw [reading, if_pos len, if_neg terminated]
    obtain ⟨result, same, _⟩ := holds
    rw [convert_view_fault (tailPage mark) src (by omega) fault] at same
    cases same

theorem all_or_nothing_iff (mark : β) (nonzero : mark ≠ 0) (src : View α) :
    (∀ conversion : Conversion α β, NulSafe conversion → AllOrNothing conversion src (convertView conversion src)) ↔
      LengthKept src := by
  refine ⟨fun holds => ?_, fun kept conversion _ => all_or_nothing_kept conversion src kept⟩
  by_contra lost
  simp only [LengthKept, not_or] at lost
  obtain ⟨large, present, refused, ended⟩ := lost
  by_cases counted : src.length % 0x100000000 < 0x80000000
  · exact all_or_nothing_part mark src (by omega) counted present (holds _ (flat_page_nul_safe mark nonzero))
  · have wraps : src.length % 0x100000000 = 0xFFFFFFFF := by omega
    refine all_or_nothing_terminated mark src wraps ?_ (holds _ (tail_page_nul_safe mark))
    exact fun text => ended ⟨wraps, text⟩

end Conversions

theorem utf8_all_or_nothing (wide : View UInt16) (narrow : View UInt8) :
    ((∀ windows, NulSafe (windows.wideCharToMultiByte cpUtf8 false) →
        AllOrNothing (windows.wideCharToMultiByte cpUtf8 false) wide (toUtf8 windows wide)) ↔ LengthKept wide) ∧
    ((∀ windows, NulSafe (windows.multiByteToWideChar cpUtf8) →
        AllOrNothing (windows.multiByteToWideChar cpUtf8) narrow (fromUtf8 windows narrow)) ↔ LengthKept narrow) := by
  refine ⟨?_, ?_⟩
  · rw [← all_or_nothing_iff (1 : UInt8) (by decide) wide]
    refine ⟨fun holds conversion => ?_, fun holds windows => holds _⟩
    exact holds ⟨fun _ _ => conversion, fun _ => flatPage 1, fun _ => "error"⟩
  · rw [← all_or_nothing_iff (1 : UInt16) (by decide) narrow]
    refine ⟨fun holds conversion => ?_, fun holds windows => holds _⟩
    exact holds ⟨fun _ _ => flatPage 1, fun _ => conversion, fun _ => "error"⟩

def repeated (count : Nat) : View UInt16 := ⟨List.replicate count 97, count, by simp⟩

theorem repeated_part (count : Nat) (one : count % 0x100000000 = 1) (longer : count ≠ 1) :
    ¬ AllOrNothing (euroWindows.wideCharToMultiByte cpUtf8 false) (repeated count) (toUtf8 euroWindows (repeated count)) := by
  have length : (repeated count).length % 0x100000000 = 1 := one
  have present : staticCastInt (repeated count).length ≠ 0 := by
    rw [staticCastInt, length]
    decide
  have first : (repeated count).memory.take ((repeated count).length % 0x100000000) = [97] := by
    rw [length, repeated, List.take_replicate, Nat.min_eq_left (by omega)]
    rfl
  have read := reading_part (repeated count) (by omega) (by omega)
  rw [first] at read
  have chars : (repeated count).chars = List.replicate count 97 := by simp [repeated, View.chars]
  refine all_or_nothing_lost _ (repeated count) present [97] read [97] rfl (by simp) (by simp) fun whole => ?_
  have all : ((repeated count).chars.flatMap euroBytes).length = 1 := congrArg List.length (Except.ok.inj whole)
  have byte : (euroBytes 97).length = 1 := rfl
  rw [chars, List.length_flatMap, List.map_replicate, List.sum_replicate_nat, byte] at all
  omega

-- 2^32 + 1 characters, of which only the first is converted.
theorem utf8_converts_part :
    ¬ AllOrNothing (euroWindows.wideCharToMultiByte cpUtf8 false) (repeated 4294967297)
      (toUtf8 euroWindows (repeated 4294967297)) :=
  repeated_part 4294967297 (by decide) (by decide)

end Rcp.Platform
