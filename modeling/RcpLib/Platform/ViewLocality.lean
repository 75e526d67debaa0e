import RcpLib.Platform.BufferPaths

set_option autoImplicit false

namespace Rcp.Platform

open Semantics Wide2Ansii

structure TerminatedView (α : Type) [OfNat α 0] extends View α where
  terminated : 0 ∈ memory

def Exact {α β : Type} [OfNat α 0] [OfNat β 0] (conversion : Conversion α β) (view : View α)
    (outcome : Option (Except SystemError (List β))) : Prop :=
  ∃ result, outcome = some result ∧
    ((∃ error, result = .error error) ∨ ∃ converted, conversion.convert view.chars = .ok converted ∧ result = .ok converted)

-- The first NUL of the buffer ends the view, where the buffer of the conversion has a size.
def EndsView {α : Type} [DecidableEq α] [OfNat α 0] (view : View α) (size : Nat) : Prop :=
  view.length = 0 ∨ staticCastInt size < 0 ∨ staticCastInt size ≠ 0 ∧ cString view.memory = view.chars

theorem exact_thrown {α β : Type} [OfNat α 0] [OfNat β 0] (conversion : Conversion α β) (view : View α)
    (windows : Windows) (error : DWORD) : Exact conversion view (some (failureExit windows error true)) :=
  ⟨_, rfl, .inl ⟨_, rfl⟩⟩

theorem exact_returned {α β : Type} [OfNat α 0] [OfNat β 0] (conversion : Conversion α β) (view : View α)
    (text : List β) : Exact conversion view (some (.ok text)) ↔ conversion.convert view.chars = .ok text := by
  refine ⟨fun exact => ?_, fun accepted => ⟨_, rfl, .inr ⟨text, accepted, rfl⟩⟩⟩
  obtain ⟨result, same, outcome⟩ := exact
  cases same
  rcases outcome with thrown | returned
  · cases thrown.choose_spec
  · obtain ⟨converted, accepted, returned⟩ := returned
    cases returned
    exact accepted

theorem exact_empty {α β : Type} [OfNat α 0] [OfNat β 0] (conversion : Conversion α β) (nulSafe : NulSafe conversion)
    (view : View α) (empty : view.length = 0) : Exact conversion view (some (.ok [])) := by
  rw [exact_returned, View.chars, empty, List.take_zero, nulSafe.empty]

section Wide2Ansii

variable (windows : Windows) (lastError : DWORD) (codePage : UINT) (throwOfFail : Bool)

def wide2AnsiiAnswer (text : List UInt16) : Except SystemError (List UInt8) :=
  match (conversionOf windows codePage).convert text with
  | .error error => failureExit windows error throwOfFail
  | .ok bytes =>
      if bytes.length + 1 < 0x80000000 then .ok bytes
      else failureExit windows (conversionOf windows codePage).overflow throwOfFail

theorem wide2_ansii_negative (input : View UInt16) (present : input.length ≠ 0)
    (negative : staticCastInt (input.length * 2) < 0) :
    Wide2AnsiiHelper windows lastError codePage input throwOfFail =
      some (failureExit windows errorInvalidParameter throwOfFail) := by
  have called := fn_call_negative windows codePage input ⟨[], 0, lastError⟩ _ negative
  have differs : errorInvalidParameter ≠ errorInsufficientBuffer := by decide
  simp [Wide2AnsiiHelper, calls, present, called, differs]

variable (input : TerminatedView UInt16) (present : input.length ≠ 0)

include present

-- The call only asks for the size, and the buffer is left with the zeros it was made of.
theorem wide2_ansii_zero (zero : staticCastInt (input.length * 2) = 0) (bytes : List UInt8)
    (accepted : (conversionOf windows codePage).convert (cString input.memory) = .ok bytes)
    (counted : bytes.length + 1 < 0x80000000) :
    Wide2AnsiiHelper windows lastError codePage input.toView throwOfFail = some (.ok []) := by
  have called := fn_call_query windows codePage input.toView input.terminated ⟨[], 0, lastError⟩ _ zero bytes accepted counted
  have zeros : resize ([] : List UInt8) (input.length * 2) = List.replicate (input.length * 2) 0 := by simp [resize]
  have buffer : ofData (List.replicate (input.length * 2) (0 : UInt8)) = some [] := of_data_zeros _ (by omega)
  simp [Wide2AnsiiHelper, calls, present, called, zeros, buffer]

theorem wide2_ansii_positive (nulSafe : NulSafe (conversionOf windows codePage)) (positive : 0 < staticCastInt (input.length * 2)) :
    Wide2AnsiiHelper windows lastError codePage input.toView throwOfFail =
      some (wide2AnsiiAnswer windows codePage throwOfFail (cString input.memory)) := by
  rw [Wide2AnsiiHelper, if_neg present, wide2AnsiiAnswer]
  cases converted : (conversionOf windows codePage).convert (cString input.memory) with
  | error error =>
      obtain ⟨locals, called, last⟩ := calls_rejected windows codePage input.toView input.terminated ⟨[], 0, lastError⟩
        (by omega) error converted
      simp [called, last]
  | ok bytes =>
      have clean := nulSafe.nulFree _ bytes (c_string_nul_free _) converted
      by_cases counted : bytes.length + 1 < 0x80000000
      · obtain ⟨rest, last, called⟩ := calls_accepted windows codePage input.toView input.terminated ⟨[], 0, lastError⟩
          positive bytes converted counted
        simp [called, counted, of_data_nul bytes rest clean]
      · obtain ⟨locals, called, last⟩ := calls_overflow windows codePage input.toView input.terminated ⟨[], 0, lastError⟩
          positive bytes converted counted
        simp [called, counted, last]

end Wide2Ansii

section Ansii2Wide

variable (windows : Windows) (lastError : DWORD) (codePage : UINT) (throwOfFail : Bool)

def ansii2WideAnswer (size : Nat) (text : List UInt8) : Except SystemError (List UInt16) :=
  match (windows.multiByteToWideChar codePage).convert text with
  | .error error => failureExit windows error throwOfFail
  | .ok wide =>
      if (wide.length : Int) + 1 ≤ staticCastInt size then .ok wide
      else failureExit windows errorInsufficientBuffer throwOfFail

theorem ansii2_wide_negative (input : View UInt8) (present : input.length ≠ 0)
    (negative : staticCastInt (input.length + 1) < 0) :
    Ansii2WideHelper windows lastError codePage input throwOfFail =
      some (failureExit windows errorInvalidParameter throwOfFail) := by
  simp only [Ansii2WideHelper, if_neg present, List.length_replicate]
  rw [call_negative _ _ _ _ _ negative]
  rfl

variable (input : TerminatedView UInt8) (present : input.length ≠ 0)

include present

theorem ansii2_wide_fill (positive : ¬ staticCastInt (input.length + 1) < 0) (call : Call UInt16)
    (filled : (windows.multiByteToWideChar codePage).fill (cString input.memory ++ [0])
      (List.replicate (input.length + 1) 0) (staticCastInt (input.length + 1)).toNat = call) :
    Ansii2WideHelper windows lastError codePage input.toView throwOfFail =
      if call.result = 0 then some (failureExit windows (call.error.getD lastError) throwOfFail)
      else (ofData call.buffer).map .ok := by
  simp only [Ansii2WideHelper, if_neg present, List.length_replicate]
  rw [call_terminated _ _ input.terminated _ _ positive, filled]

theorem ansii2_wide_zero (zero : staticCastInt (input.length + 1) = 0) (wide : List UInt16)
    (accepted : (windows.multiByteToWideChar codePage).convert (cString input.memory) = .ok wide)
    (counted : wide.length + 1 < 0x80000000) :
    Ansii2WideHelper windows lastError codePage input.toView throwOfFail = some (.ok []) := by
  have converted := convert_accepted _ _ (c_string_nul_free _) wide accepted
  have filled := fill_query _ _ (List.replicate (input.length + 1) 0) (staticCastInt (input.length + 1)).toNat _ converted
    (by omega) (by simpa using counted)
  have buffer : ofData (List.replicate (input.length + 1) (0 : UInt16)) = some [] := of_data_zeros _ (by omega)
  rw [ansii2_wide_fill windows lastError codePage throwOfFail input present (by omega) _ filled]
  simp [buffer]

theorem ansii2_wide_positive (nulSafe : NulSafe (windows.multiByteToWideChar codePage))
    (positive : 0 < staticCastInt (input.length + 1)) :
    Ansii2WideHelper windows lastError codePage input.toView throwOfFail =
      some (ansii2WideAnswer windows codePage throwOfFail (input.length + 1) (cString input.memory)) := by
  rw [ansii2WideAnswer]
  cases converted : (windows.multiByteToWideChar codePage).convert (cString input.memory) with
  | error error =>
      have refused := convert_rejected _ _ (c_string_nul_free _) error converted
      rw [ansii2_wide_fill windows lastError codePage throwOfFail input present (by omega) _
        (fill_rejected _ _ _ _ error refused)]
      rfl
  | ok wide =>
      have clean := nulSafe.nulFree _ wide (c_string_nul_free _) converted
      have accepted := convert_accepted _ _ (c_string_nul_free _) wide converted
      have length : (wide ++ [0]).length = wide.length + 1 := by simp
      by_cases fits : (wide.length : Int) + 1 ≤ staticCastInt (input.length + 1)
      · have filled := fill_fits _ _ (List.replicate (input.length + 1) 0) (staticCastInt (input.length + 1)).toNat _ accepted
          (by omega) (by omega)
        rw [ansii2_wide_fill windows lastError codePage throwOfFail input present (by omega) _ filled]
        simp [fits, overwrite, of_data_nul wide _ clean]
      · have filled := fill_insufficient _ _ (List.replicate (input.length + 1) 0) (staticCastInt (input.length + 1)).toNat _
          accepted (by omega) (by omega)
        rw [ansii2_wide_fill windows lastError codePage throwOfFail input present (by omega) _ filled]
        simp [fits, Call.failed]

end Ansii2Wide

section MarkPage

variable {α β : Type} [DecidableEq α] [OfNat α 0] [OfNat β 0]

-- A code page that keeps one text and the NULs apart from everything else.
def markPage (target : List α) (mark : β) : Conversion α β where
  convert text := .ok ((if cString text = target then [mark] else []) ++ if 0 ∈ text then [0] else [])
  terminated text nulFree := by
    have ended : cString (text ++ [0]) = cString text := by rw [c_string_append text [] nulFree, c_string_whole text nulFree]
    simp [ended, nulFree, Except.map]
  overflow := errorInvalidParameter
  spill _ _ := []

theorem mark_page_nul_safe (target : List α) (mark : β) (nonempty : target ≠ []) (nonzero : mark ≠ 0) :
    NulSafe (markPage target mark) := by
  refine ⟨?_, fun text converted nulFree accepted => ?_⟩
  · simp [markPage, cString, Ne.symm nonempty]
  · have same : (if cString text = target then [mark] else []) ++ (if 0 ∈ text then [0] else []) = converted :=
      Except.ok.inj accepted
    rw [← same, if_neg nulFree, List.append_nil]
    split <;> simp [Ne.symm nonzero]

theorem mark_page_target (target : List α) (mark : β) : (markPage target mark).convert target ≠ .ok [] := by
  intro vanished
  have empty := Except.ok.inj vanished
  by_cases nulFree : 0 ∈ target
  · simp [nulFree] at empty
  · simp [c_string_whole target nulFree] at empty

theorem mark_page_other (target text : List α) (mark : β) (nulFree : 0 ∉ text) (differs : text ≠ target) :
    (markPage target mark).convert text = .ok [] := by
  simp [markPage, c_string_whole text nulFree, differs, nulFree]

theorem mark_page_small (target text : List α) (mark : β) :
    ∃ converted, (markPage target mark).convert text = .ok converted ∧ converted.length + 1 < 0x80000000 := by
  refine ⟨_, rfl, ?_⟩
  split <;> split <;> simp

end MarkPage

theorem chars_nonempty {α : Type} (view : View α) (present : view.length ≠ 0) : view.chars ≠ [] := by
  intro empty
  have length := view_chars_length view
  rw [empty] at length
  exact present length.symm

theorem same_length {α : Type} (first second : View α) (same : first.chars = second.chars) :
    first.length = second.length := by
  rw [← view_chars_length first, same, view_chars_length second]

-- What the two helpers have in common, with the size of the buffer that each of them
-- makes and the answer that each of them gives for a text that a NUL ends.
structure Behaves {α β : Type} [DecidableEq α] [OfNat α 0] [OfNat β 0] (windows : Windows) (conversion : Conversion α β)
    (view : TerminatedView α) (size : Nat) (answer : List α → Except SystemError (List β))
    (outcome : Option (Except SystemError (List β))) : Prop where
  empty : view.length = 0 → outcome = some (.ok [])
  negative : view.length ≠ 0 → staticCastInt size < 0 → outcome = some (failureExit windows errorInvalidParameter true)
  zero : view.length ≠ 0 → staticCastInt size = 0 → ∀ converted, conversion.convert (cString view.memory) = .ok converted →
    converted.length + 1 < 0x80000000 → outcome = some (.ok [])
  positive : view.length ≠ 0 → 0 < staticCastInt size → NulSafe conversion → outcome = some (answer (cString view.memory))
  sound : ∀ text, (∃ error, answer text = .error error) ∨
    ∃ converted, conversion.convert text = .ok converted ∧ answer text = .ok converted
  vanished : 0 < staticCastInt size → ∀ text, conversion.convert text = .ok [] → answer text = .ok []

section Behaviour

variable {α β : Type} [DecidableEq α] [OfNat α 0] [OfNat β 0] (windows : Windows)

theorem exact_of_ends (conversion : Conversion α β) (nulSafe : NulSafe conversion) (view : TerminatedView α) (size : Nat)
    (answer : List α → Except SystemError (List β)) (outcome : Option (Except SystemError (List β)))
    (behaves : Behaves windows conversion view size answer outcome) (ends : EndsView view.toView size) :
    Exact conversion view.toView outcome := by
  by_cases empty : view.length = 0
  · rw [behaves.empty empty]
    exact exact_empty conversion nulSafe view.toView empty
  · by_cases negative : staticCastInt size < 0
    · rw [behaves.negative empty negative]
      exact exact_thrown conversion view.toView windows _
    · obtain ⟨nonzero, whole⟩ := (ends.resolve_left empty).resolve_left negative
      rw [behaves.positive empty (by omega) nulSafe, whole]
      exact ⟨_, rfl, behaves.sound view.chars⟩

theorem ends_of_exact (mark : β) (nonzero : mark ≠ 0) (view : TerminatedView α) (size : Nat)
    (answer : List α → Except SystemError (List β)) (outcome : Option (Except SystemError (List β)))
    (behaves : Behaves windows (markPage view.chars mark) view size answer outcome)
    (exact : NulSafe (markPage view.chars mark) → Exact (markPage view.chars mark) view.toView outcome) :
    EndsView view.toView size := by
  by_cases empty : view.length = 0
  · exact .inl empty
  · by_cases negative : staticCastInt size < 0
    · exact .inr (.inl negative)
    · have nulSafe := mark_page_nul_safe view.chars mark (chars_nonempty view.toView empty) nonzero
      have lost : outcome ≠ some (.ok []) := by
        intro returned
        have kept := exact nulSafe
        rw [returned, exact_returned] at kept
        exact mark_page_target view.chars mark kept
      have sized : staticCastInt size ≠ 0 := by
        intro zero
        obtain ⟨converted, accepted, small⟩ := mark_page_small view.chars (cString view.memory) mark
        exact lost (behaves.zero empty zero converted accepted small)
      refine .inr (.inr ⟨sized, ?_⟩)
      by_contra differs
      have vanished := mark_page_other view.chars (cString view.memory) mark (c_string_nul_free _) differs
      apply lost
      rw [behaves.positive empty (by omega) nulSafe, behaves.vanished (by omega) _ vanished]

theorem same_of_ends (conversion : Conversion α β) (nulSafe : NulSafe conversion) (first second : TerminatedView α)
    (same : first.chars = second.chars) (size : Nat) (answer : List α → Except SystemError (List β))
    (outcome other : Option (Except SystemError (List β)))
    (behaves : Behaves windows conversion first size answer outcome)
    (likewise : Behaves windows conversion second size answer other) (ends : EndsView first.toView size)
    (also : EndsView second.toView size) : outcome = other := by
  have lengths := same_length first.toView second.toView same
  by_cases empty : first.length = 0
  · rw [behaves.empty empty, likewise.empty (lengths ▸ empty)]
  · have present : second.length ≠ 0 := lengths ▸ empty
    by_cases negative : staticCastInt size < 0
    · rw [behaves.negative empty negative, likewise.negative present negative]
    · obtain ⟨nonzero, whole⟩ := (ends.resolve_left empty).resolve_left negative
      obtain ⟨_, entire⟩ := (also.resolve_left present).resolve_left negative
      rw [behaves.positive empty (by omega) nulSafe, likewise.positive present (by omega) nulSafe, whole, entire, same]

end Behaviour

theorem wide2_ansii_behaves (windows : Windows) (lastError : DWORD) (codePage : UINT) (view : TerminatedView UInt16) :
    Behaves windows (conversionOf windows codePage) view (view.length * 2) (wide2AnsiiAnswer windows codePage true)
      (Wide2AnsiiHelper windows lastError codePage view.toView true) := by
  refine ⟨fun empty => ?_, wide2_ansii_negative windows lastError codePage true view.toView,
    wide2_ansii_zero windows lastError codePage true view,
    fun present positive nulSafe => wide2_ansii_positive windows lastError codePage true view present nulSafe positive,
    fun text => ?_, fun _ text vanished => ?_⟩
  · rw [Wide2AnsiiHelper, if_pos empty]
  · unfold wide2AnsiiAnswer
    cases converted : (conversionOf windows codePage).convert text with
    | error error => exact .inl ⟨_, rfl⟩
    | ok bytes =>
        by_cases counted : bytes.length + 1 < 0x80000000
        · exact .inr ⟨bytes, rfl, if_pos counted⟩
        · exact .inl ⟨_, if_neg counted⟩
  · rw [wide2AnsiiAnswer, vanished]
    rfl

theorem ansii2_wide_behaves (windows : Windows) (lastError : DWORD) (codePage : UINT) (view : TerminatedView UInt8) :
    Behaves windows (windows.multiByteToWideChar codePage) view (view.length + 1)
      (ansii2WideAnswer windows codePage true (view.length + 1))
      (Ansii2WideHelper windows lastError codePage view.toView true) := by
  refine ⟨fun empty => ?_, ansii2_wide_negative windows lastError codePage true view.toView,
    ansii2_wide_zero windows lastError codePage true view,
    fun present positive nulSafe => ansii2_wide_positive windows lastError codePage true view present nulSafe positive,
    fun text => ?_, fun positive text vanished => ?_⟩
  · rw [Ansii2WideHelper, if_pos empty]
  · unfold ansii2WideAnswer
    cases converted : (windows.multiByteToWideChar codePage).convert text with
    | error error => exact .inl ⟨_, rfl⟩
    | ok wide =>
        by_cases fits : (wide.length : Int) + 1 ≤ staticCastInt (view.length + 1)
        · exact .inr ⟨wide, rfl, if_pos fits⟩
        · exact .inl ⟨_, if_neg fits⟩
  · have room : (([] : List UInt16).length : Int) + 1 ≤ staticCastInt (view.length + 1) := by
      rw [List.length_nil]
      omega
    rw [ansii2WideAnswer, vanished]
    exact if_pos room

def markWindows (wide : List UInt16) (narrow : List UInt8) : Windows :=
  ⟨fun _ _ => markPage wide 1, fun _ => markPage narrow 1, fun _ => "error"⟩

def TerminatedView.ended {α : Type} [OfNat α 0] (chars rest : List α) : TerminatedView α :=
  ⟨View.ended chars rest, by simp [View.ended]⟩

theorem view_locality (wide : TerminatedView UInt16) (narrow : TerminatedView UInt8) :
    ((∀ windows lastError codePage, NulSafe (conversionOf windows codePage) →
        Exact (conversionOf windows codePage) wide.toView (Wide2AnsiiHelper windows lastError codePage wide.toView true)) ↔
      EndsView wide.toView (wide.length * 2)) ∧
    ((∀ windows lastError codePage, NulSafe (windows.multiByteToWideChar codePage) →
        Exact (windows.multiByteToWideChar codePage) narrow.toView
          (Ansii2WideHelper windows lastError codePage narrow.toView true)) ↔
      EndsView narrow.toView (narrow.length + 1)) ∧
    (∀ other : TerminatedView UInt16, wide.chars = other.chars → EndsView wide.toView (wide.length * 2) →
      EndsView other.toView (other.length * 2) →
      ∀ windows lastError codePage, NulSafe (conversionOf windows codePage) →
        Wide2AnsiiHelper windows lastError codePage wide.toView true =
          Wide2AnsiiHelper windows lastError codePage other.toView true) ∧
    (∀ other : TerminatedView UInt8, narrow.chars = other.chars → EndsView narrow.toView (narrow.length + 1) →
      EndsView other.toView (other.length + 1) →
      ∀ windows lastError codePage, NulSafe (windows.multiByteToWideChar codePage) →
        Ansii2WideHelper windows lastError codePage narrow.toView true =
          Ansii2WideHelper windows lastError codePage other.toView true) := by
  refine ⟨⟨fun exact => ?_, fun ends windows lastError codePage nulSafe => ?_⟩,
    ⟨fun exact => ?_, fun ends windows lastError codePage nulSafe => ?_⟩,
    fun other same ends also windows lastError codePage nulSafe => ?_,
    fun other same ends also windows lastError codePage nulSafe => ?_⟩
  · exact ends_of_exact _ (1 : UInt8) (by decide) wide _ _ _ (wide2_ansii_behaves (markWindows wide.chars []) 0 cpAcp wide)
      (exact (markWindows wide.chars []) 0 cpAcp)
  · exact exact_of_ends windows _ nulSafe wide _ _ _ (wide2_ansii_behaves windows lastError codePage wide) ends
  · exact ends_of_exact _ (1 : UInt16) (by decide) narrow _ _ _
      (ansii2_wide_behaves (markWindows [] narrow.chars) 0 cpAcp narrow) (exact (markWindows [] narrow.chars) 0 cpAcp)
  · exact exact_of_ends windows _ nulSafe narrow _ _ _ (ansii2_wide_behaves windows lastError codePage narrow) ends
  · have lengths := same_length wide.toView other.toView same
    exact same_of_ends windows _ nulSafe wide other same _ _ _ _ (wide2_ansii_behaves windows lastError codePage wide)
      (lengths ▸ wide2_ansii_behaves windows lastError codePage other) ends (lengths ▸ also)
  · have lengths := same_length narrow.toView other.toView same
    exact same_of_ends windows _ nulSafe narrow other same _ _ _ _ (ansii2_wide_behaves windows lastError codePage narrow)
      (lengths ▸ ansii2_wide_behaves windows lastError codePage other) ends (lengths ▸ also)

def sampleView (last : UInt16) : View UInt16 := ⟨[97, 98, last, 0], 2, by simp⟩

-- "ab" as a view of "abc" and of "abd", and a view of bytes with a NUL inside.
theorem view_locality_fails :
    ¬ Exact (conversionOf euroWindows cpAcp) (sampleView 99) (Wide2AnsiiHelper euroWindows 0 cpAcp (sampleView 99) true) ∧
    Wide2AnsiiHelper euroWindows 0 cpAcp (sampleView 99) true ≠ Wide2AnsiiHelper euroWindows 0 cpAcp (sampleView 100) true ∧
    ¬ Exact (euroWindows.multiByteToWideChar cpAcp) ⟨[97, 0, 98, 0], 3, by decide⟩
      (Ansii2WideHelper euroWindows 0 cpAcp ⟨[97, 0, 98, 0], 3, by decide⟩ true) := by
  have wide : Wide2AnsiiHelper euroWindows 0 cpAcp (sampleView 99) true = some (.ok [97, 98, 99]) := by decide
  have other : Wide2AnsiiHelper euroWindows 0 cpAcp (sampleView 100) true = some (.ok [97, 98, 100]) := by decide
  have narrow : Ansii2WideHelper euroWindows 0 cpAcp ⟨[97, 0, 98, 0], 3, by decide⟩ true = some (.ok [97]) := by
    decide
  refine ⟨fun exact => ?_, by rw [wide, other]; decide, fun exact => ?_⟩
  · rw [wide, exact_returned] at exact
    revert exact
    decide
  · rw [narrow, exact_returned] at exact
    revert exact
    decide

end Rcp.Platform
