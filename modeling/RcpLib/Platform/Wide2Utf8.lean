import RcpLib.Platform.Utf8Scoped

set_option autoImplicit false

namespace Rcp.Platform.Mac

open Semantics Scoped

-- Core Foundation as far as toUtf8 goes: it refuses what is not valid text, when it
-- makes the string or when it converts it.
structure CoreFoundation extends calls : StringCalls where
  rejects : ∀ wide, ¬ ValidText wide → ∀ string, create .wide (word32Layout.encodeAll wide) = some string →
    ∀ maxBufLen, (getBytes string .narrow maxBufLen).1 = 0
  accepts : ∀ wide, wide ≠ [] → ValidText wide → ∃ string, create .wide (word32Layout.encodeAll wide) = some string ∧
    getLength string ≠ 0 ∧ getBytes string .narrow none = (getLength string, utf8 wide) ∧
    ∀ maxBufLen, (utf8 wide).length ≤ maxBufLen → getBytes string .narrow (some maxBufLen) = (getLength string, utf8 wide)

variable (foundation : CoreFoundation)

-- The text that the conversion returns, without the reference counts.
def toUtf8 (input : WText) : List UInt8 :=
  ((Scoped.toUtf8 foundation.calls input fun _ => 0).map Prod.fst).getD []

namespace PlatformBase

def Wide2Utf8 (input : WText) : List UInt8 := toUtf8 foundation input

end PlatformBase

theorem to_utf8_uncounted (counts : CFStringRef → Nat) (vacant : Vacant foundation.calls counts) (input : WText) :
    Scoped.toUtf8 foundation.calls input counts = some (toUtf8 foundation input, counts) := by
  obtain ⟨result, returned⟩ := conversions_same foundation.calls word32Layout byteLayout input .wide .narrow
  have fresh : Scoped.toUtf8 foundation.calls input (fun _ => 0) = some (result, fun _ => 0) :=
    returned (fun _ => 0) fun _ => rfl
  rw [toUtf8, fresh]
  exact returned counts vacant

theorem to_utf8_of_run (input : WText) (result : List UInt8)
    (run : Scoped.toUtf8 foundation.calls input (fun _ => 0) = some (result, fun _ => 0)) :
    toUtf8 foundation input = result := by
  have same := to_utf8_uncounted foundation (fun _ => 0) (fun _ => rfl) input
  rw [run] at same
  exact (Prod.mk.inj (Option.some.inj same)).1.symm

theorem to_utf8_invalid (wide : WText) (invalid : ¬ ValidText wide) : toUtf8 foundation wide = [] := by
  have nonempty : wide.length ≠ 0 := by
    intro empty
    rw [List.length_eq_zero_iff.mp empty] at invalid
    exact invalid (by decide)
  cases created : foundation.create .wide (word32Layout.encodeAll wide) with
  | none =>
      have creation : CFStringCreateWithBytesNoCopy foundation.calls .wide (word32Layout.encodeAll wide) (fun _ => 0) =
          some (none, fun _ => 0) := by
        simp [CFStringCreateWithBytesNoCopy, created]
      apply to_utf8_of_run
      rw [Scoped.toUtf8, STLStringToSTLStringWithEncodingsT, if_neg nonempty, ref_bind _ _ _ _ none creation]
      rfl
  | some text =>
      have nothing := foundation.rejects wide invalid text created none
      apply to_utf8_of_run
      apply scoped_run foundation.calls word32Layout byteLayout wide .wide .narrow _ (fun _ => rfl) nonempty text created
      exact conversion_refused foundation.calls byteLayout text .narrow (.inr (.inl nothing)) _ _ (by simp)

theorem to_utf8_valid (wide : WText) (nonempty : wide ≠ []) (valid : ValidText wide) :
    toUtf8 foundation wide = utf8 wide := by
  obtain ⟨text, created, counted, asked, written⟩ := foundation.accepts wide nonempty valid
  have filled := written (utf8 wide).length le_rfl
  rw [← byte_encode_all (utf8 wide)] at asked filled
  apply to_utf8_of_run
  apply scoped_run foundation.calls word32Layout byteLayout wide .wide .narrow _ (fun _ => rfl)
    (fun empty => nonempty (List.length_eq_zero_iff.mp empty)) text created
  exact conversion_units foundation.calls byteLayout _ .narrow _ (by simp) (utf8 wide) (utf8_nonempty wide nonempty)
    counted asked filled

end Rcp.Platform.Mac
