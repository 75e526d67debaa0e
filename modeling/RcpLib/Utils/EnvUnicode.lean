import RcpLib.Utils.EnvPosix

set_option autoImplicit false

namespace Rcp.Utils

open Semantics

section Lines

variable {Char : Type} [OfNat Char 61] [OfNat Char 10]

structure OneLine (item : EnvPairW Char) : Prop where
  plain : 61 ∉ item.1
  nameLine : 10 ∉ item.1
  valueLine : 10 ∉ item.2

theorem line_append (item : EnvPairW Char) (rest : List Char) :
    item.1 ++ [61] ++ item.2 ++ [10] ++ rest = item.1 ++ 61 :: item.2 ++ 10 :: rest := by
  simp

variable [DecidableEq Char]

theorem line_split (apart : (61 : Char) ≠ 10) (first second : EnvPairW Char) (left right : List Char)
    (oneLine : OneLine first) (also : OneLine second)
    (same : first.1 ++ [61] ++ first.2 ++ [10] ++ left = second.1 ++ [61] ++ second.2 ++ [10] ++ right) :
    first = second ∧ left = right := by
  have ends : ∀ item : EnvPairW Char, OneLine item → 10 ∉ item.1 ++ 61 :: item.2 := by
    intro item one
    simp [one.nameLine, one.valueLine, apart.symm]
  rw [line_append, line_append] at same
  have texts := congrArg (List.takeWhile (· ≠ 10)) same
  rw [take_while_stop 10 _ _ (ends first oneLine), take_while_stop 10 _ _ (ends second also)] at texts
  rw [texts] at same
  have rests := (List.cons.inj (List.append_cancel_left same)).2
  have names := congrArg (List.takeWhile (· ≠ 61)) texts
  rw [take_while_stop 61 _ _ oneLine.plain, take_while_stop 61 _ _ also.plain] at names
  rw [names] at texts
  have values := (List.cons.inj (List.append_cancel_left texts)).2
  exact ⟨Prod.ext names values, rests⟩

theorem lines_injective (apart : (61 : Char) ≠ 10) (first second : EnvsW Char) (oneLine : ∀ item ∈ first, OneLine item)
    (also : ∀ item ∈ second, OneLine item)
    (same : (first.flatMap fun it => it.1 ++ [61] ++ it.2 ++ [10]) =
      second.flatMap fun it => it.1 ++ [61] ++ it.2 ++ [10]) :
    first = second := by
  induction first generalizing second with
  | nil =>
      cases second with
      | nil => rfl
      | cons item rest => simp at same
  | cons item rest ih =>
      cases second with
      | nil => simp at same
      | cons other later =>
          rw [List.flatMap_cons, List.flatMap_cons] at same
          obtain ⟨here, there⟩ := line_split apart item other _ _ (oneLine item List.mem_cons_self)
            (also other List.mem_cons_self) same
          have others := ih later (fun item member => oneLine item (List.mem_cons_of_mem _ member))
            (fun item member => also item (List.mem_cons_of_mem _ member)) there
          rw [here, others]

end Lines

namespace Posix

open Platform.Mac Platform.Mac.Scoped

variable (services : StringServices)

def started (bindings : Assoc UnicodeName UnicodeText) (counts : CFStringRef → Nat) : GuardedEnv PosixEnv :=
  ⟨⟨environOf (renamed UnicodeName.narrow UnicodeText.narrow bindings), counts⟩, fun _ => none⟩

def cellsAfter (bindings : Assoc UnicodeName UnicodeText) (calls : List (EnvCall UnicodeName UnicodeText)) :
    UnicodeName → UnicodeText :=
  (calls.foldl (Cells.apply spelling) ⟨fun name => (find name bindings).getD .empty, fun _ => none⟩).cells

theorem started_observed (counts : CFStringRef → Nat) (vacant : Vacant services.calls counts)
    (bindings : Assoc UnicodeName UnicodeText) (distinct : Distinct bindings)
    (nonempty : ∀ binding ∈ bindings, binding.2.chars ≠ []) (calls : List (EnvCall UnicodeName UnicodeText)) :
    ∃ later, (started bindings counts).performAll (backend services.calls) spelling calls = some later ∧
      Represents counts later.environ (cellsAfter bindings calls) ∧
      Observed (backend services.calls) spelling later.environ (cellsAfter bindings calls) := by
  have now : Represents counts (started bindings counts).environ (fun name => (find name bindings).getD .empty) :=
    ⟨rfl, bindings, distinct, nonempty, rfl, fun _ => rfl⟩
  exact history_observed (backend services.calls) spelling (Represents counts) (posix_implements services counts vacant)
    _ _ now calls

theorem unicode_history (counts : CFStringRef → Nat) (vacant : Vacant services.calls counts)
    (bindings : Assoc UnicodeName UnicodeText) (distinct : Distinct bindings)
    (nonempty : ∀ binding ∈ bindings, binding.2.chars ≠ []) (calls : List (EnvCall UnicodeName UnicodeText)) :
    ∃ later, (started bindings counts).performAll (backend services.calls) spelling calls = some later ∧
      later.environ.counts = counts ∧
      Observed (backend services.calls) spelling later.environ (cellsAfter bindings calls) := by
  obtain ⟨later, performed, represents, observed⟩ := started_observed services counts vacant bindings distinct nonempty calls
  exact ⟨later, performed, represents.kept, observed⟩

def OneLined (cells : UnicodeName → UnicodeText) : Prop :=
  ∀ name, (cells name).chars ≠ [] → OneLine (name.chars, (cells name).chars)

theorem listed_one_line (cells : UnicodeName → UnicodeText) (lines : EnvsW UInt32) (lists : spelling.Lists cells lines)
    (oneLined : OneLined cells) : ∀ item ∈ lines, OneLine item := by
  intro item member
  obtain ⟨name, same, present⟩ := lists.named item member
  rw [same] at present ⊢
  exact oneLined name present

theorem listed_iff (cells : UnicodeName → UnicodeText) (lines : EnvsW UInt32) (lists : spelling.Lists cells lines)
    (item : EnvPairW UInt32) :
    item ∈ lines ↔ ∃ name : UnicodeName, item = (name.chars, (cells name).chars) ∧ (cells name).chars ≠ [] := by
  constructor
  · intro member
    obtain ⟨name, same, present⟩ := lists.named item member
    refine ⟨name, same, ?_⟩
    rw [same] at present
    exact present
  · intro listed
    obtain ⟨name, same, present⟩ := listed
    obtain ⟨other, key, member⟩ := lists.listed name present
    obtain rfl : other = name := key
    exact same ▸ member

theorem same_lines_iff (cells others : UnicodeName → UnicodeText) (lines rows : EnvsW UInt32)
    (lists : spelling.Lists cells lines) (also : spelling.Lists others rows)
    (ascending : lines.Pairwise fun a b => a.1 < b.1) (too : rows.Pairwise fun a b => a.1 < b.1) :
    lines = rows ↔ ∀ name, (cells name).chars = (others name).chars := by
  have read : ∀ (cells : UnicodeName → UnicodeText) (lines : EnvsW UInt32), spelling.Lists cells lines →
      ∀ (name : UnicodeName) (chars : WText), (name.chars, chars) ∈ lines ↔ (cells name).chars = chars ∧ chars ≠ [] := by
    intro cells lines lists name chars
    rw [listed_iff cells lines lists]
    constructor
    · intro listed
      obtain ⟨other, same, present⟩ := listed
      obtain ⟨names, values⟩ := Prod.mk.inj same
      obtain rfl := name_of_chars name other names
      exact ⟨values.symm, values ▸ present⟩
    · intro bound
      exact ⟨name, by rw [bound.1], by rw [bound.1]; exact bound.2⟩
  constructor
  · intro same name
    by_cases empty : (cells name).chars = []
    · by_contra differs
      have present : (others name).chars ≠ [] := fun absent => differs (empty.trans absent.symm)
      have member := (read others rows also name _).mpr ⟨rfl, present⟩
      rw [← same, read cells lines lists] at member
      exact differs member.1
    · have member := (read cells lines lists name _).mpr ⟨rfl, empty⟩
      rw [same, read others rows also] at member
      exact member.1.symm
  · intro same
    apply ascending_unique Prod.fst lines rows ascending too
    intro item
    rw [listed_iff cells lines lists, listed_iff others rows also]
    simp only [same]

theorem dump_identifies (counts others : CFStringRef → Nat) (vacant : Vacant services.calls counts)
    (free : Vacant services.calls others)
    (bindings initial : Assoc UnicodeName UnicodeText) (distinct : Distinct bindings) (apart : Distinct initial)
    (nonempty : ∀ binding ∈ bindings, binding.2.chars ≠ []) (present : ∀ binding ∈ initial, binding.2.chars ≠ [])
    (calls later : List (EnvCall UnicodeName UnicodeText)) (oneLined : OneLined (cellsAfter bindings calls))
    (also : OneLined (cellsAfter initial later)) (stdSort other : StdSort (EnvPairW UInt32)) :
    ∃ first second, (started bindings counts).performAll (backend services.calls) spelling calls = some first ∧
      (started initial others).performAll (backend services.calls) spelling later = some second ∧
      (((backend services.calls).dump stdSort first.environ).map Prod.fst =
          ((backend services.calls).dump other second.environ).map Prod.fst ↔
        ∀ (name : UnicodeName) (defVal : Bytes), (backend services.calls).get first.environ name.narrow.bytes defVal =
          (backend services.calls).get second.environ name.narrow.bytes defVal) := by
  obtain ⟨first, ran, _, seen⟩ := started_observed services counts vacant bindings distinct nonempty calls
  obtain ⟨second, ranToo, _, seenToo⟩ := started_observed services others free initial apart present later
  obtain ⟨lines, lists, ascending, dumped⟩ := seen.dump stdSort
  obtain ⟨rows, listsToo, ascendingToo, dumpedToo⟩ := seenToo.dump other
  refine ⟨first, second, ran, ranToo, ?_⟩
  have same_text : ((backend services.calls).dump stdSort first.environ).map Prod.fst =
      ((backend services.calls).dump other second.environ).map Prod.fst ↔ lines = rows := by
    rw [dumped, dumpedToo]
    constructor
    · intro same
      apply lines_injective (by decide) lines rows (listed_one_line _ lines lists oneLined)
        (listed_one_line _ rows listsToo also)
      exact Option.some.inj same
    · intro same
      rw [same]
      rfl
  rw [same_text, same_lines_iff _ _ lines rows lists listsToo ascending ascendingToo]
  constructor
  · intro same name defVal
    have bytes : spelling.textBytes (cellsAfter bindings calls (spelling.key name)) =
        spelling.textBytes (cellsAfter initial later (spelling.key name)) := congrArg utf8 (same name)
    have left := seen.get name defVal
    have right := seenToo.get name defVal
    rw [bytes] at left
    exact left.trans right.symm
  · intro same name
    have left := seen.get name []
    have right := seenToo.get name []
    rw [default_empty] at left right
    exact utf8_injective _ _ (cellsAfter bindings calls name).valid (cellsAfter initial later name).valid
      (left.symm.trans ((same name []).trans right))

def nameA : UnicodeName := ⟨[65], by decide, by decide, by decide, by decide⟩

def textOne : UnicodeText := ⟨[49], by decide, by decide⟩

def textEuro : UnicodeText := ⟨[0x20AC], by decide, by decide⟩

theorem unicode_history_euro : ∃ later,
    (started [(nameA, textOne)] fun _ => 0).performAll (backend strictServices.calls) spelling
      [.putWide nameA textEuro, .construct 0 nameA textOne, .clear nameA, .destroy 0] = some later ∧
    (backend strictServices.calls).getWide later.environ nameA.narrow.bytes [] = some ([0x20AC], later.environ) := by
  obtain ⟨later, performed, _, observed⟩ := unicode_history strictServices (fun _ => 0) (fun _ => rfl)
    [(nameA, textOne)] (by simp [Distinct]) (by simp [textOne])
    [.putWide nameA textEuro, .construct 0 nameA textOne, .clear nameA, .destroy 0]
  refine ⟨later, performed, (observed.getWide nameA []).trans ?_⟩
  have restored : cellsAfter [(nameA, textOne)]
      [.putWide nameA textEuro, .construct 0 nameA textOne, .clear nameA, .destroy 0] nameA = textEuro := rfl
  have present : spelling.textBytes textEuro ≠ [] := by decide
  exact congrArg some (Prod.ext (by rw [if_neg (restored ▸ present)]; exact congrArg UnicodeText.chars restored) rfl)

theorem dump_identifies_one : ∃ first second,
    (started [(nameA, textOne)] fun _ => 0).performAll (backend strictServices.calls) spelling [.clear nameA] = some first ∧
    (started [] fun _ => 0).performAll (backend strictServices.calls) spelling [] = some second ∧
    (((backend strictServices.calls).dump stableSort first.environ).map Prod.fst =
        ((backend strictServices.calls).dump stableSort second.environ).map Prod.fst ↔
      ∀ (name : UnicodeName) (defVal : Bytes), (backend strictServices.calls).get first.environ name.narrow.bytes defVal =
        (backend strictServices.calls).get second.environ name.narrow.bytes defVal) := by
  apply dump_identifies strictServices (fun _ => 0) (fun _ => 0) (fun _ => rfl) (fun _ => rfl) [(nameA, textOne)] []
    (by simp [Distinct]) (by simp [Distinct]) (by simp [textOne]) (by simp)
  · intro name present
    by_cases here : name = nameA
    · subst here
      exact absurd rfl present
    · simp [cellsAfter, Cells.apply, spelling, find, Ne.symm here, Function.update_of_ne here, UnicodeText.empty] at present
  · intro name present
    exact absurd rfl present

end Posix

end Rcp.Utils
