import RcpLib.Utils.EnvUnicode
import RcpLib.Utils.EnvWinCells

set_option autoImplicit false

namespace Rcp.Utils

open Semantics

structure AsciiText where
  bytes : Bytes
  nulFree : 0 ∉ bytes
  ascii : ∀ byte ∈ bytes, byte.toNat < 128
  short : bytes.length < Win.variableLimit

structure AsciiName extends AsciiText where
  nonempty : bytes ≠ []
  plain : equalSign ∉ bytes

theorem ascii_name_ext (first second : AsciiName) (same : first.bytes = second.bytes) : first = second := by
  obtain ⟨⟨_, _, _, _⟩, _, _⟩ := first
  obtain ⟨⟨_, _, _, _⟩, _, _⟩ := second
  cases same
  rfl

instance : DecidableEq AsciiName := fun first second =>
  decidable_of_iff (first.bytes = second.bytes) ⟨ascii_name_ext first second, fun same => same ▸ rfl⟩

def AsciiText.integer (number : IntegerValue) : AsciiText :=
  ⟨SysEnv.toString number.val, integer_nul_free number, integer_ascii number, Win.integer_short number⟩

def AsciiText.empty : AsciiText := ⟨[], EnvText.empty.nulFree, by simp, Win.empty_short⟩

def asciiSpelling : Spelling UInt8 AsciiName AsciiText AsciiName where
  nameBytes name := name.bytes
  nameChars name := name.bytes
  key := id
  textBytes text := text.bytes
  textChars text := text.bytes
  empty := .empty
  integer := .integer
  bytesFree text := text.nulFree
  charsFree text := text.nulFree
  emptyBytes := rfl
  integerBytes _ := rfl
  blank _ := Iff.rfl

section Renaming

variable {Char Char' Name Name' Text Text' Key Key' : Type} [OfNat Char 0] [OfNat Char' 0]

def EnvCall.renamed (rename : Name → Name') (change : Text → Text') : EnvCall Name Text → EnvCall Name' Text'
  | .put name value => .put (rename name) (change value)
  | .putWide name value => .putWide (rename name) (change value)
  | .putStr name val => .putStr (rename name) (val.map change)
  | .putStrWide name val => .putStrWide (rename name) (val.map change)
  | .putInteger name number => .putInteger (rename name) number
  | .clear name => .clear (rename name)
  | .construct id name value => .construct id (rename name) (change value)
  | .destroy id => .destroy id

def EnvCall.name : EnvCall Name Text → Option Name
  | .put name _ => some name
  | .putWide name _ => some name
  | .putStr name _ => some name
  | .putStrWide name _ => some name
  | .putInteger name _ => some name
  | .clear name => some name
  | .construct _ name _ => some name
  | .destroy _ => none

variable (spelling : Spelling Char Name Text Key) (other : Spelling Char' Name' Text' Key') (rename : Name → Name')
  (change : Text → Text') (used : Name → Prop)

-- One model seen through other names and texts, as far as the used names go.
structure Alike (model : Cells Name Text Key) (image : Cells Name' Text' Key') : Prop where
  cells : ∀ name, used name → image.cells (other.key (rename name)) = change (model.cells (spelling.key name))
  guards : ∀ id, image.guards id = (model.guards id).map fun saved => (rename saved.1, change saved.2)
  guarded : ∀ id saved, model.guards id = some saved → used saved.1

-- The images of two used names are one variable exactly when the names are.
structure Faithful : Prop where
  keys : ∀ first second, used first → used second →
    (other.key (rename first) = other.key (rename second) ↔ spelling.key first = spelling.key second)
  empty : change spelling.empty = other.empty
  integer : ∀ number, change (spelling.integer number) = other.integer number

variable [DecidableEq Key] [DecidableEq Key'] (faithful : Faithful spelling other rename change used)

include faithful

theorem alike_written (model : Cells Name Text Key) (image : Cells Name' Text' Key')
    (alike : Alike spelling other rename change used model image) (name : Name) (known : used name) (value : Text)
    (another : Name) (also : used another) :
    Function.update image.cells (other.key (rename name)) (change value) (other.key (rename another)) =
      change (Function.update model.cells (spelling.key name) value (spelling.key another)) := by
  have keys := faithful.keys another name also known
  rw [Function.update_apply, Function.update_apply]
  by_cases same : spelling.key another = spelling.key name
  · rw [if_pos (keys.mpr same), if_pos same]
  · rw [if_neg fun image => same (keys.mp image), if_neg same]
    exact alike.cells another also

theorem alike_apply (model : Cells Name Text Key) (image : Cells Name' Text' Key')
    (alike : Alike spelling other rename change used model image) (call : EnvCall Name Text)
    (about : ∀ name, call.name = some name → used name) :
    Alike spelling other rename change used (model.apply spelling call) (image.apply other (call.renamed rename change)) := by
  have written := alike_written spelling other rename change used faithful model image alike
  cases call with
  | put name value => exact ⟨written name (about name rfl) value, alike.guards, alike.guarded⟩
  | putWide name value => exact ⟨written name (about name rfl) value, alike.guards, alike.guarded⟩
  | putStr name val =>
      cases val with
      | none => exact alike
      | some value => exact ⟨written name (about name rfl) value, alike.guards, alike.guarded⟩
  | putStrWide name val =>
      cases val with
      | none => exact alike
      | some value => exact ⟨written name (about name rfl) value, alike.guards, alike.guarded⟩
  | putInteger name number =>
      refine ⟨?_, alike.guards, alike.guarded⟩
      have cells := written name (about name rfl) (spelling.integer number)
      rw [faithful.integer] at cells
      exact cells
  | clear name =>
      refine ⟨?_, alike.guards, alike.guarded⟩
      have cells := written name (about name rfl) spelling.empty
      rw [faithful.empty] at cells
      exact cells
  | construct id name value =>
      have same := alike.guards id
      cases live : model.guards id with
      | some saved =>
          rw [live] at same
          simp only [Cells.apply, EnvCall.renamed, live, same, Option.map_some]
          exact alike
      | none =>
          rw [live] at same
          simp only [Cells.apply, EnvCall.renamed, live, same, Option.map_none]
          refine ⟨written name (about name rfl) value, fun guard => ?_, fun guard saved held => ?_⟩
          · dsimp only
            rw [Function.update_apply, Function.update_apply, alike.cells name (about name rfl)]
            split
            · rfl
            · exact alike.guards guard
          · dsimp only at held
            rw [Function.update_apply] at held
            split at held
            · cases held
              exact about name rfl
            · exact alike.guarded guard saved held
  | destroy id =>
      have same := alike.guards id
      cases live : model.guards id with
      | none =>
          rw [live] at same
          simp only [Cells.apply, EnvCall.renamed, live, same, Option.map_none]
          exact alike
      | some saved =>
          rw [live] at same
          simp only [Cells.apply, EnvCall.renamed, live, same, Option.map_some]
          refine ⟨written saved.1 (alike.guarded id saved live) saved.2, fun guard => ?_, fun guard saved held => ?_⟩
          · dsimp only
            rw [Function.update_apply, Function.update_apply]
            split
            · rfl
            · exact alike.guards guard
          · dsimp only at held
            rw [Function.update_apply] at held
            split at held
            · cases held
            · exact alike.guarded guard saved held

theorem alike_history (calls : List (EnvCall Name Text)) (about : ∀ call ∈ calls, ∀ name, call.name = some name → used name)
    (model : Cells Name Text Key) (image : Cells Name' Text' Key') (alike : Alike spelling other rename change used model image) :
    Alike spelling other rename change used (calls.foldl (Cells.apply spelling) model)
      ((calls.map (EnvCall.renamed rename change)).foldl (Cells.apply other) image) := by
  induction calls generalizing model image with
  | nil => exact alike
  | cons call rest ih =>
      apply ih (fun later member => about later (List.mem_cons_of_mem _ member))
      exact alike_apply spelling other rename change used faithful model image alike call (about call List.mem_cons_self)

end Renaming

section Agreement

open Platform.Mac Platform.Mac.Scoped

def AsciiText.unicode (self : AsciiText) : Posix.UnicodeText where
  chars := Posix.wideAscii self.bytes
  valid := Posix.ascii_valid self.bytes self.ascii
  nulFree := Posix.ascii_nul_free self.bytes self.nulFree

def AsciiName.unicode (self : AsciiName) : Posix.UnicodeName where
  chars := Posix.wideAscii self.bytes
  valid := Posix.ascii_valid self.bytes self.ascii
  nulFree := Posix.ascii_nul_free self.bytes self.nulFree
  nonempty := by simpa [Posix.wideAscii] using self.nonempty
  plain := by
    intro member
    obtain ⟨byte, inside, same⟩ := List.mem_map.mp member
    have sizes := congrArg UInt32.toNat same
    rw [UInt8.toNat_toUInt32] at sizes
    have found : byte = equalSign := UInt8.toNat_inj.mp sizes
    exact self.plain (found ▸ inside)

theorem unicode_bytes (name : AsciiName) : name.unicode.narrow.bytes = name.bytes := Posix.utf8_ascii name.bytes name.ascii

theorem unicode_injective (first second : AsciiName) (same : first.unicode = second.unicode) : first = second := by
  apply ascii_name_ext
  rw [← unicode_bytes first, same, unicode_bytes second]

theorem faithful_unicode (used : AsciiName → Prop) :
    Faithful asciiSpelling Posix.spelling AsciiName.unicode AsciiText.unicode used where
  keys first second _ _ := ⟨unicode_injective first second, fun same => congrArg AsciiName.unicode same⟩
  empty := rfl
  integer _ := rfl

variable (system : Win.WinSystem)

def AsciiText.page (self : AsciiText) : Win.PageText system :=
  .ofAscii system self.bytes self.nulFree self.ascii self.short

def AsciiName.page (self : AsciiName) : Win.PageName system where
  toPageText := self.toAsciiText.page system
  nonempty := by simpa [AsciiText.page, Win.PageText.ofAscii] using self.nonempty
  plain := by
    intro member
    obtain ⟨byte, inside, same⟩ := List.mem_map.mp member
    have sizes := congrArg UInt16.toNat same
    rw [UInt8.toNat_toUInt16] at sizes
    have found : byte = equalSign := UInt8.toNat_inj.mp sizes
    exact self.plain (found ▸ inside)
  shorter := by simp [AsciiText.page, Win.PageText.ofAscii]

def AsciiName.upper (name : AsciiName) : Win.WText := system.fold (name.bytes.map UInt8.toUInt16)

def Apart (used : AsciiName → Prop) : Prop :=
  ∀ first second, used first → used second → first.upper system = second.upper system → first = second

theorem faithful_page (used : AsciiName → Prop) (apart : Apart system used) :
    Faithful asciiSpelling (Win.spelling system) (AsciiName.page system) (AsciiText.page system) used where
  keys first second known also := ⟨apart first second known also, fun same => congrArg (AsciiName.upper system) same⟩
  empty := rfl
  integer _ := rfl

variable (services : StringServices)

-- The wide texts are of other character types, with one ASCII text behind them.
structure SameAnswers (posix : Posix.PosixEnv) (win : Win.WinEnviron) (name : AsciiName) : Prop where
  get : ∀ defVal, (Posix.backend services.calls).get posix name.bytes defVal = (Win.backend system).get win name.bytes defVal
  bound : (Posix.backend services.calls).envExists posix name.bytes = (Win.backend system).envExists win name.bytes
  wide : ∀ defVal : AsciiText, ∃ text : AsciiText,
    (Posix.backend services.calls).getWide posix name.bytes (Posix.wideAscii defVal.bytes) =
      some (Posix.wideAscii text.bytes, posix) ∧
    (Win.backend system).getWide win name.bytes (defVal.bytes.map UInt8.toUInt16) =
      some (text.bytes.map UInt8.toUInt16, win)

def About (used : AsciiName → Prop) (calls : List (EnvCall AsciiName AsciiText)) : Prop :=
  ∀ call ∈ calls, ∀ name, call.name = some name → used name

-- A program that starts without variables cannot tell the platforms apart.
def Portable (counts : CFStringRef → Nat) (used : AsciiName → Prop) : Prop :=
  ∀ calls, About used calls → ∃ posix win,
    GuardedEnv.performAll (Posix.backend services.calls) Posix.spelling
      (calls.map (EnvCall.renamed AsciiName.unicode AsciiText.unicode)) ⟨⟨[], counts⟩, fun _ => none⟩ = some posix ∧
    GuardedEnv.performAll (Win.backend system) (Win.spelling system)
      (calls.map (EnvCall.renamed (AsciiName.page system) (AsciiText.page system))) ⟨[], fun _ => none⟩ = some win ∧
    ∀ name, used name → SameAnswers system services posix.environ win.environ name

def nothing : Cells AsciiName AsciiText AsciiName := ⟨fun _ => .empty, fun _ => none⟩

theorem posix_observed (counts : CFStringRef → Nat) (vacant : Vacant services.calls counts)
    (calls : List (EnvCall Posix.UnicodeName Posix.UnicodeText)) :
    ∃ later,
      GuardedEnv.performAll (Posix.backend services.calls) Posix.spelling calls ⟨⟨[], counts⟩, fun _ => none⟩ = some later ∧
      Observed (Posix.backend services.calls) Posix.spelling later.environ
        (calls.foldl (Cells.apply Posix.spelling) ⟨fun _ => .empty, fun _ => none⟩).cells := by
  obtain ⟨later, performed, _, observed⟩ :=
    Posix.started_observed services counts vacant [] (by simp [Distinct]) (by simp) calls
  exact ⟨later, performed, observed⟩

theorem win_observed (calls : List (EnvCall (Win.PageName system) (Win.PageText system))) :
    ∃ later, GuardedEnv.performAll (Win.backend system) (Win.spelling system) calls ⟨[], fun _ => none⟩ = some later ∧
      Observed (Win.backend system) (Win.spelling system) later.environ
        (calls.foldl (Cells.apply (Win.spelling system)) ⟨fun _ => .empty system, fun _ => none⟩).cells := by
  obtain ⟨later, performed, _, observed⟩ := history_observed (Win.backend system) (Win.spelling system)
    (Win.Represents system) (Win.win_implements system) _ _ (Win.represents_nothing system) calls
  exact ⟨later, performed, observed⟩

theorem same_cell_get {Env Char Name Text Key : Type} [OfNat Char 0] [LinearOrder Char] [OfNat Char 61] [OfNat Char 10]
    {backend : SysEnvBackend Env Char} {spelling : Spelling Char Name Text Key} {environ : Env} {cells : Key → Text}
    (observed : Observed backend spelling environ cells) (name : Name) (text : Text) (held : cells (spelling.key name) = text) :
    backend.get environ (spelling.nameBytes name) [] = spelling.textBytes text := by
  rw [observed.get name, held, default_empty]

theorem same_of_cells (posix : Posix.PosixEnv) (win : Win.WinEnviron) (unicode : Posix.UnicodeName → Posix.UnicodeText)
    (page : Win.WText → Win.PageText system) (observed : Observed (Posix.backend services.calls) Posix.spelling posix unicode)
    (also : Observed (Win.backend system) (Win.spelling system) win page) (name : AsciiName) (text : AsciiText)
    (here : unicode name.unicode = text.unicode) (there : page (name.upper system) = text.page system) :
    SameAnswers system services posix win name := by
  have left : Posix.spelling.textBytes (unicode name.unicode) = text.bytes := by
    rw [here]
    exact Posix.utf8_ascii text.bytes text.ascii
  have right : (Win.spelling system).textBytes (page (name.upper system)) = text.bytes := by
    rw [there]
    rfl
  have get := observed.get name.unicode
  have getToo := also.get (name.page system)
  have wide := observed.getWide name.unicode
  have wideToo := also.getWide (name.page system)
  have bytes : Posix.spelling.nameBytes name.unicode = name.bytes := unicode_bytes name
  simp only [show Posix.spelling.key name.unicode = name.unicode from rfl, left, bytes] at get wide
  simp only [show (Win.spelling system).key (name.page system) = name.upper system from rfl, right,
    show (Win.spelling system).nameBytes (name.page system) = name.bytes from rfl] at getToo wideToo
  refine ⟨fun defVal => (get defVal).trans (getToo defVal).symm, ?_, fun defVal => ?_⟩
  · rw [SysEnvBackend.envExists, SysEnvBackend.envExists, get, getToo]
  · rw [wide, wideToo]
    by_cases empty : text.bytes = []
    · exact ⟨defVal, by simp only [if_pos empty], by simp only [if_pos empty]⟩
    · refine ⟨text, ?_, ?_⟩
      · simp only [if_neg empty]
        exact congrArg (fun text => some (Posix.UnicodeText.chars text, posix)) here
      · simp only [if_neg empty]
        exact congrArg (fun text => some (Win.PageText.chars text, win)) there

theorem portable_of_apart (counts : CFStringRef → Nat) (vacant : Vacant services.calls counts) (used : AsciiName → Prop)
    (apart : Apart system used) : Portable system services counts used := by
  intro calls about
  obtain ⟨posix, ran, observed⟩ := posix_observed services counts vacant
    (calls.map (EnvCall.renamed AsciiName.unicode AsciiText.unicode))
  obtain ⟨win, ranToo, observedToo⟩ := win_observed system
    (calls.map (EnvCall.renamed (AsciiName.page system) (AsciiText.page system)))
  have unicode := alike_history asciiSpelling Posix.spelling AsciiName.unicode AsciiText.unicode used
    (faithful_unicode used) calls about nothing ⟨fun _ => .empty, fun _ => none⟩ ⟨fun _ _ => rfl, fun _ => rfl, by simp [nothing]⟩
  have page := alike_history asciiSpelling (Win.spelling system) (AsciiName.page system) (AsciiText.page system) used
    (faithful_page system used apart) calls about nothing ⟨fun _ => .empty system, fun _ => none⟩
    ⟨fun _ _ => rfl, fun _ => rfl, by simp [nothing]⟩
  refine ⟨posix, win, ran, ranToo, fun name known => ?_⟩
  exact same_of_cells system services posix.environ win.environ _ _ observed observedToo name _
    (unicode.cells name known) (page.cells name known)

def AsciiText.seven : AsciiText := ⟨[55], by decide, by simp, by decide⟩

-- One put under a name shows under another one on Windows only, when the two names
-- are the same in upper case.
theorem apart_of_portable (counts : CFStringRef → Nat) (vacant : Vacant services.calls counts) (used : AsciiName → Prop)
    (portable : Portable system services counts used) : Apart system used := by
  intro first second known also same
  by_contra different
  obtain ⟨posix, win, ran, ranToo, answers⟩ := portable [.put first .seven] (by
    intro call member name about
    obtain rfl := List.mem_singleton.mp member
    obtain rfl : first = name := Option.some.inj about
    exact known)
  obtain ⟨later, performed, observed⟩ := posix_observed services counts vacant
    [EnvCall.renamed AsciiName.unicode AsciiText.unicode (.put first .seven)]
  obtain ⟨after, performedToo, observedToo⟩ := win_observed system
    [EnvCall.renamed (AsciiName.page system) (AsciiText.page system) (.put first .seven)]
  obtain rfl : later = posix := Option.some.inj (performed.symm.trans ran)
  obtain rfl : after = win := Option.some.inj (performedToo.symm.trans ranToo)
  have unicode : Function.update (fun _ => Posix.UnicodeText.empty) first.unicode AsciiText.seven.unicode second.unicode =
      Posix.UnicodeText.empty := Function.update_of_ne (fun equal => different (unicode_injective second first equal).symm) _ _
  have page : Function.update (fun _ => Win.PageText.empty system) (first.upper system) (AsciiText.seven.page system)
      (second.upper system) = AsciiText.seven.page system := by
    rw [same, Function.update_self]
  have left : (Posix.backend services.calls).get later.environ second.unicode.narrow.bytes [] = [] :=
    same_cell_get observed second.unicode _ unicode
  have right : (Win.backend system).get after.environ second.bytes [] = [55] :=
    same_cell_get observedToo (second.page system) _ page
  rw [unicode_bytes, (answers second also).get, right] at left
  cases left

theorem backends_agree (counts : CFStringRef → Nat) (vacant : Vacant services.calls counts) (used : AsciiName → Prop) :
    Portable system services counts used ↔ Apart system used :=
  ⟨apart_of_portable system services counts vacant used, portable_of_apart system services counts vacant used⟩

def asciiUpper : AsciiName where
  bytes := [84, 77]
  nulFree := by decide
  ascii := by simp
  short := by decide
  nonempty := by decide
  plain := by decide

def asciiLower : AsciiName where
  bytes := [116, 109]
  nulFree := by decide
  ascii := by simp
  short := by decide
  nonempty := by decide
  plain := by decide

theorem backends_agree_cases :
    Portable Win.latinSystem strictServices (fun _ => 0) (fun name => name = asciiUpper) ∧
      ¬ Portable Win.latinSystem strictServices (fun _ => 0) fun _ => True := by
  constructor
  · apply (backends_agree Win.latinSystem strictServices (fun _ => 0) (fun _ => rfl) _).mpr
    intro first second known also _
    exact known.trans also.symm
  · intro portable
    have apart := (backends_agree Win.latinSystem strictServices (fun _ => 0) (fun _ => rfl) _).mp portable
    have same := congrArg (fun name => name.bytes) (apart asciiUpper asciiLower trivial trivial (by decide))
    revert same
    decide

end Agreement

end Rcp.Utils
