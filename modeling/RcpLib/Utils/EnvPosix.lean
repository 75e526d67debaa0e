import RcpLib.Platform.Utf8Scoped
import RcpLib.Utils.EnvHistories

set_option autoImplicit false

namespace Rcp.Utils.Posix

open Semantics Platform.Mac Platform.Mac.Scoped

-- A wchar_t of a valid text is never negative, so its order is that of its code points.
instance wcharOrder : LinearOrder UInt32 :=
  orderOfValues UInt32.toNat (fun _ _ => UInt32.toNat_inj.mp) (fun _ _ => UInt32.le_iff_toNat_le.symm)
    fun _ _ => UInt32.lt_iff_toNat_lt.symm

structure PosixEnv where
  environ : Environ
  counts : CFStringRef → Nat

variable (calls : StringCalls)

namespace SysEnvProc

def getW (self : PosixEnv) (varName : Bytes) : Option (WText × PosixEnv) := do
  let (value, counts) ← fromUtf8 calls (Utils.SysEnvProc.getA self.environ varName) self.counts
  return (value, { self with counts := counts })

def putW (self : PosixEnv) (varName : Bytes) (value : WText) : Option PosixEnv := do
  let (value, counts) ← toUtf8 calls value self.counts
  return ⟨Utils.SysEnvProc.put self.environ varName value, counts⟩

def allW : Environ → RefM CFStringRef (EnvsW UInt32)
  | [] => return []
  | current :: rest =>
      match Utils.SysEnvProc.findEqual current with
      | some pEqual => do
          let varName ← fromUtf8 calls (current.take pEqual)
          let value ← fromUtf8 calls (current.drop (pEqual + 1))
          return (varName, value) :: (← allW rest)
      | none => allW rest

end SysEnvProc

def backend : SysEnvBackend PosixEnv UInt32 where
  getA self varName := Utils.SysEnvProc.getA self.environ varName
  getW := SysEnvProc.getW calls
  put self varName value := { self with environ := Utils.SysEnvProc.put self.environ varName value }
  putW := SysEnvProc.putW calls
  allW self := do
    let (items, counts) ← SysEnvProc.allW calls self.environ self.counts
    return (items, { self with counts := counts })

variable (services : StringServices)

def equalSignW : UInt32 := 61

structure UnicodeName where
  chars : WText
  valid : ValidText chars
  nulFree : 0 ∉ chars
  nonempty : chars ≠ []
  plain : equalSignW ∉ chars
deriving DecidableEq

structure UnicodeText where
  chars : WText
  valid : ValidText chars
  nulFree : 0 ∉ chars
deriving DecidableEq

theorem encode_plain (char : Char) (byte : UInt8) (ascii : byte.toNat < 128) (different : char.toNat ≠ byte.toNat) :
    byte ∉ String.utf8EncodeChar char := by
  have value : char.val.toNat ≠ byte.toNat := different
  have apart : ∀ units : Nat, units % 256 ≠ byte.toNat → byte ≠ UInt8.ofNat units := by
    intro units differs same
    have sizes := congrArg UInt8.toNat same
    rw [UInt8.toNat_ofNat'] at sizes
    exact differs sizes.symm
  simp only [String.utf8EncodeChar]
  split
  · simp only [List.mem_singleton]
    exact apart _ (by omega)
  · split
    · simp only [List.mem_cons, List.not_mem_nil, or_false, not_or]
      exact ⟨apart _ (by omega), apart _ (by omega)⟩
    · split
      · simp only [List.mem_cons, List.not_mem_nil, or_false, not_or]
        exact ⟨apart _ (by omega), apart _ (by omega), apart _ (by omega)⟩
      · simp only [List.mem_cons, List.not_mem_nil, or_false, not_or]
        exact ⟨apart _ (by omega), apart _ (by omega), apart _ (by omega), apart _ (by omega)⟩

theorem utf8_plain (wide : WText) (valid : ValidText wide) (plain : equalSignW ∉ wide) : equalSign ∉ utf8 wide := by
  intro member
  obtain ⟨char, inside, encoded⟩ := List.mem_flatMap.mp member
  have value : (Char.ofNat char.toNat).toNat = char.toNat := by
    rw [Char.ofNat, dif_pos (valid char inside)]
    rfl
  refine encode_plain _ equalSign (by decide) ?_ encoded
  rw [value]
  intro same
  have found : char = equalSignW := UInt32.toNat_inj.mp same
  exact plain (found ▸ inside)

theorem utf8_injective (first second : WText) (valid : ValidText first) (also : ValidText second)
    (same : utf8 first = utf8 second) : first = second := by
  have vacant : Vacant strictServices.calls fun _ => 0 := fun _ => rfl
  have read := from_utf8_text strictServices _ vacant first valid
  rw [same, from_utf8_text strictServices _ vacant second also] at read
  exact (Prod.mk.inj (Option.some.inj read)).1.symm

def UnicodeName.narrow (self : UnicodeName) : EnvName where
  bytes := utf8 self.chars
  nulFree := utf8_nul_free self.chars self.valid self.nulFree
  nonempty := utf8_nonempty self.chars self.nonempty
  plain := utf8_plain self.chars self.valid self.plain

def UnicodeText.narrow (self : UnicodeText) : EnvText where
  bytes := utf8 self.chars
  nulFree := utf8_nul_free self.chars self.valid self.nulFree

theorem name_of_chars (first second : UnicodeName) (same : first.chars = second.chars) : first = second := by
  cases first
  cases second
  cases same
  rfl

theorem name_injective : Function.Injective UnicodeName.narrow := by
  intro first second same
  apply name_of_chars
  exact utf8_injective first.chars second.chars first.valid second.valid (congrArg EnvName.bytes same)

theorem utf8_empty_iff (wide : WText) : utf8 wide = [] ↔ wide = [] := by
  refine ⟨fun empty => ?_, fun empty => by rw [empty]; rfl⟩
  by_contra nonempty
  exact utf8_nonempty wide nonempty empty

def wideAscii (bytes : Bytes) : WText := bytes.map UInt8.toUInt32

theorem ascii_valid (bytes : Bytes) (ascii : ∀ byte ∈ bytes, byte.toNat < 128) : ValidText (wideAscii bytes) := by
  intro char member
  obtain ⟨byte, inside, same⟩ := List.mem_map.mp member
  have small := ascii byte inside
  rw [← same]
  simp only [UInt8.toNat_toUInt32, Nat.isValidChar]
  omega

theorem utf8_ascii (bytes : Bytes) (ascii : ∀ byte ∈ bytes, byte.toNat < 128) : utf8 (wideAscii bytes) = bytes := by
  induction bytes with
  | nil => rfl
  | cons byte rest ih =>
      have small := ascii byte List.mem_cons_self
      have value : (Char.ofNat byte.toNat).val.toNat = byte.toNat := by
        rw [Char.ofNat, dif_pos (by simp only [Nat.isValidChar]; omega)]
        rfl
      have one : String.utf8EncodeChar (Char.ofNat byte.toNat) = [byte] := by
        simp only [String.utf8EncodeChar, value]
        rw [if_pos (by omega), UInt8.ofNat_toNat]
      have others := ih fun other member => ascii other (List.mem_cons_of_mem _ member)
      rw [utf8, wideAscii] at others
      rw [utf8, wideAscii, List.map_cons, List.flatMap_cons, UInt8.toNat_toUInt32, one, others, List.singleton_append]

theorem ascii_nul_free (bytes : Bytes) (nulFree : 0 ∉ bytes) : 0 ∉ wideAscii bytes := by
  intro member
  obtain ⟨byte, inside, same⟩ := List.mem_map.mp member
  have zero : byte = 0 := by
    have sizes := congrArg UInt32.toNat same
    exact UInt8.toNat_inj.mp (by simpa using sizes)
  exact nulFree (zero ▸ inside)

def unicodeInteger (number : IntegerValue) : UnicodeText where
  chars := wideAscii (SysEnv.toString number.val)
  valid := ascii_valid _ (integer_ascii number)
  nulFree := ascii_nul_free _ (integer_nul_free number)

def UnicodeText.empty : UnicodeText := ⟨[], by simp [ValidText], by simp⟩

-- Both interfaces take the same text: the wide one its characters, the narrow one
-- their UTF-8.
def spelling : Spelling UInt32 UnicodeName UnicodeText UnicodeName where
  nameBytes name := name.narrow.bytes
  nameChars name := name.chars
  key := id
  textBytes text := text.narrow.bytes
  textChars text := text.chars
  empty := .empty
  integer := unicodeInteger
  bytesFree text := text.narrow.nulFree
  charsFree text := text.nulFree
  emptyBytes := rfl
  integerBytes number := utf8_ascii _ (integer_ascii number)
  blank text := utf8_empty_iff text.chars

structure Represents (counts : CFStringRef → Nat) (process : PosixEnv) (cells : UnicodeName → UnicodeText) : Prop where
  kept : process.counts = counts
  bound : ∃ bindings : Assoc UnicodeName UnicodeText, Distinct bindings ∧ (∀ binding ∈ bindings, binding.2.chars ≠ []) ∧
    process.environ = environOf (renamed UnicodeName.narrow UnicodeText.narrow bindings) ∧
    ∀ name, cells name = (find name bindings).getD .empty

theorem stored_cells (bindings : Assoc UnicodeName UnicodeText) (cells : UnicodeName → UnicodeText)
    (found : ∀ name, cells name = (find name bindings).getD .empty) (name : UnicodeName) (value : UnicodeText)
    (later : Assoc UnicodeName UnicodeText)
    (changed : ∀ other, (find other later).getD .empty = if other = name then value else (find other bindings).getD .empty)
    (other : UnicodeName) : Function.update cells name value other = (find other later).getD .empty := by
  rw [changed, Function.update_apply, found]

theorem represents_put (counts : CFStringRef → Nat) (self : PosixEnv) (cells : UnicodeName → UnicodeText)
    (now : Represents counts self cells) (name : UnicodeName) (value : UnicodeText) :
    Represents counts { self with environ := Utils.SysEnvProc.put self.environ name.narrow.bytes value.narrow.bytes }
      (Function.update cells name value) := by
  obtain ⟨kept, bindings, distinct, nonempty, same, found⟩ := now
  refine ⟨kept, ?_⟩
  dsimp only
  rw [same, Utils.SysEnvProc.put, c_string_whole _ name.narrow.nulFree, c_string_whole _ value.narrow.nulFree]
  by_cases empty : value.chars = []
  · have blank : value.narrow.bytes = [] := (utf8_empty_iff value.chars).mpr empty
    have none : value = .empty := by
      cases value
      cases empty
      rfl
    rw [if_pos blank, unsetenv_entries, remove_renamed _ _ name_injective]
    refine ⟨remove name bindings, distinct_remove name bindings distinct,
      fun binding member => nonempty binding (List.mem_filter.mp member).1, rfl, ?_⟩
    apply stored_cells bindings cells found
    intro other
    rw [find_remove]
    by_cases here : other = name <;> simp [here, none]
  · have present : value.narrow.bytes ≠ [] := fun blank => empty ((utf8_empty_iff value.chars).mp blank)
    rw [if_neg present, setenv_entries, store_renamed _ _ name_injective]
    refine ⟨store name value bindings, distinct_store name value bindings distinct, fun binding member => ?_, rfl, ?_⟩
    · rcases mem_store name value bindings binding member with here | earlier
      · rw [here]
        exact empty
      · exact nonempty binding earlier
    · apply stored_cells bindings cells found
      intro other
      rw [find_store]
      by_cases here : other = name <;> simp [here]

theorem represents_getA (counts : CFStringRef → Nat) (self : PosixEnv) (cells : UnicodeName → UnicodeText)
    (now : Represents counts self cells) (name : UnicodeName) :
    Utils.SysEnvProc.getA self.environ name.narrow.bytes = utf8 (cells name).chars := by
  obtain ⟨_, bindings, _, _, same, found⟩ := now
  rw [Utils.SysEnvProc.getA, c_string_whole _ name.narrow.nulFree, same, getenv_entries, find_renamed _ _ name_injective,
    found]
  cases find name bindings <;> rfl

theorem all_items (counts : CFStringRef → Nat) (vacant : Vacant services.calls counts)
    (bindings : Assoc UnicodeName UnicodeText) :
    SysEnvProc.allW services.calls (environOf (renamed UnicodeName.narrow UnicodeText.narrow bindings)) counts =
      some (bindings.map fun binding => (binding.1.chars, binding.2.chars), counts) := by
  induction bindings with
  | nil => rfl
  | cons binding rest ih =>
      obtain ⟨name, value⟩ := binding
      have rest' : SysEnvProc.allW services.calls (List.map entryOf (List.map (fun binding : UnicodeName × UnicodeText =>
          (binding.1.narrow, binding.2.narrow)) rest)) counts = _ := ih
      have named : fromUtf8 services.calls name.narrow.bytes counts = _ :=
        from_utf8_text services counts vacant name.chars name.valid
      have valued : fromUtf8 services.calls value.narrow.bytes counts = _ :=
        from_utf8_text services counts vacant value.chars value.valid
      simp only [environOf, renamed, List.map_cons, SysEnvProc.allW, Utils.SysEnvProc.findEqual, entryOf,
        find_idx_stop equalSign _ _ name.narrow.plain, drop_stop, List.take_left]
      rw [ref_bind _ _ counts counts _ named, ref_bind _ _ counts counts _ valued, ref_bind _ _ counts counts _ rest']
      rfl

theorem lists_items (bindings : Assoc UnicodeName UnicodeText) (distinct : Distinct bindings)
    (nonempty : ∀ binding ∈ bindings, binding.2.chars ≠ []) (cells : UnicodeName → UnicodeText)
    (found : ∀ name, cells name = (find name bindings).getD .empty) :
    spelling.Lists cells (bindings.map fun binding => (binding.1.chars, binding.2.chars)) := by
  have held : ∀ binding ∈ bindings, cells binding.1 = binding.2 := by
    intro binding member
    rw [found, (find_iff_mem binding.1 binding.2 bindings distinct).mpr member, Option.getD_some]
  refine ⟨fun name present => ⟨name, rfl, ?_⟩, fun item member => ?_, ?_, fun first second same _ _ => congrArg _ same⟩
  · cases bound : find name bindings with
    | none =>
        have absent : (cells name).chars = [] := by
          rw [found, bound]
          rfl
        exact absurd absent present
    | some value =>
        have member := mem_of_find name value bindings bound
        have here : cells name = value := held (name, value) member
        exact List.mem_map.mpr ⟨(name, value), member, Prod.ext rfl (congrArg UnicodeText.chars here.symm)⟩
  · obtain ⟨binding, inside, same⟩ := List.mem_map.mp member
    refine ⟨binding.1, ?_, ?_⟩
    · rw [← same]
      exact Prod.ext rfl (congrArg UnicodeText.chars (held binding inside).symm)
    · rw [← same]
      exact nonempty binding inside
  · have apart : ((bindings.map Prod.fst).map UnicodeName.chars).Nodup := List.Nodup.map name_of_chars distinct
    rwa [List.map_map] at apart ⊢

theorem posix_implements (counts : CFStringRef → Nat) (vacant : Vacant services.calls counts) :
    Implements (backend services.calls) spelling (Represents counts) where
  getA self cells now name := represents_getA counts self cells now name
  getW self cells now name := by
    have read := represents_getA counts self cells now name
    have decoded := from_utf8_text services counts vacant (cells name).chars (cells name).valid
    simp only [backend, SysEnvProc.getW, spelling, id, read, now.kept, decoded]
    rw [← now.kept]
    rfl
  put self cells now name value := represents_put counts self cells now name value
  putW self cells now name value := by
    have encoded := to_utf8_text services counts vacant value.chars value.valid
    refine ⟨_, ?_, represents_put counts self cells now name value⟩
    simp only [backend, SysEnvProc.putW, spelling, now.kept, encoded]
    rw [← now.kept]
    rfl
  allW self cells now := by
    obtain ⟨kept, bindings, distinct, nonempty, same, found⟩ := now
    refine ⟨_, ?_, lists_items bindings distinct nonempty cells found⟩
    have all := all_items services counts vacant bindings
    rw [← same, ← kept] at all
    simp only [backend, all]
    rfl

end Rcp.Utils.Posix
