import RcpLib.Platform.ViewLocality
import RcpLib.Utils.EnvWin

set_option autoImplicit false

namespace Rcp.Utils.Win

open Semantics Platform

theorem answer_read {Char : Type} [OfNat Char 0] (env : Variables Char) (name : List Char) :
    answer env (readVariable name) = ((env name).map EnvValue.chars).getD [] := by
  rw [read_variable_run, answer]
  cases bound : env name with
  | none =>
      have absent : replyOf env (.getEnvironmentVariable name [] 0) = (0, []) := by
        rw [replyOf, bound, getEnvironmentVariable]
      rw [absent]
      rfl
  | some value =>
      have asked : replyOf env (.getEnvironmentVariable name [] 0) = (value.chars.length + 1, []) := by
        rw [replyOf, bound, get_grown value [] 0 (Nat.not_lt_zero _)]
      have filled : ∀ buffer, replyOf env (.getEnvironmentVariable name buffer (value.chars.length + 1)) =
          (value.chars.length, value.chars ++ (0 : Char) :: buffer.drop (value.chars.length + 1)) := by
        intro buffer
        rw [replyOf, bound, get_fits value _ _ (Nat.lt_succ_self _)]
      rw [asked, if_neg (by simp), secondRead, answer, filled]
      by_cases empty : value.chars = []
      · simp [answer, empty]
      · have positive : value.chars.length ≠ 0 := fun zero => empty (List.length_eq_zero_iff.mp zero)
        rw [if_pos positive]
        simp [answer]

theorem within_set {Char : Type} [DecidableEq Char] [OfNat Char 0] (name value : List Char) (nameFree : 0 ∉ name)
    (valueFree : 0 ∉ value) (nameShort : name.length < variableLimit) (valueShort : value.length < variableLimit) :
    withinLimit name (if value = [] then none else some value) := by
  have held : (if value = [] then none else some value).getD [] = value := by
    by_cases empty : value = []
    · rw [if_pos empty, empty, Option.getD_none]
    · rw [if_neg empty, Option.getD_some]
  rw [withinLimit, held, c_string_whole name nameFree, c_string_whole value valueFree]
  exact ⟨Nat.le_of_lt nameShort, Nat.le_of_lt valueShort⟩

section Pages

variable (system : WinSystem)

theorem widen_text (text : PageText system) : system.widen text.bytes = some text.chars := by
  rw [WinSystem.widen, text.widened]
  rfl

theorem narrow_text (text : PageText system) : system.narrow text.chars = some text.bytes := by
  rw [WinSystem.narrow, text.narrowed]
  rfl

theorem page_nul_free (text : PageText system) : 0 ∉ text.chars :=
  system.widening.nulFree text.bytes text.chars text.bytesFree text.widened

theorem page_blank (text : PageText system) : text.bytes = [] ↔ text.chars = [] := by
  constructor
  · intro empty
    have widened := text.widened
    rw [empty, system.widening.empty] at widened
    exact (Except.ok.inj widened).symm
  · intro empty
    have narrowed := text.narrowed
    rw [empty, system.narrowing.empty] at narrowed
    exact (Except.ok.inj narrowed).symm

theorem name_widened (name : PageName system) : system.ansii2Wide name.bytes = some name.chars := by
  have present : name.bytes ≠ [] := fun empty => name.nonempty ((page_blank system name.toPageText).mp empty)
  have count : name.bytes.length ≠ 0 := fun zero => present (List.length_eq_zero_iff.mp zero)
  have short : name.bytes.length < 32767 := name.bytesShort
  have size : staticCastInt (name.bytes.length + 1) = (name.bytes.length + 1 : Nat) := static_cast_small _ (by omega)
  have shorter := name.shorter
  have converted := ansii2_wide_positive system.windows system.lastError cpAcp true (.ended name.bytes []) count
    system.widening (by
      change 0 < staticCastInt (name.bytes.length + 1)
      omega)
  have whole : cString (name.bytes ++ 0 :: []) = name.bytes := c_string_append name.bytes [] name.bytesFree
  have fits : (name.chars.length : Int) + 1 ≤ staticCastInt (name.bytes.length + 1) := by omega
  have answered : ansii2WideAnswer system.windows cpAcp true (name.bytes.length + 1) name.bytes = .ok name.chars := by
    simp only [ansii2WideAnswer, name.widened, if_pos fits]
  have result : PlatformBase.Ansii2Wide system.windows system.lastError (View.ended name.bytes []) true =
      some (.ok name.chars) := by
    refine Eq.trans converted ?_
    change some (ansii2WideAnswer system.windows cpAcp true (name.bytes.length + 1) (cString (name.bytes ++ 0 :: []))) = _
    rw [whole, answered]
  rw [WinSystem.ansii2Wide, result]

theorem key_plain (name : PageName system) : equalSignW ∉ system.fold name.chars := by
  intro member
  obtain ⟨char, inside, same⟩ := List.mem_map.mp member
  exact name.plain ((system.upcaseEqual char).mp same ▸ inside)

-- The entries of the block that name no variable begin with an equal sign.
structure Represents (environ : WinEnviron) (cells : WText → PageText system) : Prop where
  distinct : Distinct environ
  folded : ∀ key entry, (key, entry) ∈ environ → system.fold entry.name = key
  named : ∀ key entry, (key, entry) ∈ environ → equalSignW ∉ key →
    (∃ name : PageName system, name.chars = entry.name) ∧ entry.value.chars ≠ []
  hidden : ∀ key entry, (key, entry) ∈ environ → equalSignW ∈ key → ∃ rest, entry.name = equalSignW :: rest
  found : ∀ key, equalSignW ∉ key → ((find key environ).map fun entry => entry.value.chars).getD [] = (cells key).chars

variable (environ : WinEnviron) (cells : WText → PageText system) (now : Represents system environ cells)

include now

theorem represents_stored (name : PageName system) (value : PageText system) (entry : WinVariable)
    (held : entry.value.chars = value.chars) (nonempty : value.chars ≠ [])
    (same : system.fold entry.name = system.fold name.chars) (spelled : ∃ known : PageName system, known.chars = entry.name) :
    Represents system (store (system.fold name.chars) entry environ)
      (Function.update cells (system.fold name.chars) value) := by
  have parts : ∀ key later, (key, later) ∈ store (system.fold name.chars) entry environ →
      (key = system.fold name.chars ∧ later = entry) ∨ (key, later) ∈ environ := by
    intro key later member
    exact (mem_store _ entry environ _ member).imp_left Prod.mk.inj
  refine ⟨distinct_store _ entry environ now.distinct, ?_, ?_, ?_, ?_⟩
  · intro key later member
    rcases parts key later member with ⟨rfl, rfl⟩ | earlier
    · exact same
    · exact now.folded key later earlier
  · intro key later member plain
    rcases parts key later member with ⟨rfl, rfl⟩ | earlier
    · exact ⟨spelled, by rw [held]; exact nonempty⟩
    · exact now.named key later earlier plain
  · intro key later member inside
    rcases parts key later member with ⟨rfl, rfl⟩ | earlier
    · exact absurd inside (key_plain system name)
    · exact now.hidden key later earlier inside
  · intro key plain
    rw [find_store, Function.update_apply]
    by_cases here : key = system.fold name.chars
    · simp [here, held]
    · simpa [here] using now.found key plain

theorem represents_removed (name : PageName system) (value : PageText system) (empty : value.chars = []) :
    Represents system (remove (system.fold name.chars) environ) (Function.update cells (system.fold name.chars) value) := by
  have kept : ∀ binding ∈ remove (system.fold name.chars) environ, binding ∈ environ :=
    fun binding member => (List.mem_filter.mp member).1
  refine ⟨distinct_remove _ environ now.distinct, fun key entry member => now.folded key entry (kept _ member),
    fun key entry member => now.named key entry (kept _ member),
    fun key entry member => now.hidden key entry (kept _ member), fun key plain => ?_⟩
  rw [find_remove, Function.update_apply]
  by_cases here : key = system.fold name.chars
  · simp [here, empty]
  · simpa [here] using now.found key plain

theorem represents_set (name : PageName system) (value : PageText system) :
    Represents system (system.setEnvironmentVariableW environ name.chars (if value.chars = [] then none else some value.chars))
      (Function.update cells (system.fold name.chars) value) := by
  have whole : cString name.chars = name.chars := c_string_whole name.chars (page_nul_free system name.toPageText)
  have tail : equalSignW ∉ (cString name.chars).tail := by
    rw [whole]
    exact fun member => name.plain (List.mem_of_mem_tail member)
  have within : withinLimit name.chars (if value.chars = [] then none else some value.chars) :=
    within_set name.chars value.chars (page_nul_free system name.toPageText) (page_nul_free system value) name.charsShort
      value.charsShort
  have valid : cString name.chars ≠ [] ∧ equalSignW ∉ (cString name.chars).tail := ⟨by rw [whole]; exact name.nonempty, tail⟩
  by_cases empty : value.chars = []
  · rw [WinSystem.setEnvironmentVariableW, if_pos within, dif_pos valid]
    simp only [if_pos empty, whole]
    exact represents_removed system environ cells now name value empty
  · have content : cString value.chars = value.chars := c_string_whole value.chars (page_nul_free system value)
    rw [WinSystem.setEnvironmentVariableW, if_pos within, dif_pos valid]
    simp only [if_neg empty, whole]
    cases bound : find (system.fold name.chars) environ with
    | none => exact represents_stored system environ cells now name value _ content empty rfl ⟨name, rfl⟩
    | some old =>
        have member := mem_of_find _ old environ bound
        have same := now.folded _ old member
        have known := (now.named _ old member (key_plain system name)).1
        exact represents_stored system environ cells now name value _ content empty same known

theorem bound_value (name : PageName system) :
    ((find (system.fold name.chars) environ).map fun entry => entry.value.chars).getD [] = (cells (system.fold name.chars)).chars :=
  now.found _ (key_plain system name)

theorem wide_answer (name : PageName system) :
    answer (system.variablesW environ) (readVariable (cString name.chars)) = (cells (system.fold name.chars)).chars := by
  have whole : cString name.chars = name.chars := c_string_whole name.chars (page_nul_free system name.toPageText)
  rw [answer_read, whole, WinSystem.variablesW, Option.map_map, ← bound_value system environ cells now name]
  rfl

theorem narrow_answer (name : PageName system) :
    SysEnvProc.getA system environ name.bytes = (cells (system.fold name.chars)).bytes := by
  have whole : cString name.bytes = name.bytes := c_string_whole name.bytes name.bytesFree
  have bound := bound_value system environ cells now name
  have widened : system.widen name.bytes = some name.chars := widen_text system name.toPageText
  rw [SysEnvProc.getA, Win.getA, whole, answer_read, WinSystem.variablesA, widened]
  dsimp only
  cases found : find (system.fold name.chars) environ with
  | none =>
      rw [found] at bound
      exact ((page_blank system _).mpr bound.symm).symm
  | some entry =>
      rw [found] at bound
      have held : entry.value.chars = (cells (system.fold name.chars)).chars := bound
      dsimp only
      rw [held, narrow_text]
      exact c_string_whole _ (cells (system.fold name.chars)).bytesFree

theorem listed_pair (key : WText) (entry : WinVariable) (member : (key, entry) ∈ environ) (pair : EnvPairW UInt16) :
    pairOf entry.item = some pair ↔ equalSignW ∉ key ∧ pair = (entry.name, entry.value.chars) := by
  by_cases plain : equalSignW ∈ key
  · obtain ⟨rest, leads⟩ := now.hidden key entry member plain
    have starts : entry.item.chars = [] ++ equalSignW :: (rest ++ equalSignW :: entry.value.chars) := by
      change entry.name ++ _ = _
      rw [leads]
      rfl
    have nothing := pair_of_split entry.item [] _ (by simp) starts
    simp [nothing, plain]
  · obtain ⟨name, same⟩ := (now.named key entry member plain).1
    have paired := pair_of_split entry.item entry.name entry.value.chars (same ▸ name.plain) rfl
    rw [paired, if_pos entry.nonempty, Option.some.injEq]
    exact ⟨fun equal => ⟨plain, equal.symm⟩, fun equal => equal.2.symm⟩

def shown (environ : WinEnviron) : EnvsW UInt16 := environ.filterMap fun binding => pairOf binding.2.item

theorem mem_shown (pair : EnvPairW UInt16) :
    pair ∈ shown environ ↔ ∃ key entry, (key, entry) ∈ environ ∧ equalSignW ∉ key ∧ pair = (entry.name, entry.value.chars) := by
  rw [shown, List.mem_filterMap]
  constructor
  · intro listed
    obtain ⟨⟨key, entry⟩, member, paired⟩ := listed
    exact ⟨key, entry, member, (listed_pair system environ cells now key entry member pair).mp paired⟩
  · intro listed
    obtain ⟨key, entry, member, parts⟩ := listed
    exact ⟨(key, entry), member, (listed_pair system environ cells now key entry member pair).mpr parts⟩

theorem shown_names (name : WText) (member : name ∈ (shown environ).map Prod.fst) :
    ∃ entry, (system.fold name, entry) ∈ environ ∧ entry.name = name := by
  obtain ⟨pair, inside, same⟩ := List.mem_map.mp member
  obtain ⟨key, entry, bound, _, parts⟩ := (mem_shown system environ cells now pair).mp inside
  have named : entry.name = name := by rw [← same, parts]
  have folded := now.folded key entry bound
  rw [named] at folded
  exact ⟨entry, folded ▸ bound, named⟩

theorem shown_distinct : ((shown environ).map Prod.fst).Nodup := by
  have keys : environ.Pairwise fun first second => first.1 ≠ second.1 := List.pairwise_map.mp now.distinct
  rw [List.Nodup, List.pairwise_map, shown, List.pairwise_filterMap]
  refine keys.imp_of_mem fun {first second} left right differs pair paired other also same => differs ?_
  have here := ((listed_pair system environ cells now first.1 first.2 left pair).mp paired).2
  have there := ((listed_pair system environ cells now second.1 second.2 right other).mp also).2
  rw [here, there] at same
  have names : first.2.name = second.2.name := same
  rw [← now.folded first.1 first.2 left, ← now.folded second.1 second.2 right, names]

end Pages

theorem empty_short {Char : Type} : ([] : List Char).length < variableLimit := Nat.zero_lt_succ 32766

def PageText.empty (system : WinSystem) : PageText system :=
  ⟨[], [], EnvText.empty.nulFree, system.widening.empty, system.narrowing.empty, empty_short, empty_short⟩

def PageText.ofAscii (system : WinSystem) (bytes : Bytes) (bytesFree : 0 ∉ bytes) (ascii : ∀ byte ∈ bytes, byte.toNat < 128)
    (short : bytes.length < variableLimit) : PageText system where
  bytes := bytes
  chars := bytes.map UInt8.toUInt16
  bytesFree := bytesFree
  widened := system.asciiWide bytes ascii
  narrowed := system.asciiNarrow bytes ascii
  bytesShort := short
  charsShort := by simpa using short

theorem integer_short (number : IntegerValue) : (SysEnv.toString number.val).length < variableLimit :=
  Nat.lt_of_le_of_lt (integer_length number) (by decide)

def spelling (system : WinSystem) : Spelling UInt16 (PageName system) (PageText system) WText where
  nameBytes name := name.bytes
  nameChars name := name.chars
  key name := system.fold name.chars
  textBytes text := text.bytes
  textChars text := text.chars
  empty := .empty system
  integer number :=
    .ofAscii system (SysEnv.toString number.val) (integer_nul_free number) (integer_ascii number) (integer_short number)
  bytesFree text := text.bytesFree
  charsFree text := page_nul_free system text
  emptyBytes := rfl
  integerBytes _ := rfl
  blank text := page_blank system text

theorem shown_lists (system : WinSystem) (environ : WinEnviron) (cells : WText → PageText system)
    (now : Represents system environ cells) : (spelling system).Lists cells (shown environ) := by
  refine ⟨fun name present => ?_, fun pair member => ?_, shown_distinct system environ cells now,
    fun first second same left right => ?_⟩
  · have plain := key_plain system name
    have bound := bound_value system environ cells now name
    cases found : find (system.fold name.chars) environ with
    | none =>
        rw [found] at bound
        exact absurd bound.symm present
    | some entry =>
        rw [found] at bound
        have member := mem_of_find _ entry environ found
        obtain ⟨known, same⟩ := (now.named _ entry member plain).1
        refine ⟨known, ?_, (mem_shown system environ cells now _).mpr ⟨_, entry, member, plain, ?_⟩⟩
        · have folded := now.folded _ entry member
          rw [← same] at folded
          exact folded
        · exact Prod.ext same bound.symm
  · obtain ⟨key, entry, bound, plain, parts⟩ := (mem_shown system environ cells now pair).mp member
    obtain ⟨⟨known, same⟩, nonempty⟩ := now.named key entry bound plain
    have folded := now.folded key entry bound
    rw [← same] at folded
    have found := now.found key plain
    rw [(find_iff_mem key entry environ now.distinct).mpr bound] at found
    refine ⟨known, ?_, by rw [parts]; exact nonempty⟩
    rw [parts]
    refine Prod.ext same.symm ?_
    change entry.value.chars = (cells (system.fold known.chars)).chars
    rw [folded]
    exact found
  · obtain ⟨entry, bound, named⟩ := shown_names system environ cells now _ left
    obtain ⟨other, alsoBound, alsoNamed⟩ := shown_names system environ cells now _ right
    have key : system.fold ((spelling system).nameChars first) = system.fold ((spelling system).nameChars second) := same
    have here := (find_iff_mem _ entry environ now.distinct).mpr bound
    have there := (find_iff_mem _ other environ now.distinct).mpr alsoBound
    rw [key, there] at here
    rw [← named, ← alsoNamed, Option.some.inj here]

theorem all_shown (system : WinSystem) (environ : WinEnviron) :
    ∃ items, (backend system).allW environ = some (items, environ) ∧ items.Perm (shown environ) := by
  have loop := loop_block ((system.arrange (environ.map Prod.snd)).map WinVariable.item) [] [] []
  have parsed : allW (some (system.getEnvironmentStringsW environ)) =
      some (((system.arrange (environ.map Prod.snd)).map WinVariable.item).filterMap pairOf) := by
    rw [allW, WinSystem.getEnvironmentStringsW]
    simp only [List.nil_append, List.append_nil, List.length_nil] at loop
    rw [loop]
    rfl
  refine ⟨_, by simp only [backend, parsed]; rfl, ?_⟩
  have perm := ((system.arranged (environ.map Prod.snd)).map WinVariable.item).filterMap pairOf
  have same : ((environ.map Prod.snd).map WinVariable.item).filterMap pairOf = shown environ := by
    rw [List.map_map, List.filterMap_map]
    rfl
  exact same ▸ perm

theorem put_set (system : WinSystem) (environ : WinEnviron) (name : PageName system) (value : PageText system) :
    SysEnvProc.put system environ name.bytes value.bytes =
      system.setEnvironmentVariableW environ name.chars (if value.chars = [] then none else some value.chars) := by
  have named : cString name.bytes = name.bytes := c_string_whole name.bytes name.bytesFree
  have valued : cString value.bytes = value.bytes := c_string_whole value.bytes value.bytesFree
  have within : withinLimit name.bytes (if value.bytes = [] then none else some value.bytes) :=
    within_set name.bytes value.bytes name.bytesFree value.bytesFree name.bytesShort value.bytesShort
  rw [SysEnvProc.put, WinSystem.setEnvironmentVariableA, if_pos within, named, widen_text system name.toPageText]
  by_cases empty : value.chars = []
  · have blank := (page_blank system value).mpr empty
    simp only [if_pos empty, if_pos blank]
  · have present : value.bytes ≠ [] := fun blank => empty ((page_blank system value).mp blank)
    simp only [if_neg empty, if_neg present, valued, widen_text system value]

theorem win_implements (system : WinSystem) : Implements (backend system) (spelling system) (Represents system) where
  getA environ cells now name := narrow_answer system environ cells now name
  getW environ cells now name := by
    have read := wide_answer system environ cells now name
    change SysEnvProc.getW system environ name.bytes = _
    rw [SysEnvProc.getW, name_widened, Option.bind_eq_bind, Option.bind_some, read]
    rfl
  put environ cells now name value := by
    have set := represents_set system environ cells now name value
    rw [← put_set system environ name value] at set
    exact set
  putW environ cells now name value := by
    refine ⟨_, ?_, represents_set system environ cells now name value⟩
    change SysEnvProc.putW system environ name.bytes value.chars = _
    rw [SysEnvProc.putW, name_widened, Option.bind_eq_bind, Option.bind_some]
    rfl
  allW environ cells now := by
    obtain ⟨items, all, perm⟩ := all_shown system environ
    exact ⟨items, all, lists_perm (spelling system) cells _ items (shown_lists system environ cells now) perm⟩

theorem represents_nothing (system : WinSystem) : Represents system [] fun _ => .empty system :=
  ⟨by simp [Distinct], by simp, by simp, by simp, fun _ _ => rfl⟩

def latinNarrow (char : UInt16) : List UInt8 := if char.toNat < 256 then [char.toUInt8] else [63]

def latinWide (byte : UInt8) : WText := [byte.toUInt16]

def latinWindows : Windows :=
  ⟨fun _ _ => perCharacter latinNarrow (by decide), fun _ => perCharacter latinWide (by decide), fun _ => ""⟩

def latinUpcase (char : UInt16) : UInt16 := if 97 ≤ char.toNat ∧ char.toNat ≤ 122 then char - 32 else char

theorem latin_upcase_equal (char : UInt16) : latinUpcase char = equalSignW ↔ char = equalSignW := by
  have sizes : ∀ other : UInt16, other = equalSignW ↔ other.toNat = 61 := fun other =>
    ⟨fun same => same ▸ rfl, fun same => UInt16.toNat_inj.mp same⟩
  rw [sizes, sizes, latinUpcase]
  split
  · rename_i letter
    have moved : (char - 32).toNat = char.toNat - 32 := UInt16.toNat_sub_of_le char 32 (by
      rw [UInt16.le_iff_toNat_le]
      exact Nat.le_trans (by decide) letter.1)
    rw [moved]
    omega
  · rfl

theorem latin_narrow_nonzero (char : UInt16) (nonzero : char ≠ 0) : 0 ∉ latinNarrow char := by
  rw [latinNarrow]
  split
  · rename_i small
    intro member
    have same := congrArg UInt8.toNat (List.mem_singleton.mp member)
    rw [UInt16.toNat_toUInt8] at same
    apply nonzero
    apply UInt16.toNat_inj.mp
    change char.toNat = 0
    have zero : (0 : UInt8).toNat = 0 := rfl
    omega
  · decide

theorem latin_narrow_byte (byte : UInt8) : latinNarrow byte.toUInt16 = [byte] := by
  have small : byte.toUInt16.toNat < 256 := by
    rw [UInt8.toNat_toUInt16]
    exact byte.toNat_lt
  have same : byte.toUInt16.toUInt8 = byte := by
    apply UInt8.toNat_inj.mp
    rw [UInt16.toNat_toUInt8, UInt8.toNat_toUInt16]
    exact Nat.mod_eq_of_lt byte.toNat_lt
  rw [latinNarrow, if_pos small, same]

def latinSystem : WinSystem where
  windows := latinWindows
  lastError := 0
  upcase := latinUpcase
  arrange := id
  upcaseEqual := latin_upcase_equal
  arranged entries := List.Perm.refl entries
  widening := per_character_nul_safe latinWide (by decide) fun char nonzero member => by
    have same := congrArg UInt16.toNat (List.mem_singleton.mp member)
    rw [UInt8.toNat_toUInt16] at same
    exact nonzero (UInt8.toNat_inj.mp same.symm)
  narrowing := per_character_nul_safe latinNarrow (by decide) latin_narrow_nonzero
  asciiWide bytes _ := congrArg Except.ok List.map_eq_flatMap.symm
  asciiNarrow bytes _ := congrArg Except.ok (by simp [List.flatMap_map, latin_narrow_byte])

end Rcp.Utils.Win
