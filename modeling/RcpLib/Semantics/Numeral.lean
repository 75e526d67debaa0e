import Mathlib.Data.List.TakeWhile
import Mathlib.Data.Nat.Digits.Defs

set_option autoImplicit false

namespace Semantics

def isSpace (byte : UInt8) : Bool := byte = 32 ∨ 9 ≤ byte ∧ byte ≤ 13

def isDigit (byte : UInt8) : Bool := 48 ≤ byte ∧ byte ≤ 57

inductive Sign where
  | none
  | plus
  | minus
deriving DecidableEq, Repr

def Sign.text : Sign → List UInt8
  | .none => []
  | .plus => [43]
  | .minus => [45]

def Sign.applied (sign : Sign) (magnitude : Nat) : Int :=
  match sign with
  | .minus => -(magnitude : Int)
  | _ => magnitude

def digitsValue (digits : List UInt8) : Nat := digits.foldl (fun value byte => 10 * value + (byte.toNat - 48)) 0

-- The text begins, after white space, with a numeral that denotes z. The numeral is
-- the longest one: no digit follows it.
def Denotes (text : List UInt8) (z : Int) : Prop :=
  ∃ (spaces : List UInt8) (sign : Sign) (digits rest : List UInt8),
    text = spaces ++ (sign.text ++ (digits ++ rest)) ∧ (∀ byte ∈ spaces, isSpace byte = true) ∧ digits ≠ [] ∧
      (∀ byte ∈ digits, isDigit byte = true) ∧ (∀ byte ∈ rest.head?, isDigit byte = false) ∧
      z = sign.applied (digitsValue digits)

def signOf (text : List UInt8) : Sign × List UInt8 :=
  match text with
  | [] => (.none, [])
  | byte :: rest => if byte = 45 then (.minus, rest) else if byte = 43 then (.plus, rest) else (.none, byte :: rest)

-- The subject sequence of the strto functions in base 10: its sign and magnitude.
def subject (text : List UInt8) : Option (Sign × Nat) :=
  let (sign, unsigned) := signOf (text.dropWhile isSpace)
  let digits := unsigned.takeWhile isDigit
  if digits = [] then none else some (sign, digitsValue digits)

theorem take_while_prefix (accepts : UInt8 → Bool) (digits rest : List UInt8)
    (all : ∀ byte ∈ digits, accepts byte = true) (stops : ∀ byte ∈ rest.head?, accepts byte = false) :
    (digits ++ rest).takeWhile accepts = digits := by
  rw [List.takeWhile_append_of_pos all]
  cases rest with
  | nil => simp
  | cons byte rest => simp [stops byte (by simp)]

theorem drop_while_prefix (accepts : UInt8 → Bool) (spaces rest : List UInt8)
    (all : ∀ byte ∈ spaces, accepts byte = true) (stops : ∀ byte ∈ rest.head?, accepts byte = false) :
    (spaces ++ rest).dropWhile accepts = rest := by
  rw [List.dropWhile_append_of_pos all]
  cases rest with
  | nil => simp
  | cons byte rest => simp [stops byte (by simp)]

theorem sign_split (text : List UInt8) : text = (signOf text).1.text ++ (signOf text).2 := by
  cases text with
  | nil => rfl
  | cons byte rest =>
      by_cases minus : byte = 45
      · simp [signOf, minus, Sign.text]
      · by_cases plus : byte = 43 <;> simp [signOf, minus, plus, Sign.text]

theorem digit_not_sign (byte : UInt8) (digit : isDigit byte = true) :
    isSpace byte = false ∧ byte ≠ 45 ∧ byte ≠ 43 := by
  simp only [isDigit, decide_eq_true_eq] at digit
  simp only [isSpace, decide_eq_false_iff_not, UInt8.le_iff_toNat_le, ← UInt8.toNat_inj, ne_eq] at digit ⊢
  simp only [UInt8.reduceToNat] at digit ⊢
  omega

theorem sign_of_text (sign : Sign) (digits rest : List UInt8) (nonempty : digits ≠ [])
    (all : ∀ byte ∈ digits, isDigit byte = true) :
    signOf (sign.text ++ (digits ++ rest)) = (sign, digits ++ rest) ∧
      ∀ byte ∈ (sign.text ++ (digits ++ rest)).head?, isSpace byte = false := by
  cases digits with
  | nil => exact absurd rfl nonempty
  | cons first digits =>
      obtain ⟨unspaced, minus, plus⟩ := digit_not_sign first (all first List.mem_cons_self)
      cases sign with
      | none => simp [Sign.text, signOf, minus, plus, unspaced]
      | plus => simp [Sign.text, signOf, isSpace]
      | minus => simp [Sign.text, signOf, isSpace]

theorem subject_of_denotes (text : List UInt8) (z : Int) (denotes : Denotes text z) :
    ∃ sign magnitude, subject text = some (sign, magnitude) ∧ z = sign.applied magnitude := by
  obtain ⟨spaces, sign, digits, rest, rfl, blank, nonempty, all, stops, value⟩ := denotes
  obtain ⟨signed, unspaced⟩ := sign_of_text sign digits rest nonempty all
  refine ⟨sign, digitsValue digits, ?_, value⟩
  simp only [subject, drop_while_prefix isSpace spaces _ blank unspaced, signed, take_while_prefix isDigit digits rest all stops,
    if_neg nonempty]

theorem stops_after (accepts : UInt8 → Bool) (text : List UInt8) :
    ∀ byte ∈ (text.dropWhile accepts).head?, accepts byte = false := by
  intro byte member
  have stopped := List.head?_dropWhile_not accepts text
  rw [Option.mem_def] at member
  simpa [member] using stopped

theorem denotes_of_subject (text : List UInt8) (sign : Sign) (magnitude : Nat)
    (found : subject text = some (sign, magnitude)) : Denotes text (sign.applied magnitude) := by
  simp only [subject] at found
  split at found
  · cases found
  · rename_i nonempty
    simp only [Option.some.injEq, Prod.mk.injEq] at found
    obtain ⟨rfl, rfl⟩ := found
    refine ⟨text.takeWhile isSpace, _, _, (signOf (text.dropWhile isSpace)).2.dropWhile isDigit, ?_, ?_, nonempty, ?_,
      stops_after isDigit _, rfl⟩
    · rw [List.takeWhile_append_dropWhile, ← sign_split, List.takeWhile_append_dropWhile]
    · exact fun byte member => List.mem_takeWhile_imp member
    · exact fun byte member => List.mem_takeWhile_imp member

theorem subject_none (text : List UInt8) (absent : ∀ z, ¬ Denotes text z) : subject text = none := by
  cases found : subject text with
  | none => rfl
  | some pair => exact absurd (denotes_of_subject text pair.1 pair.2 found) (absent _)

theorem denotes_unique (text : List UInt8) (first second : Int) (left : Denotes text first) (right : Denotes text second) :
    first = second := by
  obtain ⟨sign, magnitude, found, rfl⟩ := subject_of_denotes text first left
  obtain ⟨other, also, again, rfl⟩ := subject_of_denotes text second right
  rw [found] at again
  cases again
  rfl

def digitByte (digit : Nat) : UInt8 := UInt8.ofNat (48 + digit)

theorem digit_byte_value (digit : Nat) (small : digit < 10) : (digitByte digit).toNat = 48 + digit := by
  simp only [digitByte, UInt8.toNat_ofNat']
  omega

theorem digit_byte_digit (digit : Nat) (small : digit < 10) : isDigit (digitByte digit) = true := by
  simp only [isDigit, decide_eq_true_eq, UInt8.le_iff_toNat_le, digit_byte_value digit small, UInt8.reduceToNat]
  omega

-- Digits are listed from the lowest one, and written from the highest one.
theorem digits_value_of_digits (digits : List Nat) (small : ∀ digit ∈ digits, digit < 10) :
    digitsValue (digits.reverse.map digitByte) = Nat.ofDigits 10 digits := by
  induction digits with
  | nil => rfl
  | cons digit digits ih =>
      obtain ⟨first, others⟩ := List.forall_mem_cons.mp small
      have written := ih others
      simp only [digitsValue] at written
      simp only [digitsValue, List.reverse_cons, List.map_append, List.foldl_append, written, List.map_cons, List.map_nil,
        List.foldl_cons, List.foldl_nil, digit_byte_value digit first, Nat.ofDigits_cons]
      omega

end Semantics
