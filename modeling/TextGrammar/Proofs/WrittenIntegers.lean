import TextGrammar.Proofs.Numerals
import TextGrammar.Value.Printed

/-! Integers as they are written. Their digits are plain, they are as many as an integer needs, and reading them
yields the integer again. -/

namespace TextGrammar

namespace Numeral

theorem plain_of_isDigit {digit : Char} (is : digit.isDigit) : Plain digit := by
  obtain ⟨least, most⟩ := Char.isDigit_iff_toNat.mp is
  have nine : '9'.toNat = '0'.toNat + 9 := rfl
  refine ⟨digit.toNat - '0'.toNat, by omega, ?_⟩
  rw [Nat.add_sub_cancel' least, Char.ofNat_toNat]

theorem Plain.value {digit : Char} (is : Plain digit) :
    digitValue? 10 digit = some (digit.toNat - '0'.toNat) ∧ plain digit = digit ∧ Character.isDecimal digit := by
  obtain ⟨value, below, rfl⟩ := is
  have known : ∀ value < 10, digitValue? 10 (Char.ofNat ('0'.toNat + value)) =
      some ((Char.ofNat ('0'.toNat + value)).toNat - '0'.toNat) ∧
        plain (Char.ofNat ('0'.toNat + value)) = Char.ofNat ('0'.toNat + value) ∧
          Character.isDecimal (Char.ofNat ('0'.toNat + value)) := by decide
  exact known value below

variable {digits : List Char} (plain : ∀ digit ∈ digits, Plain digit)
include plain

theorem continueDigits_plain (value : Nat) : continueDigits 10 value digits = some (Nat.ofDigitChars 10 digits value) := by
  induction digits generalizing value with
  | nil => rfl
  | cons first rest ih =>
    obtain ⟨digit, others⟩ := List.forall_mem_cons.mp plain
    rw [continueDigits_cons rest (digit.ne (by decide)), digit.value.1, Nat.ofDigitChars_cons, Nat.mul_comm]
    exact ih others _

theorem digits_plain (some : digits ≠ []) : digits? 10 digits = Option.some (Nat.ofDigitChars 10 digits 0) := by
  cases digits with
  | nil => exact absurd rfl some
  | cons first rest =>
    obtain ⟨digit, others⟩ := List.forall_mem_cons.mp plain
    rw [digits?, digit.value.1, Nat.ofDigitChars_cons, Nat.mul_zero, Nat.zero_add]
    exact continueDigits_plain others _

theorem map_plain : digits.map Numeral.plain = digits := by
  have same : ∀ digit ∈ digits, Numeral.plain digit = id digit := fun digit member => (plain digit member).value.2.1
  rw [List.map_congr_left same, List.map_id]

end Numeral

namespace Json
open Numeral

theorem plain_toDigits (number : Nat) : ∀ digit ∈ Nat.toDigits 10 number, Plain digit :=
  fun _ member => plain_of_isDigit (Nat.isDigit_of_mem_toDigits (by decide) (by decide) member)

theorem digits_toDigits (number : Nat) : Digits (Nat.toDigits 10 number) :=
  ⟨Nat.toDigits_ne_nil, fun digit member => (plain_toDigits number digit member).value.2.2⟩

/-- An integer is written as a sign, if it is negative, and digits. -/
theorem printed_int (number : Int) : ∃ sign, Sign sign ∧ (sign = [] ↔ 0 ≤ number) ∧
    (Value.printed (.int number)).toList = sign ++ Nat.toDigits 10 number.natAbs := by
  cases number with
  | ofNat number =>
    refine ⟨[], .inl rfl, by simp, ?_⟩
    change (Nat.repr number).toList = _
    rw [Nat.repr_eq_ofList_toDigits, String.toList_ofList]
    rfl
  | negSucc number =>
    refine ⟨['-'], .inr rfl, by simp, ?_⟩
    change ("-" ++ Nat.repr (number + 1)).toList = _
    rw [Nat.repr_eq_ofList_toDigits, String.toList_append, String.toList_ofList, String.toList_ofList, Int.natAbs_negSucc]

theorem integer_printed (number : Int) : Integer (Value.printed (.int number)).toList := by
  obtain ⟨sign, signs, -, written⟩ := printed_int number
  rw [written]
  exact .of signs (digits_toDigits _)

/-- An integer of few enough digits is what its text is read as. -/
theorem ofNumeral_printed {number : Int} (few : isWritable number) :
    Value.ofNumeral 10 (Value.printed (.int number)) = .ok number := by
  obtain ⟨sign, signs, positive, written⟩ := printed_int number
  obtain ⟨value, found, read⟩ := (digits_toDigits number.natAbs).integer_eq signs
  rw [← written, String.ofList_toList] at read
  rw [map_plain (plain_toDigits _), digits_plain (plain_toDigits _) Nat.toDigits_ne_nil,
    Nat.ofDigitChars_toDigits (by decide) (by decide)] at found
  obtain rfl := Option.some.inj found
  have short : ¬digitLimit < (Nat.toDigits 10 number.natAbs).length := by
    rw [isWritable, decide_eq_true_iff, Nat.pow_eq, ← Nat.length_toDigits_le_iff (by decide) (by decide)] at few
    exact Nat.not_lt_of_le few
  rw [if_neg short] at read
  rw [Value.ofNumeral, read]
  by_cases none : sign = []
  · have least := positive.mp none
    simp only [none, ↓reduceIte]
    exact congrArg Except.ok (Int.natAbs_of_nonneg least)
  · have below := mt positive.mpr none
    simp only [none, ↓reduceIte]
    exact congrArg Except.ok (by omega)

end Json

end TextGrammar
