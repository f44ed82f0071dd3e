import Mathlib.Data.Bool.AllAny
import Mathlib.Data.List.TakeWhile
import TextGrammar.Proofs.JsonRenderings
import TextGrammar.Sample.Json

/-! What becomes of the numerals of JSON texts. A decimal one always stands for a number, and one of
hexadecimal digits for its code point. A whole one is left to the reading of integers, which may find
it too long. -/

namespace TextGrammar

namespace Character

theorem isDecimal_origin {character : Char} (decimal : isDecimal character) :
    ∃ origin ∈ decimalZeros, origin ≤ character.toNat ∧ character.toNat < origin + 10 := by
  rw [isDecimal, decimalValue?, List.findSome?_isSome_iff] at decimal
  obtain ⟨origin, member, found⟩ := decimal
  refine ⟨origin, member, ?_⟩
  by_cases within : origin ≤ character.toNat ∧ character.toNat < origin + 10
  · exact within
  · rw [if_neg within] at found
    cases found

/-- No digit of any script is a blank. -/
theorem not_isBlank_of_isDecimal {character : Char} (decimal : isDecimal character) :
    ¬isBlank character := by
  intro blank
  obtain ⟨origin, member, least, below⟩ := isDecimal_origin decimal
  rw [isBlank, inRanges, List.any_eq_true] at blank
  obtain ⟨range, within, inside⟩ := blank
  have apart : ∀ origin ∈ decimalZeros, ∀ range ∈ blankRanges, origin + 10 ≤ range.1 ∨ range.2 < origin := by
    decide
  have away := apart origin member range within
  simp only [Bool.and_eq_true, decide_eq_true_eq] at inside
  omega

end Character

namespace Numeral

/-- Counts that matter can be written. -/
theorem isWritable_of_le {count : Nat} (few : count ≤ digitLimit) : isWritable count := by
  have large : ∀ digits : Nat, digits < Nat.pow 10 digits := fun _ => Nat.lt_pow_self (by decide)
  rw [isWritable, decide_eq_true_iff, Int.natAbs_natCast]
  exact Nat.lt_of_le_of_lt few (large digitLimit)

/-- A plain decimal digit. -/
def Plain (character : Char) : Prop := ∃ value < 10, character = Char.ofNat ('0'.toNat + value)

theorem plain_of_isDecimal {character : Char} (decimal : Character.isDecimal character) :
    Plain (plain character) := by
  obtain ⟨origin, member, least, below⟩ := Character.isDecimal_origin decimal
  have far : ∀ origin ∈ Character.decimalZeros, origin = '0'.toNat ∨ 127 ≤ origin := by decide
  by_cases small : character.toNat < 127
  · have first : origin = '0'.toNat := by
      have away := far origin member
      omega
    rw [plain, if_pos small]
    refine ⟨character.toNat - '0'.toNat, by omega, ?_⟩
    rw [Nat.add_sub_cancel' (by omega), Char.ofNat_toNat]
  · rw [plain, if_neg small, if_neg (Character.not_isBlank_of_isDecimal decimal)]
    rw [Character.isDecimal, Option.isSome_iff_exists] at decimal
    obtain ⟨value, found⟩ := decimal
    rw [found]
    refine ⟨value, ?_, rfl⟩
    rw [Character.decimalValue?, List.findSome?_eq_some_iff] at found
    obtain ⟨_, origin, _, -, found, -⟩ := found
    by_cases within : origin ≤ character.toNat ∧ character.toNat < origin + 10
    · rw [if_pos within] at found
      cases found
      omega
    · rw [if_neg within] at found
      cases found

theorem Plain.digitValue {character : Char} (digit : Plain character) :
    ∃ value, digitValue? 10 character = some value := by
  obtain ⟨value, below, rfl⟩ := digit
  have known : ∀ value < 10, (digitValue? 10 (Char.ofNat ('0'.toNat + value))).isSome := by decide
  exact Option.isSome_iff_exists.mp (known value below)

theorem Plain.ne {character : Char} (digit : Plain character) {other : Char}
    (away : ∀ value < 10, other ≠ Char.ofNat ('0'.toNat + value)) : character ≠ other := by
  obtain ⟨value, below, rfl⟩ := digit
  exact (away value below).symm

theorem Plain.isDigit {character : Char} (digit : Plain character) : character.isDigit = true := by
  obtain ⟨value, below, rfl⟩ := digit
  have known : ∀ value < 10, (Char.ofNat ('0'.toNat + value)).isDigit = true := by decide
  exact known value below

theorem Plain.not_blank {character : Char} (digit : Plain character) :
    ¬Character.isPlainBlank character := by
  obtain ⟨value, below, rfl⟩ := digit
  have known : ∀ value < 10, ¬Character.isPlainBlank (Char.ofNat ('0'.toNat + value)) := by decide
  exact known value below

theorem continueDigits_cons {base value : Nat} {digit : Char} (rest : List Char) (joins : digit ≠ '_') :
    continueDigits base value (digit :: rest) =
      (digitValue? base digit).bind fun next => continueDigits base (value * base + next) rest := by
  rw [continueDigits]
  · rfl
  · intro _ _ underscore
    exact absurd underscore joins

theorem continueDigits_isSome {characters : List Char} (plain : ∀ character ∈ characters, Plain character)
    (value : Nat) : (continueDigits 10 value characters).isSome := by
  induction characters generalizing value with
  | nil => rfl
  | cons first rest ih =>
    obtain ⟨digit, others⟩ := List.forall_mem_cons.mp plain
    obtain ⟨known, found⟩ := digit.digitValue
    rw [continueDigits_cons rest (digit.ne (by decide)), found]
    exact ih others _

/-- Plain digits are a numeral. -/
theorem digits_isSome {characters : List Char} (some : characters ≠ [])
    (plain : ∀ character ∈ characters, Plain character) : (digits? 10 characters).isSome := by
  cases characters with
  | nil => exact absurd rfl some
  | cons first rest =>
    obtain ⟨digit, others⟩ := List.forall_mem_cons.mp plain
    obtain ⟨known, found⟩ := digit.digitValue
    rw [digits?, found]
    exact continueDigits_isSome others _

/-- What has no blanks is not trimmed. -/
theorem trim_of_not_blank {run : List Char}
    (solid : ∀ character ∈ run, ¬Character.isPlainBlank character) : trim run = run := by
  have kept : ∀ other : List Char, (∀ character ∈ other, ¬Character.isPlainBlank character) →
      other.dropWhile Character.isPlainBlank = other := by
    intro other solid
    cases other with
    | nil => rfl
    | cons first rest => exact List.dropWhile_cons_of_neg (solid first (by simp))
  rw [trim, kept run solid, kept run.reverse (by simpa using solid), List.reverse_reverse]

theorem splitSign_of_ne {characters : List Char} (minus : characters.head? ≠ some '-')
    (plus : characters.head? ≠ some '+') : splitSign characters = (false, characters) := by
  rw [splitSign]
  · rintro rest rfl
    exact minus rfl
  · rintro rest rfl
    exact plus rfl

theorem splitAtMark_append {isMark : Char → Bool} {front part : List Char}
    (unmarked : ∀ character ∈ front, (!isMark character) = true)
    (marked : ∀ mark ∈ part.head?, isMark mark) :
    splitAtMark isMark (front ++ part) = (front, part.tail?) := by
  have dropped : (front ++ part).dropWhile (fun character => !isMark character) = part ∧
      (front ++ part).takeWhile (fun character => !isMark character) = front := by
    rw [List.dropWhile_append_of_pos unmarked, List.takeWhile_append_of_pos unmarked]
    cases part with
    | nil => simp
    | cons mark back =>
      have marks : isMark mark := marked mark rfl
      simp [marks]
  rw [splitAtMark, dropped.1, dropped.2]
  cases part with
  | nil => simp
  | cons mark back => rfl

end Numeral

namespace Json
open Numeral

theorem Digits.plain {run : List Char} (digits : Digits run) :
    run.map plain ≠ [] ∧ ∀ character ∈ run.map plain, Plain character := by
  obtain ⟨some, decimal⟩ := digits
  constructor
  · simpa using some
  · intro character member
    obtain ⟨original, inside, rfl⟩ := List.mem_map.mp member
    exact plain_of_isDecimal (decimal original inside)

theorem Sign.exponentSign {sign : List Char} (is : Sign sign) : ExponentSign sign := by
  cases is with
  | inl none => exact .inl none
  | inr minus => exact .inr (.inr minus)

theorem ExponentSign.plain {sign : List Char} (is : ExponentSign sign) :
    sign.map Numeral.plain = sign := by
  rcases is with rfl | rfl | rfl <;> decide

/-- A sign is told from the digits behind it. -/
theorem ExponentSign.splitSign {sign rest : List Char} (is : ExponentSign sign)
    (digit : ∀ character ∈ rest.head?, Plain character) :
    ∃ negative, splitSign (sign ++ rest) = (negative, rest) := by
  rcases is with rfl | rfl | rfl
  · refine ⟨false, splitSign_of_ne ?_ ?_⟩
    · intro minus
      exact (digit _ minus).ne (by decide) rfl
    · intro plus
      exact (digit _ plus).ne (by decide) rfl
  · exact ⟨false, rfl⟩
  · exact ⟨true, rfl⟩

theorem Fraction.plain {run : List Char} (fraction : Fraction run) :
    run.map plain = [] ∨ ∃ digits, (∀ character ∈ digits, Plain character) ∧
      run.map plain = '.' :: digits := by
  obtain rfl | ⟨digits, decimal, rfl⟩ := fraction
  · exact .inl rfl
  · exact .inr ⟨digits.map Numeral.plain, decimal.plain.2, rfl⟩

theorem Exponent.plain {run : List Char} (exponent : Exponent run) :
    run.map plain = [] ∨ ∃ mark sign digits, (mark = 'e' ∨ mark = 'E') ∧ ExponentSign sign ∧
      digits ≠ [] ∧ (∀ character ∈ digits, Plain character) ∧
        run.map plain = mark :: (sign ++ digits) := by
  obtain rfl | ⟨mark, sign, digits, marks, signs, decimal, rfl⟩ := exponent
  · exact .inl rfl
  · refine .inr ⟨mark, sign, digits.map Numeral.plain, marks, signs, decimal.plain.1, decimal.plain.2, ?_⟩
    have same : Numeral.plain mark = mark := by
      rcases marks with rfl | rfl <;> decide
    rw [List.map_cons, List.map_append, signs.plain, same]

section Parts
variable {whole fraction exponent : List Char} (some : whole ≠ [])
  (plain : ∀ character ∈ whole, Plain character)
  (fractional : fraction = [] ∨ ∃ digits, (∀ character ∈ digits, Plain character) ∧
    fraction = '.' :: digits)
include plain fractional

theorem unmarked {character : Char} (member : character ∈ whole ++ fraction) :
    (!(character == 'e' || character == 'E')) = true := by
  have apart : character ≠ 'e' ∧ character ≠ 'E' := by
    cases List.mem_append.mp member with
    | inl inside => exact ⟨(plain _ inside).ne (by decide), (plain _ inside).ne (by decide)⟩
    | inr inside =>
      obtain rfl | ⟨digits, digital, rfl⟩ := fractional
      · cases inside
      · cases inside with
        | head => decide
        | tail _ inside => exact ⟨(digital _ inside).ne (by decide), (digital _ inside).ne (by decide)⟩
  simp [apart]

theorem splitAtMark_point :
    splitAtMark (· == '.') (whole ++ fraction) = (whole, fraction.tail?) := by
  apply splitAtMark_append
  · intro character member
    have apart := (plain character member).ne (by decide : ∀ value < 10, '.' ≠ _)
    simp [apart]
  · obtain rfl | ⟨digits, -, rfl⟩ := fractional
    · nofun
    · rintro mark ⟨⟩
      rfl

include some in
theorem digits_fraction_isSome : (digits? 10 (whole ++ fraction.tail?.getD [])).isSome := by
  apply digits_isSome
  · simp [some]
  · intro character member
    cases List.mem_append.mp member with
    | inl inside => exact plain character inside
    | inr inside =>
      obtain rfl | ⟨digits, digital, rfl⟩ := fractional
      · cases inside
      · exact digital character inside

end Parts

/-- A decimal numeral stands for a number. -/
theorem Decimal.decimal_isSome {token : List Char} (decimal : Decimal token) :
    (decimal? (String.ofList token)).isSome := by
  obtain @⟨sign, digits, fraction, exponent, signs, whole, fractional, scaled, -⟩ := decimal
  obtain ⟨some, plain⟩ := whole.plain
  have leading : ∀ character ∈ ((digits ++ fraction ++ exponent).map Numeral.plain).head?,
      Plain character := by
    intro character first
    rw [List.append_assoc, List.map_append, List.head?_append_of_ne_nil _ some] at first
    exact plain character (List.mem_of_mem_head? first)
  obtain ⟨negative, split⟩ := signs.exponentSign.splitSign leading
  have parts : (String.ofList (sign ++ digits ++ fraction ++ exponent)).toList.map Numeral.plain =
      sign ++ (digits ++ fraction ++ exponent).map Numeral.plain := by
    simp [signs.exponentSign.plain]
  obtain ⟨mantissa, found⟩ := Option.isSome_iff_exists.mp <|
    digits_fraction_isSome some plain fractional.plain
  have marked : ∀ mark ∈ (exponent.map Numeral.plain).head?, (mark == 'e' || mark == 'E') = true := by
    intro mark first
    obtain none | ⟨_, _, _, marks, -, -, -, equal⟩ := scaled.plain
    · rw [none] at first
      cases first
    · rw [equal] at first
      cases first
      simpa using marks
  rw [decimal?, parts, split]
  simp only [List.map_append, splitAtMark_append (fun _ => unmarked plain fractional.plain) marked,
    splitAtMark_point plain fractional.plain, found]
  obtain none | ⟨_, sign, scale, -, signed, some, digital, equal⟩ := scaled.plain
  · rw [none]
    rfl
  · have first : ∀ character ∈ scale.head?, Plain character :=
      fun character first => digital character (List.mem_of_mem_head? first)
    obtain ⟨below, apart⟩ := signed.splitSign first
    obtain ⟨power, counted⟩ := Option.isSome_iff_exists.mp (digits_isSome some digital)
    rw [equal, List.tail?_cons]
    simp only [apart, counted]
    rfl

section Tokens
open Sample

theorem dropWhile_sign {sign rest : List Char} (is : Sign sign) (first : rest.head? ≠ some '-') :
    (sign ++ rest).dropWhile (· == '-') = rest := by
  have stays : rest.dropWhile (· == '-') = rest := by
    cases rest with
    | nil => rfl
    | cons character rest =>
      have other : character ≠ '-' := by simpa using first
      exact List.dropWhile_cons_of_neg (by simpa using other)
  cases is with
  | inl none => rw [none, List.nil_append, stays]
  | inr minus =>
    rw [minus]
    exact stays

theorem Digits.head {digits : List Char} (decimal : Digits digits) (rest : List Char) :
    (digits ++ rest).head? ≠ some '-' := by
  obtain ⟨some, decimal⟩ := decimal
  cases digits with
  | nil => exact absurd rfl some
  | cons first digits =>
    rintro ⟨⟩
    exact absurd (decimal '-' (by simp)) (by decide)

/-- A numeral without fraction and exponent is worth its digits, unless it has too many of them. -/
theorem Digits.integer_eq {sign digits : List Char} (signs : Sign sign) (decimal : Digits digits) :
    ∃ value, digits? 10 (digits.map Numeral.plain) = some value ∧
      Numeral.integer 10 (String.ofList (sign ++ digits)) =
        if digitLimit < digits.length then .error (.tooLong digits.length)
        else .ok (if sign = [] then value else -value) := by
  obtain ⟨some, plain⟩ := decimal.plain
  have first : ∀ character ∈ (digits.map Numeral.plain).head?, Plain character :=
    fun character here => plain character (List.mem_of_mem_head? here)
  have signed : splitSign (sign ++ digits.map Numeral.plain) = (decide (sign ≠ []), digits.map Numeral.plain) := by
    obtain rfl | rfl := signs
    · exact splitSign_of_ne (fun minus => (first _ minus).ne (by decide) rfl) fun plus => (first _ plus).ne (by decide) rfl
    · rfl
  have solid : trim (sign ++ digits.map Numeral.plain) = sign ++ digits.map Numeral.plain := by
    refine trim_of_not_blank fun character member => ?_
    obtain member | member := List.mem_append.mp member
    · obtain rfl | rfl := signs
      · cases member
      · obtain rfl := List.mem_singleton.mp member
        decide
    · exact (plain _ member).not_blank
  obtain ⟨value, found⟩ := Option.isSome_iff_exists.mp (digits_isSome some plain)
  have leading : leadingDigits (digits.map Numeral.plain) = digits.map Numeral.plain := by
    refine List.takeWhile_eq_self_iff.mpr fun character member => ?_
    rw [(plain _ member).isDigit, Bool.true_or]
  have counted : ((digits.map Numeral.plain).filter Char.isDigit).length = digits.length := by
    rw [List.filter_eq_self.mpr fun character member => (plain _ member).isDigit, List.length_map]
  refine ⟨value, found, ?_⟩
  rw [Numeral.integer, String.toList_ofList, List.map_append, signs.exponentSign.plain, solid, signed]
  simp only [↓reduceIte, excessDigits?, leading, counted, found, Option.isSome_some, Bool.and_true,
    decide_eq_true_eq, dropBasePrefix, Nat.reduceEqDiff]
  by_cases few : digitLimit < digits.length
  · simp only [if_pos few]
  · by_cases none : sign = [] <;> simp [few, none]

/-- A numeral without fraction and exponent is read, unless it has too many digits. -/
theorem Digits.ofNumeral {sign digits : List Char} (signs : Sign sign) (decimal : Digits digits) :
    (digits.length ≤ digitLimit ∧ ∃ number, Value.ofNumeral 10 (String.ofList (sign ++ digits)) = .ok number) ∨
      (digitLimit < digits.length ∧
        Value.ofNumeral 10 (String.ofList (sign ++ digits)) = .error (.numeralTooLong digits.length)) := by
  obtain ⟨value, -, read⟩ := decimal.integer_eq signs
  rw [Value.ofNumeral, read]
  by_cases few : digitLimit < digits.length
  · refine .inr ⟨few, ?_⟩
    rw [if_pos few]
  · refine .inl ⟨Nat.le_of_not_lt few, ?_⟩
    rw [if_neg few]
    exact ⟨_, rfl⟩

/-- A fault of reading a whole numeral that stands somewhere in a text. -/
def Unreadable (text : Text) (fault : Fault) : Prop :=
  ∃ token, token <:+: text.toList ∧ Integer token ∧
    Value.ofNumeral 10 (String.ofList token) = .error fault

/-- Only digits that are too many cannot be read. -/
theorem Unreadable.digits {text : Text} {fault : Fault} (unreadable : Unreadable text fault) :
    ∃ digits, digits <:+: text.toList ∧ Digits digits ∧ digitLimit < digits.length ∧
      fault = .numeralTooLong digits.length := by
  obtain ⟨token, inside, integer, failed⟩ := unreadable
  obtain @⟨sign, digits, signs, decimal⟩ := integer
  obtain ⟨-, number, read⟩ | ⟨many, refused⟩ := decimal.ofNumeral signs
  · cases read.symm.trans failed
  · cases failed.symm.trans refused
    exact ⟨digits, .trans (List.suffix_append _ _).isInfix inside, decimal, many, rfl⟩

/-- A numeral without fraction and exponent is read as an integer. -/
theorem Integer.toNumber {token : List Char} (integer : Integer token) :
    toNumber (.str (String.ofList token)) =
      (Value.ofNumeral 10 (String.ofList token)).map .int := by
  obtain @⟨sign, digits, signs, decimal⟩ := integer
  have head := decimal.head []
  rw [List.append_nil] at head
  have unsigned := dropWhile_sign signs head
  have digital : (!digits.isEmpty && digits.all Character.isDecimal) = true := by
    rw [Bool.and_eq_true, List.all_eq_true]
    exact ⟨by simpa using decimal.1, decimal.2⟩
  simp only [Sample.toNumber, String.toList_ofList, unsigned, digital, ↓reduceIte]
  rfl

theorem Decimal.not_all {digits fraction exponent : List Char} (fractional : Fraction fraction)
    (scaled : Exponent exponent) (some : ¬(fraction = [] ∧ exponent = [])) :
    ¬(digits ++ fraction ++ exponent).all Character.isDecimal := by
  intro all
  have decimal := List.all_eq_true.mp all
  have point : ¬Character.isDecimal '.' := by decide
  have marks : ¬Character.isDecimal 'e' ∧ ¬Character.isDecimal 'E' := by decide
  obtain rfl | ⟨behind, -, rfl⟩ := fractional
  · obtain rfl | ⟨mark, sign, power, mark, -, -, rfl⟩ := scaled
    · exact some ⟨rfl, rfl⟩
    · rcases mark with rfl | rfl
      · exact marks.1 (decimal 'e' (by simp))
      · exact marks.2 (decimal 'E' (by simp))
  · exact point (decimal '.' (by simp))

/-- Any other numeral is read as a number with a fraction. -/
theorem Decimal.toNumber {token : List Char} (decimal : Decimal token) :
    ∃ number, decimal? (String.ofList token) = some number ∧
      toNumber (.str (String.ofList token)) = .ok (.float number) := by
  obtain ⟨number, found⟩ := Option.isSome_iff_exists.mp decimal.decimal_isSome
  refine ⟨number, found, ?_⟩
  obtain @⟨sign, digits, fraction, exponent, signs, whole, fractional, scaled, some⟩ := decimal
  have head := whole.head (fraction ++ exponent)
  rw [← List.append_assoc] at head
  have unsigned := dropWhile_sign signs head
  rw [← List.append_assoc, ← List.append_assoc] at unsigned
  have other : ¬(digits ++ fraction ++ exponent).all Character.isDecimal :=
    not_all fractional scaled some
  simp only [Sample.toNumber, String.toList_ofList, unsigned, other, Bool.and_false, Bool.false_eq_true,
    ↓reduceIte, toFraction, found]

/-- A plain hexadecimal digit has its value, and is none of the characters that numerals may have
beside digits. -/
theorem isHexadecimal_plain {digit : Char} (hex : isHexadecimal digit) :
    plain digit = digit ∧ digitValue? 16 digit = some (hexadecimal digit) ∧
      ¬Character.isPlainBlank digit ∧ digit ≠ '_' ∧ digit ≠ '-' ∧ digit ≠ '+' ∧ digit ≠ 'x' ∧
        digit ≠ 'X' := by
  have each : ∀ digit ∈ "0123456789abcdefABCDEF".toList, plain digit = digit ∧
      digitValue? 16 digit = some (hexadecimal digit) ∧ ¬Character.isPlainBlank digit ∧ digit ≠ '_' ∧
        digit ≠ '-' ∧ digit ≠ '+' ∧ digit ≠ 'x' ∧ digit ≠ 'X' :=
    List.all_iff_forall_prop.mp (by decide)
  rw [isHexadecimal, List.contains_iff_mem] at hex
  exact each digit hex

variable {digits : List Char} (hex : ∀ digit ∈ digits, isHexadecimal digit)
include hex

theorem map_plain_hexadecimal : digits.map plain = digits := by
  have same : ∀ digit ∈ digits, plain digit = id digit :=
    fun digit member => (isHexadecimal_plain (hex digit member)).1
  rw [List.map_congr_left same, List.map_id]

theorem trim_hexadecimal : trim digits = digits :=
  trim_of_not_blank fun digit member => (isHexadecimal_plain (hex digit member)).2.2.1

theorem continueDigits_hexadecimal (value : Nat) :
    continueDigits 16 value digits =
      some (digits.foldl (fun code digit => code * 16 + hexadecimal digit) value) := by
  induction digits generalizing value with
  | nil => rfl
  | cons first rest ih =>
    obtain ⟨digit, others⟩ := List.forall_mem_cons.mp hex
    obtain ⟨-, known, -, joins, -⟩ := isHexadecimal_plain digit
    rw [continueDigits_cons rest joins, known]
    exact ih others _

theorem dropBasePrefix_hexadecimal : dropBasePrefix 16 digits = digits := by
  have lower : ¬isHexadecimal 'x' := by decide
  have upper : ¬isHexadecimal 'X' := by decide
  unfold dropBasePrefix
  rw [if_pos rfl]
  split
  · exact absurd (hex 'x' (by simp)) lower
  · exact absurd (hex 'X' (by simp)) upper
  · exact absurd (hex 'x' (by simp)) lower
  · exact absurd (hex 'X' (by simp)) upper
  · rfl

theorem digits_hexadecimal (some : digits ≠ []) : digits? 16 digits = Option.some (codePoint digits) := by
  cases digits with
  | nil => exact absurd rfl some
  | cons first rest =>
    obtain ⟨digit, others⟩ := List.forall_mem_cons.mp hex
    obtain ⟨-, known, -⟩ := isHexadecimal_plain digit
    rw [digits?, known]
    have continued := continueDigits_hexadecimal others (hexadecimal first)
    rw [codePoint, List.foldl_cons, Nat.zero_mul, Nat.zero_add]
    exact continued

/-- Hexadecimal digits stand for their code point. -/
theorem toCharacter_hexadecimal (some : digits ≠ []) :
    toCharacter (.str (String.ofList digits)) =
      .ok (.str (String.singleton (Char.ofNat (codePoint digits)))) := by
  have unsigned : splitSign digits = (false, digits) := by
    apply splitSign_of_ne
    · intro minus
      exact (isHexadecimal_plain (hex _ (List.mem_of_mem_head? minus))).2.2.2.2.1 rfl
    · intro plus
      exact (isHexadecimal_plain (hex _ (List.mem_of_mem_head? plus))).2.2.2.2.2.1 rfl
  have read : Numeral.integer 16 (String.ofList digits) = .ok (codePoint digits) := by
    rw [Numeral.integer, String.toList_ofList, map_plain_hexadecimal hex, trim_hexadecimal hex, unsigned]
    simp only [dropBasePrefix_hexadecimal hex, digits_hexadecimal hex some]
    rfl
  simp only [toCharacter, Value.toIntegerHex, Value.ofNumeral, read]
  rfl

end Tokens

end Json

end TextGrammar
