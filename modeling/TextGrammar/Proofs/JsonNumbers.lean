import TextGrammar.Proofs.Numerals
import TextGrammar.Proofs.Recognition

/-! Numbers. Their parts take all the digits there are, so that the parts of a numeral are told apart
by their first characters. -/

namespace TextGrammar.Json
open Sample

variable {scope : Scope} {known : Trial → Nat → Prop} {slack : Nat} {body rest after : List Char}
  {value : Option Value}

/-- What may follow a number: nothing that could be more of it. -/
def Ended (after : List Char) : Prop :=
  ∀ first ∈ after.head?, ¬Character.isDecimal first ∧ first ≠ '.' ∧ first ≠ 'e' ∧ first ≠ 'E'

def signForm : Form := (Form.word "-").optional

def digitsForm : Form := .run Character.isDecimal

def fractionForm : Form := (Form.word ".").followedBy digitsForm

def exponentSignForm : Form := (Form.character "+-".toList.contains).optional

def exponentForm : Form :=
  ((Form.character "eE".toList.contains).followedBy exponentSignForm).followedBy digitsForm

theorem signForm_denotes : signForm.denotes body value ↔ Sign body ∧ value = none :=
  or_and_right.symm

theorem digitsForm_denotes : digitsForm.denotes body value ↔ Digits body ∧ value = none :=
  and_assoc.symm

theorem fractionForm_denotes :
    fractionForm.optional.denotes body value ↔ Fraction body ∧ value = none := by
  constructor
  · rintro (⟨rfl, rfl⟩ | ⟨_, digits, _, _, rfl, ⟨rfl, -⟩, ⟨some, decimal, rfl⟩, rfl⟩)
    · exact ⟨.inl rfl, rfl⟩
    · exact ⟨.inr ⟨digits, ⟨some, decimal⟩, rfl⟩, rfl⟩
  · rintro ⟨rfl | ⟨digits, ⟨some, decimal⟩, rfl⟩, rfl⟩
    · exact .inl ⟨rfl, rfl⟩
    · exact .inr ⟨_, digits, none, none, rfl, ⟨rfl, rfl⟩, ⟨some, decimal, rfl⟩, rfl⟩

theorem exponentSignForm_denotes :
    exponentSignForm.denotes body value ↔ ExponentSign body ∧ value = none := by
  constructor
  · rintro (⟨rfl, rfl⟩ | ⟨sign, rfl, is, rfl⟩)
    · exact ⟨.inl rfl, rfl⟩
    · have either : sign = '+' ∨ sign = '-' := by simpa using is
      rcases either with rfl | rfl
      · exact ⟨.inr (.inl rfl), rfl⟩
      · exact ⟨.inr (.inr rfl), rfl⟩
  · rintro ⟨rfl | rfl | rfl, rfl⟩
    · exact .inl ⟨rfl, rfl⟩
    · exact .inr ⟨'+', rfl, rfl, rfl⟩
    · exact .inr ⟨'-', rfl, rfl, rfl⟩

theorem exponentForm_denotes :
    exponentForm.optional.denotes body value ↔ Exponent body ∧ value = none := by
  constructor
  · rintro (⟨rfl, rfl⟩ | ⟨_, digits, _, _, rfl, ⟨_, sign, _, _, rfl, ⟨mark, rfl, is, rfl⟩, signs, rfl⟩,
      ⟨some, decimal, rfl⟩, rfl⟩)
    · exact ⟨.inl rfl, rfl⟩
    · have marks : mark = 'e' ∨ mark = 'E' := by simpa using is
      exact ⟨.inr ⟨mark, sign, digits, marks, (exponentSignForm_denotes.mp signs).1, ⟨some, decimal⟩, rfl⟩,
        rfl⟩
  · rintro ⟨rfl | ⟨mark, sign, digits, marks, signs, ⟨some, decimal⟩, rfl⟩, rfl⟩
    · exact .inl ⟨rfl, rfl⟩
    · have is : "eE".toList.contains mark := by simpa using marks
      exact .inr ⟨mark :: sign, digits, none, none, rfl,
        ⟨[mark], sign, none, none, rfl, ⟨mark, rfl, is, rfl⟩, exponentSignForm_denotes.mpr ⟨signs, rfl⟩, rfl⟩,
        ⟨some, decimal, rfl⟩, rfl⟩

theorem head?_of_begins {first : Char} (begins : [first] <+: rest) : first ∈ rest.head? := by
  obtain ⟨tail, rfl⟩ := begins
  rfl

/-- An exponent begins with its mark. -/
theorem exponentForm_begins (begins : exponentForm.begins rest) : 'e' ∈ rest.head? ∨ 'E' ∈ rest.head? := by
  obtain ⟨first, here, is⟩ := Form.begins_of_followedBy (Form.begins_of_followedBy begins rfl) rfl
  have marks : first = 'e' ∨ first = 'E' := by simpa using is
  rcases marks with rfl | rfl
  · exact .inl here
  · exact .inr here

/-- A fraction begins with its point. -/
theorem fractionForm_begins (begins : fractionForm.begins rest) : '.' ∈ rest.head? :=
  head?_of_begins (Form.begins_of_followedBy begins rfl)

/-- An exponent, if there is one, in front of what ends a number. -/
def exponentPart : Form := { exponentForm.optional with ends := Ended }

theorem exponentPart_refines : exponentPart.Refines exponentForm.optional where
  denotes := Iff.rfl
  empty := rfl
  begins := id
  ends {after} ended := by
    constructor
    · intro first here
      exact (ended first here).1
    · intro begins
      cases exponentForm_begins begins with
      | inl here => exact (ended _ here).2.2.1 rfl
      | inr here => exact (ended _ here).2.2.2 rfl

section Meeting

theorem digitsForm_begins (denotes : digitsForm.denotes body value) (after : List Char) :
    ∃ first ∈ (body ++ after).head?, Character.isDecimal first :=
  ((Form.run_lawful _).taken rfl denotes).2 after

theorem signForm_meets : signForm.Meets digitsForm := by
  intro back value after denotes _
  refine ⟨trivial, ?_⟩
  intro minus
  obtain ⟨first, here, decimal⟩ := digitsForm_begins denotes after
  cases Option.mem_unique here (head?_of_begins minus)
  exact absurd decimal (by decide)

theorem exponentSignForm_meets :
    ((Form.character "eE".toList.contains).followedBy exponentSignForm).Meets digitsForm := by
  intro back value after denotes _
  refine ⟨trivial, ?_⟩
  intro begins
  obtain ⟨sign, there, is⟩ := begins
  obtain ⟨first, here, decimal⟩ := digitsForm_begins denotes after
  cases Option.mem_unique here there
  have either : sign = '+' ∨ sign = '-' := by simpa using is
  rcases either with rfl | rfl
  · exact absurd decimal (by decide)
  · exact absurd decimal (by decide)

theorem digitsForm_meets : (signForm.followedBy digitsForm).Meets fractionForm.optional := by
  intro back value after denotes ends first here
  obtain ⟨rfl, -⟩ | fraction := denotes
  · exact ends.1 first here
  · obtain ⟨_, digits, _, _, rfl, ⟨rfl, -⟩, -, -⟩ := fraction
    cases here
    decide

theorem exponentForm_lawful : exponentForm.Lawful :=
  ((Form.character_lawful _).followedBy ((Form.character_lawful _).optional rfl)).followedBy
    (Form.run_lawful _)

theorem fractionForm_meets :
    ((signForm.followedBy digitsForm).followedBy fractionForm.optional).Meets exponentPart := by
  intro back value after denotes ends
  obtain ⟨rfl, -⟩ | exponent := denotes
  · constructor
    · intro first here
      exact (ends first here).1
    · intro begins
      exact (ends _ (fractionForm_begins begins)).2.1 rfl
  · have marked := exponentForm_begins ((exponentForm_lawful.taken rfl exponent).2 after)
    constructor
    · intro first here
      rcases marked with there | there <;> cases Option.mem_unique here there <;> decide
    · intro begins
      rcases marked with there | there <;> cases Option.mem_unique (fractionForm_begins begins) there

end Meeting

/-- A numeral, as a text. -/
def numeralForm : Form :=
  ((signForm.followedBy digitsForm).followedBy fractionForm.optional).followedBy exponentPart

theorem numeralForm_denotes :
    numeralForm.denotes body value ↔ (Integer body ∨ Decimal body) ∧ value = none := by
  constructor
  · rintro ⟨_, exponent, _, _, rfl, ⟨_, fraction, _, _, rfl, ⟨sign, digits, _, _, rfl, signs, whole, -⟩,
      fractional, -⟩, scaled, rfl⟩
    have sign := (signForm_denotes.mp signs).1
    have whole := (digitsForm_denotes.mp whole).1
    have fractional := (fractionForm_denotes.mp fractional).1
    obtain ⟨power, rfl⟩ := exponentForm_denotes.mp scaled
    refine ⟨?_, rfl⟩
    by_cases plain : fraction = [] ∧ exponent = []
    · obtain ⟨rfl, rfl⟩ := plain
      rw [List.append_nil, List.append_nil]
      exact .inl (.of sign whole)
    · exact .inr (.of sign whole fractional power plain)
  · have numeral : ∀ {sign digits fraction exponent : List Char}, Sign sign → Digits digits →
        Fraction fraction → Exponent exponent →
          numeralForm.denotes (sign ++ digits ++ fraction ++ exponent) none := by
      intro sign digits fraction exponent signs whole fractional scaled
      have one := signForm_denotes.mpr ⟨signs, rfl⟩
      have two := digitsForm_denotes.mpr ⟨whole, rfl⟩
      have three := fractionForm_denotes.mpr ⟨fractional, rfl⟩
      have four := exponentForm_denotes.mpr ⟨scaled, rfl⟩
      exact ⟨_, exponent, none, none, rfl, ⟨_, fraction, none, none, rfl,
        ⟨sign, digits, none, none, rfl, one, two, rfl⟩, three, rfl⟩, four, rfl⟩
    rintro ⟨integer | decimal, rfl⟩
    · obtain @⟨sign, digits, signs, whole⟩ := integer
      have all := numeral signs whole (.inl rfl) (.inl rfl)
      rw [List.append_nil, List.append_nil] at all
      exact all
    · obtain ⟨signs, whole, fractional, scaled, -⟩ := decimal
      exact numeral signs whole fractional scaled

theorem numeral_recognises :
    (Expression.optional (.literal "-") + digits + Expression.optional fraction +
      Expression.optional exponent).Recognises scope known slack numeralForm := by
  have digital : digits.Recognises scope known slack digitsForm := .constant scope known slack rfl
  have minus : (Expression.literal "-").Recognises scope known slack (.word "-") :=
    .literal scope known slack (by simp)
  have point : (Expression.literal ".").Recognises scope known slack (.word ".") :=
    .literal scope known slack (by simp)
  have sign := minus.optional rfl
  have fractional := (point.sum digital fun _ _ => trivial).optional rfl
  have mark := Expression.Recognises.characterIn scope known slack (.ofString "eE")
  have signs := (Expression.Recognises.characterIn scope known slack (.ofString "+-")).optional rfl
  have scaled := ((mark.sum signs fun _ _ => trivial).sum digital exponentSignForm_meets).optional rfl
  have last := scaled.refine exponentPart_refines rfl
  exact ((sign.sum digital signForm_meets).sum fractional digitsForm_meets).sum last fractionForm_meets

theorem numeralForm_begins (begins : numeralForm.begins rest) :
    ∃ first ∈ rest.head?, first = '-' ∨ Character.isDecimal first := by
  obtain minus | ⟨-, first, here, decimal⟩ :=
    Form.begins_of_followedBy (Form.begins_of_followedBy begins rfl) rfl
  · exact ⟨'-', head?_of_begins minus, .inl rfl⟩
  · exact ⟨first, here, .inr decimal⟩

/-- A number, as a value. -/
def numberForm : Form where
  kind := .parser
  denotes body value := ∃ number, value = some number ∧
    ((∃ integer, Integer body ∧ Value.ofNumeral 10 (String.ofList body) = .ok integer ∧
        number = .int integer) ∨
      ∃ float, Decimal body ∧ Numeral.decimal? (String.ofList body) = some float ∧ number = .float float)
  empty := none
  begins rest := ∃ first ∈ rest.head?, first = '-' ∨ Character.isDecimal first
  ends := Ended

/-- Only whole numerals may fail to be numbers. -/
def Blames (trial : Trial) : Prop :=
  ∀ {token fault}, token <:+: trial.text.toList → Integer token →
    Value.ofNumeral 10 (String.ofList token) = .error fault → trial.blamed fault

theorem numberForm_refines :
    numberForm.Refines ((numeralForm.worth fun body => .str (String.ofList body)).mapped toNumber) where
  denotes {body value} := by
    constructor
    · rintro ⟨number, rfl, ⟨integer, numeral, read, rfl⟩ | ⟨float, numeral, read, rfl⟩⟩
      · refine ⟨_, _, ⟨⟨none, numeralForm_denotes.mpr ⟨.inl numeral, rfl⟩⟩, rfl⟩, ?_, rfl⟩
        rw [numeral.toNumber, read]
        rfl
      · refine ⟨_, _, ⟨⟨none, numeralForm_denotes.mpr ⟨.inr numeral, rfl⟩⟩, rfl⟩, ?_, rfl⟩
        obtain ⟨other, same, given⟩ := numeral.toNumber
        rw [given, Option.some.inj (same.symm.trans read)]
    · rintro ⟨_, number, ⟨⟨_, denotes⟩, ⟨⟩⟩, given, rfl⟩
      refine ⟨number, rfl, ?_⟩
      obtain ⟨numeral | numeral, -⟩ := numeralForm_denotes.mp denotes
      · rw [numeral.toNumber] at given
        cases read : Value.ofNumeral 10 (String.ofList body) with
        | error fault =>
          rw [read] at given
          cases given
        | ok integer =>
          rw [read] at given
          cases given
          exact .inl ⟨integer, numeral, rfl, rfl⟩
      · obtain ⟨float, read, same⟩ := numeral.toNumber
        cases same.symm.trans given
        exact .inr ⟨float, numeral, read, rfl⟩
  empty := rfl
  begins := numeralForm_begins
  ends := id

theorem number_recognises (blames : ∀ {trial bound}, known trial bound → Blames trial) :
    number.Recognises scope known slack numberForm := by
  apply Expression.Recognises.refine _ numberForm_refines rfl
  apply numeral_recognises.captured.shifted rfl rfl
  intro trial bound knowing body given fault inside denotes failed
  obtain ⟨⟨_, denotes⟩, ⟨⟩⟩ := denotes
  obtain ⟨integer | decimal, -⟩ := numeralForm_denotes.mp denotes
  · rw [integer.toNumber] at failed
    cases read : Value.ofNumeral 10 (String.ofList body) with
    | error fault =>
      rw [read] at failed
      cases failed
      exact blames knowing inside integer read
    | ok number =>
      rw [read] at failed
      cases failed
  · obtain ⟨number, -, read⟩ := decimal.toNumber
    cases read.symm.trans failed

end TextGrammar.Json
