import TextGrammar.Proofs.LongestReadings
import TextGrammar.Proofs.WrittenIntegers

/-! Numbers take the longest token there is. A point, a sign or the mark of an exponent without digits is given
back, since no digit is of use to what comes before it. -/

namespace TextGrammar

namespace Sample
open Json

variable {scope : Scope} {body : List Char} {value : Option Value}

section Parts

theorem signForm_parts : signForm.Parts digitsForm := by
  rintro body value denotes character member tail ⟨_, ⟨⟩, decimal⟩
  obtain ⟨rfl | rfl, -⟩ := signForm_denotes.mp denotes
  · cases member
  · obtain rfl := List.mem_singleton.mp member
    exact absurd decimal (by decide)

/-- An integer has a sign and digits. -/
theorem characters_of_integer {token : List Char} (integer : Integer token) :
    ∀ character ∈ token, character = '-' ∨ Character.isDecimal character := by
  obtain @⟨sign, digits, signs, -, decimal⟩ := integer
  intro character member
  obtain member | member := List.mem_append.mp member
  · obtain rfl | rfl := signs
    · cases member
    · exact .inl (List.mem_singleton.mp member)
  · exact .inr (decimal character member)

theorem tokenForm_parts : tokenForm.Parts fractionForm.optional := by
  intro body value denotes character member tail begins
  cases fractionForm_begins begins
  obtain minus | decimal := characters_of_integer (tokenForm_denotes.mp denotes).1 '.' member
  · cases minus
  · exact absurd decimal (by decide)

theorem fractionForm_parts : (tokenForm.followedBy fractionForm.optional).Parts exponentPart := by
  rintro _ _ ⟨token, fraction, _, _, rfl, whole, fractional, -⟩ character member tail begins
  have marked : character = 'e' ∨ character = 'E' := by
    obtain here | here := exponentForm_begins begins
    · cases here
      exact .inl rfl
    · cases here
      exact .inr rfl
  have plain : character = '-' ∨ Character.isDecimal character ∨ character = '.' := by
    obtain member | member := List.mem_append.mp member
    · obtain minus | decimal := characters_of_integer (tokenForm_denotes.mp whole).1 character member
      · exact .inl minus
      · exact .inr (.inl decimal)
    · obtain rfl | ⟨digits, decimal, rfl⟩ := (fractionForm_denotes.mp fractional).1
      · cases member
      · obtain rfl | member := List.mem_cons.mp member
        · exact .inr (.inr rfl)
        · exact .inr (.inl (decimal.2 character member))
  rcases marked with rfl | rfl <;> obtain minus | decimal | point := plain
  all_goals first | cases minus | cases point | exact absurd decimal (by decide)

theorem point_parts : (Form.word ".").Parts digitsForm := by
  rintro _ _ ⟨rfl, -⟩ character member tail ⟨_, ⟨⟩, decimal⟩
  obtain rfl := List.mem_singleton.mp member
  exact absurd decimal (by decide)

theorem mark_parts : (Form.character "eE".toList.contains).Parts exponentSignForm := by
  rintro _ _ ⟨mark, rfl, marks, -⟩ character member tail ⟨_, ⟨⟩, signs⟩
  obtain rfl := List.mem_singleton.mp member
  have one : character = 'e' ∨ character = 'E' := by simpa using marks
  have other : character = '+' ∨ character = '-' := by simpa using signs
  rcases one with rfl | rfl <;> rcases other with same | same <;> cases same

theorem exponentSign_parts :
    ((Form.character "eE".toList.contains).followedBy exponentSignForm).Parts digitsForm := by
  rintro _ _ ⟨_, sign, _, _, rfl, ⟨mark, rfl, marks, -⟩, signs, -⟩ character member tail ⟨_, ⟨⟩, decimal⟩
  have one : mark = 'e' ∨ mark = 'E' := by simpa using marks
  obtain member | member := List.mem_append.mp member
  · obtain rfl := List.mem_singleton.mp member
    rcases one with rfl | rfl <;> exact absurd decimal (by decide)
  · obtain rfl | rfl | rfl := (exponentSignForm_denotes.mp signs).1
    · cases member
    all_goals
      obtain rfl := List.mem_singleton.mp member
      exact absurd decimal (by decide)

end Parts

theorem digits_takesLongest : digits.TakesLongest scope digitsForm := .constant scope rfl

theorem token_takesLongest : (Expression.optional (.literal "-") + digits).TakesLongest scope tokenForm :=
  ((Expression.TakesLongest.literal scope (by simp)).optional rfl).sum digits_takesLongest signForm_parts

theorem numeral_takesLongest :
    (Expression.optional (.literal "-") + digits + Expression.optional fraction +
      Expression.optional exponent).TakesLongest scope numeralForm := by
  have point := Expression.TakesLongest.literal scope (by simp : ".".toList ≠ [])
  have fractional := (point.sum digits_takesLongest point_parts).optional rfl
  have mark := Expression.TakesLongest.characterIn scope (.ofString "eE")
  have signs := (Expression.TakesLongest.characterIn scope (.ofString "+-")).optional rfl
  have scaled := ((mark.sum signs mark_parts).sum digits_takesLongest exponentSign_parts).optional rfl
  exact (token_takesLongest.sum fractional tokenForm_parts).sum (scaled.refine exponentPart_refines rfl) fractionForm_parts

section Halves

/-- The digits of a token in front of its point and those behind it, zero where there are none. -/
inductive Halves : List Char → List Char → List Char → Prop
  | whole {digits : List Char} : Digits digits → Halves digits digits ['0']
  | both {whole fraction : List Char} : Digits whole → Digits fraction → Halves (whole ++ '.' :: fraction) whole fraction
  | fraction {digits : List Char} : Digits digits → Halves ('.' :: digits) ['0'] digits

/-- The number of a whole part and a fraction. -/
def joined? (whole fraction : List Char) : Option Binary64 := Numeral.decimal? (String.ofList (whole ++ '.' :: fraction))

theorem Halves.digits {token whole fraction : List Char} (halves : Halves token whole fraction) :
    Digits whole ∧ Digits fraction := by
  have zero : Digits ['0'] := ⟨List.cons_ne_nil _ _, List.forall_mem_singleton.mpr (by decide)⟩
  cases halves with
  | whole digits => exact ⟨digits, zero⟩
  | both one two => exact ⟨one, two⟩
  | fraction digits => exact ⟨zero, digits⟩

theorem Halves.ne_nil {token whole fraction : List Char} (halves : Halves token whole fraction) : token ≠ [] := by
  cases halves with
  | whole digits => exact digits.1
  | both => simp
  | fraction => simp

/-- There always is such a number. -/
theorem Halves.joined {token whole fraction : List Char} (halves : Halves token whole fraction) :
    ∃ number, joined? whole fraction = some number := by
  obtain ⟨one, two⟩ := halves.digits
  have decimal : Decimal ([] ++ whole ++ '.' :: fraction ++ []) :=
    .of (.inl rfl) one (.inr ⟨fraction, two, rfl⟩) (.inl rfl) (by simp)
  rw [List.nil_append, List.append_nil] at decimal
  exact Option.isSome_iff_exists.mp decimal.decimal_isSome

def wholeForm : Form := (digitsForm.worth fun body => .str (String.ofList body)).optional

def fractionalForm : Form := ((Form.word ".").followedBy (digitsForm.worth fun body => .str (String.ofList body))).optional

/-- A whole part and a fraction, either of which may be missing. -/
def halvesForm : Form := wholeForm.followedBy fractionalForm

theorem wholeForm_denotes : wholeForm.denotes body value ↔
    (body = [] ∧ value = some .null) ∨ (Digits body ∧ value = some (.str (String.ofList body))) := by
  constructor
  · rintro (none | ⟨⟨_, denotes⟩, rfl⟩)
    · exact .inl none
    · exact .inr ⟨(digitsForm_denotes.mp denotes).1, rfl⟩
  · rintro (none | ⟨digits, rfl⟩)
    · exact .inl none
    · exact .inr ⟨⟨none, digitsForm_denotes.mpr ⟨digits, rfl⟩⟩, rfl⟩

theorem fractionalForm_denotes : fractionalForm.denotes body value ↔ (body = [] ∧ value = some .null) ∨
    ∃ digits, Digits digits ∧ body = '.' :: digits ∧ value = some (.str (String.ofList digits)) := by
  constructor
  · rintro (none | ⟨_, digits, _, _, rfl, ⟨rfl, -⟩, ⟨⟨_, denotes⟩, rfl⟩, rfl⟩)
    · exact .inl none
    · exact .inr ⟨digits, (digitsForm_denotes.mp denotes).1, rfl, rfl⟩
  · rintro (none | ⟨digits, decimal, rfl, rfl⟩)
    · exact .inl none
    · exact .inr ⟨_, digits, none, _, rfl, ⟨rfl, rfl⟩, ⟨⟨none, digitsForm_denotes.mpr ⟨decimal, rfl⟩⟩, rfl⟩, rfl⟩

theorem joinParts_eq {one two : Value} {whole fraction : List Char} (first : partDigits one = String.ofList whole)
    (second : partDigits two = String.ofList fraction) :
    joinParts (.tuple [one, two]) = toFraction (.str (String.ofList (whole ++ '.' :: fraction))) := by
  rw [joinParts, first, second]
  congr 2
  apply String.toList_injective
  simp

/-- A token that is not empty has two halves, which are joined. -/
theorem halves_of_denotes {given : Value} (denotes : halvesForm.denotes body (some given)) :
    (body = [] ∧ given = .tuple [.null, .null]) ∨ ∃ whole fraction, Halves body whole fraction ∧
      given.same (.tuple [.null, .null]) = false ∧
        joinParts given = toFraction (.str (String.ofList (whole ++ '.' :: fraction))) := by
  obtain ⟨front, back, one, two, rfl, left, right, is⟩ := denotes
  obtain ⟨rfl, rfl⟩ | ⟨digits, rfl⟩ := wholeForm_denotes.mp left
  · obtain ⟨rfl, rfl⟩ | ⟨behind, decimal, rfl, rfl⟩ := fractionalForm_denotes.mp right
    · cases is
      exact .inl ⟨rfl, rfl⟩
    · cases is
      exact .inr ⟨_, _, .fraction decimal, rfl, joinParts_eq rfl rfl⟩
  · obtain ⟨rfl, rfl⟩ | ⟨behind, decimal, rfl, rfl⟩ := fractionalForm_denotes.mp right
    · cases is
      rw [List.append_nil]
      exact .inr ⟨_, _, .whole digits, rfl, joinParts_eq rfl rfl⟩
    · cases is
      exact .inr ⟨_, _, .both digits decimal, rfl, joinParts_eq rfl rfl⟩

theorem Halves.denotes {whole fraction : List Char} (halves : Halves body whole fraction) :
    ∃ given, halvesForm.denotes body (some given) ∧
      joinParts given = toFraction (.str (String.ofList (whole ++ '.' :: fraction))) := by
  have nothing : wholeForm.denotes [] (some .null) := wholeForm_denotes.mpr (.inl ⟨rfl, rfl⟩)
  have none : fractionalForm.denotes [] (some .null) := fractionalForm_denotes.mpr (.inl ⟨rfl, rfl⟩)
  have front {digits : List Char} (decimal : Digits digits) := wholeForm_denotes.mpr (.inr ⟨decimal, rfl⟩)
  have back {digits : List Char} (decimal : Digits digits) := fractionalForm_denotes.mpr (.inr ⟨digits, decimal, rfl, rfl⟩)
  cases halves with
  | whole digits => exact ⟨_, ⟨_, [], _, _, (List.append_nil _).symm, front digits, none, rfl⟩, joinParts_eq rfl rfl⟩
  | both one two => exact ⟨_, ⟨_, _, _, _, rfl, front one, back two, rfl⟩, joinParts_eq rfl rfl⟩
  | fraction digits => exact ⟨_, ⟨[], _, _, _, rfl, nothing, back digits, rfl⟩, joinParts_eq rfl rfl⟩

theorem halvesForm_judged : halvesForm.Judged (Value.Test.differs (.tuple [.null, .null])) := by
  intro body given denotes
  obtain ⟨rfl, rfl⟩ | ⟨whole, fraction, halves, differs, -⟩ := halves_of_denotes denotes
  · rfl
  · rw [Value.Test.differs, differs, List.isEmpty_eq_false_iff.mpr halves.ne_nil]

/-- A number without sign. -/
def unsignedForm : Form := (halvesForm.kept (Value.Test.differs (.tuple [.null, .null]))).mapped joinParts

theorem Halves.toFraction {token whole fraction : List Char} (halves : Halves token whole fraction) :
    ∃ number, joined? whole fraction = some number ∧
      Sample.toFraction (.str (String.ofList (whole ++ '.' :: fraction))) = .ok (.float number) := by
  obtain ⟨number, is⟩ := halves.joined
  refine ⟨number, is, ?_⟩
  rw [joined?] at is
  simp only [Sample.toFraction, is]

theorem joined_of_kept {given : Value}
    (denotes : (halvesForm.kept (Value.Test.differs (.tuple [.null, .null]))).denotes body (some given)) :
    ∃ whole fraction number, Halves body whole fraction ∧ joined? whole fraction = some number ∧
      joinParts given = .ok (.float number) := by
  obtain ⟨_, denotes, accepted, ⟨⟩⟩ := denotes
  obtain ⟨rfl, rfl⟩ | ⟨whole, fraction, halves, -, joins⟩ := halves_of_denotes denotes
  · cases accepted
  · obtain ⟨number, is, read⟩ := halves.toFraction
    exact ⟨whole, fraction, number, halves, is, joins.trans read⟩

theorem unsignedForm_denotes : unsignedForm.denotes body value ↔ ∃ whole fraction number, Halves body whole fraction ∧
    joined? whole fraction = some number ∧ value = some (.float number) := by
  constructor
  · rintro ⟨given, changed, denotes, joins, rfl⟩
    obtain ⟨whole, fraction, number, halves, is, read⟩ := joined_of_kept denotes
    cases joins.symm.trans read
    exact ⟨whole, fraction, number, halves, is, rfl⟩
  · rintro ⟨whole, fraction, number, halves, is, rfl⟩
    obtain ⟨given, denotes, joins⟩ := halves.denotes
    obtain ⟨_, same, read⟩ := halves.toFraction
    cases is.symm.trans same
    refine ⟨given, .float number, ⟨given, denotes, ?_, rfl⟩, joins.trans read, rfl⟩
    rw [halvesForm_judged denotes, List.isEmpty_eq_false_iff.mpr halves.ne_nil]
    rfl

theorem wholeForm_parts : wholeForm.Parts fractionalForm := by
  intro body value denotes character member tail begins
  have point : '.' ∈ (character :: tail).head? := head?_of_begins (Form.begins_of_followedBy begins rfl)
  cases point
  obtain ⟨rfl, -⟩ | ⟨digits, -⟩ := wholeForm_denotes.mp denotes
  · cases member
  · exact absurd (digits.2 '.' member) (by decide)

theorem ufloat_takesLongest : ufloat.TakesLongest scope unsignedForm := by
  have digital : digits.TakesLongest scope digitsForm := digits_takesLongest
  have point_parts : (Form.word ".").Parts (digitsForm.worth fun body => .str (String.ofList body)) := point_parts
  have fraction := (digital.captured.word_sum (by simp) point_parts).optional rfl
  have halves := (digital.captured.optional rfl).sum fraction wholeForm_parts
  refine (halves.filter rfl halvesForm_judged).mapped rfl rfl fun denotes => ?_
  obtain ⟨_, _, number, -, -, joins⟩ := joined_of_kept denotes
  exact ⟨.float number, joins⟩

end Halves

/-- A number with a sign in front of it. -/
def negatedForm : Form := ((Form.word "-").followedBy unsignedForm).mapped Value.negate

/-- A number with an optional sign. -/
def signedForm : Form := .oneOf .parser [unsignedForm, negatedForm]

section Signs

theorem minus_denotes : ((Form.word "-").followedBy unsignedForm).denotes body value ↔ ∃ token, body = '-' :: token ∧
    unsignedForm.denotes token value := by
  constructor
  · rintro ⟨_, token, _, _, rfl, ⟨rfl, -⟩, denotes, rfl⟩
    exact ⟨token, rfl, denotes⟩
  · rintro ⟨token, rfl, denotes⟩
    exact ⟨['-'], token, none, value, rfl, ⟨rfl, rfl⟩, denotes, rfl⟩

theorem negatedForm_denotes : negatedForm.denotes body value ↔ ∃ token whole fraction number, body = '-' :: token ∧
    Halves token whole fraction ∧ joined? whole fraction = some number ∧ value = some (.float number.negate) := by
  constructor
  · rintro ⟨given, changed, denotes, changes, rfl⟩
    obtain ⟨token, rfl, unsigned⟩ := minus_denotes.mp denotes
    obtain ⟨whole, fraction, number, halves, is, ⟨⟩⟩ := unsignedForm_denotes.mp unsigned
    cases changes
    exact ⟨token, whole, fraction, number, rfl, halves, is, rfl⟩
  · rintro ⟨token, whole, fraction, number, rfl, halves, is, rfl⟩
    have unsigned := unsignedForm_denotes.mpr ⟨whole, fraction, number, halves, is, rfl⟩
    exact ⟨.float number, .float number.negate, minus_denotes.mpr ⟨token, rfl, unsigned⟩, rfl, rfl⟩

/-- A number without sign begins with a digit or a point. -/
theorem unsignedForm_begins {rest : List Char} (begins : unsignedForm.begins rest) :
    ∃ first ∈ rest.head?, Character.isDecimal first ∨ first = '.' := by
  obtain ⟨first, here, decimal⟩ | ⟨-, point⟩ := begins
  · exact ⟨first, here, .inl decimal⟩
  · exact ⟨'.', head?_of_begins (Form.begins_of_followedBy point rfl), .inr rfl⟩

theorem minus_parts : (Form.word "-").Parts unsignedForm := by
  rintro _ _ ⟨rfl, -⟩ character member tail begins
  obtain rfl := List.mem_singleton.mp member
  obtain ⟨_, ⟨⟩, decimal | point⟩ := unsignedForm_begins begins
  · exact absurd decimal (by decide)
  · cases point

theorem negated_takesLongest : (Expression.shifted ("-" + ufloat) Value.negate).TakesLongest scope negatedForm := by
  refine (ufloat_takesLongest.word_sum (by simp) minus_parts).mapped rfl rfl fun denotes => ?_
  obtain ⟨token, rfl, unsigned⟩ := minus_denotes.mp denotes
  obtain ⟨whole, fraction, number, halves, is, ⟨⟩⟩ := unsignedForm_denotes.mp unsigned
  exact ⟨_, rfl⟩

theorem signs_apart : Form.Apart .parser [unsignedForm, negatedForm] where
  kinds := by simp [unsignedForm, negatedForm, Form.mapped]
  empty := by simp [unsignedForm, negatedForm, Form.mapped]
  lawful := by
    have unsigned : ufloat.TakesLongest [] unsignedForm := ufloat_takesLongest
    have negated : (Expression.shifted ("-" + ufloat) Value.negate).TakesLongest [] negatedForm := negated_takesLongest
    simpa using ⟨unsigned.lawful, negated.lawful⟩
  begins := by
    refine List.pairwise_pair.mpr fun rest unsigned negated => ?_
    have minus : '-' ∈ rest.head? := head?_of_begins (Form.begins_of_followedBy negated rfl)
    obtain ⟨first, here, decimal | point⟩ := unsignedForm_begins unsigned
    · cases Option.mem_unique here minus
      exact absurd decimal (by decide)
    · cases Option.mem_unique here minus
      cases point

theorem signedFloat_takesLongest : signedFloat.TakesLongest scope signedForm :=
  ufloat_takesLongest.union negated_takesLongest signs_apart

end Signs

section Worth

/-- The token of a number without sign, and of one with an optional sign. -/
def Unsigned (token : List Char) : Prop := ∃ whole fraction, Halves token whole fraction

def Signed (token : List Char) : Prop := ∃ sign unsigned, Sign sign ∧ Unsigned unsigned ∧ token = sign ++ unsigned

/-- What the token of an integer is worth. It can be read unless it has too many digits. -/
def IntegerWorth (token : List Char) (outcome : Except Fault Value) : Prop :=
  outcome = (Value.ofNumeral 10 (String.ofList token)).map .int ∧
    (token.length ≤ Numeral.digitLimit → ∃ number, outcome = .ok (.int number))

/-- What the token of a number without sign is worth. -/
def UnsignedWorth (token : List Char) (outcome : Except Fault Value) : Prop :=
  ∃ whole fraction number, Halves token whole fraction ∧ joined? whole fraction = some number ∧ outcome = .ok (.float number)

/-- What the token of a number with an optional sign is worth. -/
def SignedWorth (token : List Char) (outcome : Except Fault Value) : Prop :=
  UnsignedWorth token outcome ∨ ∃ unsigned number, token = '-' :: unsigned ∧ UnsignedWorth unsigned (.ok (.float number)) ∧
    outcome = .ok (.float number.negate)

/-- What the token of a number is worth: an integer if it has neither fraction nor exponent. -/
def NumberWorth (token : List Char) (outcome : Except Fault Value) : Prop :=
  (Integer token ∧ IntegerWorth token outcome) ∨
    (Decimal token ∧ ∃ number, Numeral.decimal? (String.ofList token) = some number ∧ outcome = .ok (.float number))

theorem integer_worth {token : List Char} (integer : Integer token) :
    IntegerWorth token ((Value.ofNumeral 10 (String.ofList token)).map .int) := by
  refine ⟨rfl, fun few => ?_⟩
  obtain @⟨sign, digits, signs, decimal⟩ := integer
  obtain ⟨-, number, read⟩ | ⟨many, -⟩ := decimal.ofNumeral signs
  · exact ⟨number, by rw [read]; rfl⟩
  · rw [List.length_append] at few
    omega

theorem toInteger_str (text : String) : Value.toInteger (.str text) = (Value.ofNumeral 10 text).map .int := by
  rw [Value.toInteger]
  cases Value.ofNumeral 10 text <;> rfl

end Worth

theorem uint_longest : Session.MatchesLongest uint Digits IntegerWorth := by
  have digital : digits.TakesLongest [] digitsForm := digits_takesLongest
  refine Session.matchesLongest_captured digital (by simp [digitsForm_denotes]) fun decimal => ?_
  rw [toInteger_str]
  exact integer_worth (.of (.inl rfl : Sign []) decimal)

theorem integer_longest : Session.MatchesLongest integer Integer IntegerWorth := by
  have token : (Expression.optional (.literal "-") + digits).TakesLongest [] tokenForm := token_takesLongest
  refine Session.matchesLongest_captured token (by simp [tokenForm_denotes]) fun integer => ?_
  rw [toInteger_str]
  exact integer_worth integer

theorem unsignedForm_worth {given : Value} (denotes : unsignedForm.denotes body (some given)) :
    Unsigned body ∧ UnsignedWorth body (.ok given) := by
  obtain ⟨whole, fraction, number, halves, is, ⟨⟩⟩ := unsignedForm_denotes.mp denotes
  exact ⟨⟨whole, fraction, halves⟩, whole, fraction, number, halves, is, rfl⟩

theorem Unsigned.denotes {token : List Char} (unsigned : Unsigned token) :
    ∃ number, unsignedForm.denotes token (some (.float number)) := by
  obtain ⟨whole, fraction, halves⟩ := unsigned
  obtain ⟨number, is⟩ := halves.joined
  exact ⟨number, unsignedForm_denotes.mpr ⟨whole, fraction, number, halves, is, rfl⟩⟩

theorem ufloat_longest : Session.MatchesLongest ufloat Unsigned UnsignedWorth := by
  have takes : ufloat.TakesLongest [] unsignedForm := ufloat_takesLongest
  refine Session.matchesLongest (takes.unchanged rfl) ?_ fun denotes => (unsignedForm_worth denotes).2
  intro body
  constructor
  · intro unsigned
    obtain ⟨number, denotes⟩ := unsigned.denotes
    exact ⟨_, denotes⟩
  · rintro ⟨given, denotes⟩
    exact (unsignedForm_worth denotes).1

theorem signedForm_denotes :
    signedForm.denotes body value ↔ unsignedForm.denotes body value ∨ negatedForm.denotes body value := by
  simp [signedForm, Form.oneOf]

theorem negatedForm_worth {given : Value} (denotes : negatedForm.denotes body (some given)) :
    Signed body ∧ SignedWorth body (.ok given) := by
  obtain ⟨token, whole, fraction, number, rfl, halves, is, ⟨⟩⟩ := negatedForm_denotes.mp denotes
  exact ⟨⟨['-'], token, .inr rfl, ⟨whole, fraction, halves⟩, rfl⟩,
    .inr ⟨token, number, rfl, ⟨whole, fraction, number, halves, is, rfl⟩, rfl⟩⟩

theorem signedFloat_longest : Session.MatchesLongest signedFloat Signed SignedWorth := by
  have takes : signedFloat.TakesLongest [] signedForm := signedFloat_takesLongest
  refine Session.matchesLongest (takes.unchanged rfl) ?_ ?_
  · intro body
    constructor
    · rintro ⟨sign, unsigned, signs, token, rfl⟩
      obtain ⟨number, denotes⟩ := token.denotes
      obtain rfl | rfl := signs
      · exact ⟨_, signedForm_denotes.mpr (.inl denotes)⟩
      · obtain ⟨whole, fraction, number, halves, is, -⟩ := unsignedForm_denotes.mp denotes
        have negated := negatedForm_denotes.mpr ⟨unsigned, whole, fraction, number, rfl, halves, is, rfl⟩
        exact ⟨_, signedForm_denotes.mpr (.inr negated)⟩
    · rintro ⟨given, denotes⟩
      obtain denotes | denotes := signedForm_denotes.mp denotes
      · exact ⟨[], body, .inl rfl, (unsignedForm_worth denotes).1, rfl⟩
      · exact (negatedForm_worth denotes).1
  · intro body given denotes
    obtain denotes | denotes := signedForm_denotes.mp denotes
    · exact .inl (unsignedForm_worth denotes).2
    · exact (negatedForm_worth denotes).2

theorem number_longest :
    Session.MatchesLongest number (fun token => Integer token ∨ Decimal token) NumberWorth := by
  have numeral : (Expression.optional (.literal "-") + digits + Expression.optional fraction +
      Expression.optional exponent).TakesLongest [] numeralForm := numeral_takesLongest
  refine Session.matchesLongest_captured numeral (by simp [numeralForm_denotes]) fun token => ?_
  obtain integer | decimal := token
  · rw [integer.toNumber]
    exact .inl ⟨integer, integer_worth integer⟩
  · obtain ⟨number, is, read⟩ := decimal.toNumber
    rw [read]
    exact .inr ⟨decimal, number, is, rfl⟩

/-- An integer that has few enough digits is parsed from its text. -/
theorem parses_printed (history : List Command) {written : Int} (few : Numeral.isWritable written) :
    ∃ enough, ∀ fuel, enough ≤ fuel →
      ((Session.parsingOrNull fuel integer (Text.ofString (Value.printed (.int written)))).exec (Store.afterAll history)).1 =
        .ok (.int written) := by
  let text := Text.ofString (Value.printed (.int written))
  have parses : integer.Parses text (Store.afterAll history) IntegerRead := by
    refine integer_makes.parses (fun tells rest within => ?_) _
    obtain ⟨reading, reads, read⟩ := tells ⟨text, .any⟩ rest within
    refine ⟨reading, reads, ?_, read⟩
    rintro ⟨value, after⟩ rfl
    obtain ⟨_, number, -, -, -, -, rfl⟩ := read.found
    rfl
  obtain ⟨reading, read, enough, parsed⟩ := parses.parsingOrNull
  have whole : text.toList = (Value.printed (.int written)).toList ++ [] := by
    rw [List.append_nil]
    rfl
  have token := IntegerRead.token (integer_printed written) (nofun : digitsForm.ends [])
  rw [String.ofList_toList, ofNumeral_printed few, ← whole] at token
  cases read.unique token
  exact ⟨enough, parsed⟩

/-- The grammars of numbers match the longest number that stands at an offset, whatever follows it, and it is worth
what it says. In particular an integer is parsed from its text. -/
theorem longest_numbers :
    Session.MatchesLongest uint Digits IntegerWorth ∧ Session.MatchesLongest integer Integer IntegerWorth ∧
      Session.MatchesLongest ufloat Unsigned UnsignedWorth ∧ Session.MatchesLongest signedFloat Signed SignedWorth ∧
      Session.MatchesLongest number (fun token => Integer token ∨ Decimal token) NumberWorth ∧
      ∀ (history : List Command) (written : Int), Numeral.isWritable written → ∃ enough, ∀ fuel, enough ≤ fuel →
        ((Session.parsingOrNull fuel integer (Text.ofString (Value.printed (.int written)))).exec (Store.afterAll history)).1 =
          .ok (.int written) :=
  ⟨uint_longest, integer_longest, ufloat_longest, signedFloat_longest, number_longest,
    fun history _ few => parses_printed history few⟩

-- The mark of an exponent without digits is given back.
set_option maxRecDepth 4096 in
example : ((Session.matching 20 number (Text.ofString "1.5e+") 0).exec (Store.afterAll [])).1.toOption.map
    (Option.map Match.stop) = some (some 3) := by cbv

end Sample

end TextGrammar
