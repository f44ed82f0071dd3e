import TextGrammar.Proofs.JsonNumbers

/-! Integers with an optional sign. They take all the digits there are, so that there is one reading
of each text, whatever follows an integer. -/

namespace TextGrammar

/-- A rule whose readings a relation tells. -/
def Rule.Tells (spec : List Char → Reading → Prop) (rule : Rule) : Prop :=
  ∀ (setting : Setting) (rest : List Char), rest <:+ setting.text.toList →
    ∃ reading, setting.Reads rule rest reading ∧ spec rest reading

namespace Sample
open Json

variable {scope : Scope} {known : Trial → Nat → Prop} {slack : Nat} {rest after token : List Char}
  {reading : Reading}

/-- The text of an integer. -/
def tokenForm : Form := signForm.followedBy digitsForm

theorem tokenForm_denotes {value : Option Value} :
    tokenForm.denotes token value ↔ Integer token ∧ value = none := by
  constructor
  · rintro ⟨sign, digits, _, _, rfl, signed, digital, rfl⟩
    obtain ⟨signs, -⟩ := signForm_denotes.mp signed
    obtain ⟨decimal, none⟩ := digitsForm_denotes.mp digital
    exact ⟨.of signs decimal, none⟩
  · rintro ⟨@⟨sign, digits, signs, decimal⟩, rfl⟩
    exact ⟨sign, digits, none, none, rfl, signForm_denotes.mpr ⟨signs, rfl⟩,
      digitsForm_denotes.mpr ⟨decimal, rfl⟩, rfl⟩

theorem token_recognises :
    (Expression.optional (.literal "-") + digits).Recognises scope known slack tokenForm := by
  have digital : digits.Recognises scope known slack digitsForm := .constant scope known slack rfl
  have minus : (Expression.literal "-").Recognises scope known slack (.word "-") :=
    .literal scope known slack (by simp)
  exact (minus.optional rfl).sum digital signForm_meets

/-- An integer goes on as far as there are digits. -/
theorem integer_extends (integer : Integer token) (after : List Char) :
    ∃ more later, after = more ++ later ∧ Integer (token ++ more) ∧ digitsForm.ends later := by
  obtain @⟨sign, digits, signs, some, decimal⟩ := integer
  refine ⟨after.takeWhile Character.isDecimal, after.dropWhile Character.isDecimal,
    List.takeWhile_append_dropWhile.symm, ?_, Form.ends_dropWhile _ _⟩
  rw [List.append_assoc]
  refine .of signs ⟨by simp [some], fun character member => ?_⟩
  obtain member | member := List.mem_append.mp member
  · exact decimal character member
  · exact List.mem_takeWhile_imp member

/-- What is read where an integer may stand. -/
inductive IntegerRead : List Char → Reading → Prop
  | token {token after : List Char} : Integer token → digitsForm.ends after →
      IntegerRead (token ++ after) ((Value.ofNumeral 10 (String.ofList token)).map fun number =>
        some (some (.int number), after))
  | nothing {rest : List Char} : (∀ token after, Integer token → rest ≠ token ++ after) →
      IntegerRead rest (.ok none)

/-- The text of an integer is read as far as it goes. -/
theorem token_read (explains : (tokenForm.worth fun body => .str (String.ofList body)).Explains
      (fun _ => False) rest reading) :
    (∃ token after, rest = token ++ after ∧ Integer token ∧ digitsForm.ends after ∧
      reading = .ok (some (some (.str (String.ofList token)), after))) ∨
      ((∀ token after, Integer token → rest ≠ token ++ after) ∧ reading = .ok none) := by
  have denotes {token : List Char} (integer : Integer token) :
      (tokenForm.worth fun body => .str (String.ofList body)).denotes token
        (some (.str (String.ofList token))) :=
    ⟨⟨none, tokenForm_denotes.mpr ⟨integer, rfl⟩⟩, rfl⟩
  by_cases stands : ∃ token after, Integer token ∧ rest = token ++ after
  · obtain ⟨token, after, integer, rfl⟩ := stands
    obtain ⟨more, later, rfl, longest, ends⟩ := integer_extends integer after
    refine .inl ⟨token ++ more, later, (List.append_assoc _ _ _).symm, longest, ends, ?_⟩
    exact explains.complete (List.append_assoc _ _ _).symm ends (denotes longest)
  · push Not at stands
    refine .inr ⟨stands, ?_⟩
    rcases reading with fault | _ | ⟨value, after⟩
    · exact (explains.faults rfl).elim
    · rfl
    · obtain ⟨token, parted, ⟨inner, denotes⟩, -⟩ := explains.sound rfl
      exact absurd parted (stands token after (tokenForm_denotes.mp denotes).1)

theorem integer_makes : integer.Makes scope .parser (Rule.Tells IntegerRead) := by
  have token : (Expression.optional (.literal "-") + digits).Recognises scope (fun _ _ => True) 0
      tokenForm := token_recognises
  apply token.captured.makes.shifted
  intro rule decides tag traced setting rest inside
  obtain ⟨reading, reads, explains⟩ :=
    decides ⟨setting, fun _ => False⟩ (rest.length + 1) trivial rest (Nat.lt_succ_self _) inside
  obtain ⟨token, after, rfl, integer, ends, rfl⟩ | ⟨nowhere, rfl⟩ := token_read explains
  · refine ⟨_, reads.map.object tag traced, ?_⟩
    have read := IntegerRead.token integer ends
    rw [Value.toInteger]
    cases given : Value.ofNumeral 10 (String.ofList token) with
    | error fault =>
      rw [given] at read
      exact read
    | ok number =>
      rw [given] at read
      exact read
  · exact ⟨_, (reads.map_none _).object tag traced, .nothing nowhere⟩

/-- An integer, as a value. -/
def integerForm : Form where
  kind := .parser
  denotes body value := ∃ number, Integer body ∧ Value.ofNumeral 10 (String.ofList body) = .ok number ∧
    value = some (.int number)
  empty := none
  begins rest := ∃ first ∈ rest.head?, first = '-' ∨ Character.isDecimal first
  ends := digitsForm.ends

theorem integer_begins (integer : Integer token) (after : List Char) :
    token ≠ [] ∧ integerForm.begins (token ++ after) := by
  obtain @⟨sign, digits, signs, some, decimal⟩ := integer
  refine ⟨by simp [some], ?_⟩
  obtain rfl | rfl := signs
  · cases digits with
    | nil => exact absurd rfl some
    | cons first digits => exact ⟨first, rfl, .inr (decimal first (by simp))⟩
  · exact ⟨'-', rfl, .inl rfl⟩

theorem integerForm_lawful : integerForm.Lawful where
  starts := by
    rintro body _ ⟨number, integer, -, rfl⟩
    exact .inr ⟨(integer_begins integer []).1, fun after => (integer_begins integer after).2⟩
  suits := by
    rintro body _ ⟨number, -, -, rfl⟩ -
    rfl

/-- Two integers that are followed by no digits are the same if they stand at the same place. -/
theorem integer_unique {other later : List Char} (first : Integer token) (second : Integer other)
    (ends : digitsForm.ends after) (ended : digitsForm.ends later) (same : token ++ after = other ++ later) :
    token = other ∧ after = later := by
  have behind {sign digits after : List Char} (signs : Sign sign) (decimal : Digits digits)
      (ends : digitsForm.ends after) :
      ((sign ++ digits ++ after).dropWhile (· == '-')).dropWhile Character.isDecimal = after := by
    rw [List.append_assoc, dropWhile_sign signs (decimal.head after)]
    exact Form.dropWhile_of_ends decimal.2 ends
  obtain @⟨sign, digits, signs, decimal⟩ := first
  obtain @⟨mark, figures, marks, figured⟩ := second
  have rests : after = later := by
    rw [← behind signs decimal ends, same, behind marks figured ended]
  subst rests
  exact ⟨List.append_cancel_right same, rfl⟩

theorem IntegerRead.unique {other : Reading} (one : IntegerRead rest reading)
    (two : IntegerRead rest other) : reading = other := by
  generalize same : rest = place at two
  cases one with
  | token integer ends =>
    cases two with
    | token integer' ends' =>
      obtain ⟨rfl, rfl⟩ := integer_unique integer integer' ends ends' same
      rfl
    | nothing nowhere => exact absurd same.symm (nowhere _ _ integer)
  | nothing nowhere =>
    cases two with
    | token integer ends => exact absurd same (nowhere _ _ integer)
    | nothing => rfl

theorem IntegerRead.found {value : Option Value} (read : IntegerRead rest (.ok (some (value, after)))) :
    ∃ token number, Integer token ∧ rest = token ++ after ∧ digitsForm.ends after ∧
      Value.ofNumeral 10 (String.ofList token) = .ok number ∧ value = some (.int number) := by
  generalize same : Except.ok (some (value, after)) = reading at read
  cases read with
  | @token token _ integer ends =>
    cases given : Value.ofNumeral 10 (String.ofList token) with
    | error fault =>
      rw [given] at same
      cases same
    | ok number =>
      rw [given] at same
      cases same
      exact ⟨token, number, integer, rfl, ends, given, rfl⟩
  | nothing => cases same

theorem IntegerRead.failed {fault : Fault} (read : IntegerRead rest (.error fault)) :
    ∃ token, token <+: rest ∧ Integer token ∧ Value.ofNumeral 10 (String.ofList token) = .error fault := by
  generalize same : Except.error fault = reading at read
  cases read with
  | @token token after integer ends =>
    cases given : Value.ofNumeral 10 (String.ofList token) with
    | error other =>
      rw [given] at same
      cases same
      exact ⟨token, List.prefix_append _ _, integer, given⟩
    | ok number =>
      rw [given] at same
      cases same
  | nothing => cases same

/-- What is read goes by the form of integers, where only numerals that are too long are blamed. -/
theorem IntegerRead.explains {blamed : Fault → Prop} (read : IntegerRead rest reading)
    (blames : ∀ {token fault}, token <+: rest → Integer token →
      Value.ofNumeral 10 (String.ofList token) = .error fault → blamed fault) :
    integerForm.Explains blamed rest reading where
  complete parted follows denotes := by
    obtain ⟨number, integer, given, rfl⟩ := denotes
    have here := IntegerRead.token integer follows
    rw [← parted, given] at here
    exact read.unique here
  sound is := by
    rw [is] at read
    obtain ⟨token, number, integer, rfl, -, given, rfl⟩ := read.found
    exact ⟨token, rfl, number, integer, given, rfl⟩
  otherwise absent := by
    cases read with
    | token integer ends => exact absurd (integer_begins integer _).2 absent
    | nothing => rfl
  faults is := by
    rw [is] at read
    obtain ⟨token, part, integer, given⟩ := read.failed
    exact blames part integer given

theorem integer_recognises (blames : ∀ {trial bound}, known trial bound → Blames trial) :
    integer.Recognises scope known slack integerForm where
  lawful := integerForm_lawful
  makes := by
    apply integer_makes.imp
    intro rule tells trial bound knowing rest short inside
    obtain ⟨reading, reads, read⟩ := tells trial.toSetting rest inside
    refine ⟨reading, reads, read.explains fun part integer failed => ?_⟩
    exact blames knowing (part.isInfix.trans inside.isInfix) integer failed

end Sample

end TextGrammar
