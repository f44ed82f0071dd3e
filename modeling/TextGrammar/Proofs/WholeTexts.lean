import TextGrammar.Proofs.Histories
import TextGrammar.Proofs.Recognition

/-! What sessions come to where it is known what a grammar reads. A run on a whole text yields the
value that is read if nothing is left, and a run from an offset the match that is read there. -/

namespace TextGrammar
open TextGrammar.Action

namespace Session

/-- Parses a whole text, with a limit on the nesting of rules. -/
def parsing (fuel : Nat) (subject : Expression) (text : Text) : Action Value := do
  Runner.parseOrFail (Rule.run fuel) (← evaluate subject) text

/-- The same, with null for a text that does not match. -/
def parsingOrNull (fuel : Nat) (subject : Expression) (text : Text) : Action Value := do
  Runner.parse (Rule.run fuel) (← evaluate subject) text

/-- Whether a grammar matches a whole text. -/
def deciding (fuel : Nat) (subject : Expression) (text : Text) : Action Bool := do
  Runner.matchesAll (Rule.run fuel) (← evaluate subject) text

end Session

namespace Runner
variable {runner : Runner} {made : Grammar} {text : Text} {store next : Store}

theorem exec_owning {outcome : Except Halt (Option Match)} {rule : Rule} {start : Int}
    (run : (runner rule text start).exec { store with running := rule :: store.running } =
      (outcome, next)) :
    (runner.owning rule text start).exec store = (outcome, { next with running := next.running.tail }) := by
  rw [owning, exec_bind_ok (exec_modify _ store), exec_ensuring, run]

theorem exec_asParser (kind : made.kind = .parser) (member : String) (store : Store) :
    (Operand.asParser member (.grammar made)).exec store = (.ok made, store) := by
  rw [Operand.asParser, Operand.asGrammar, exec_bind_ok (exec_pure made store), kind]
  rfl

section Parser
variable (kind : made.kind = .parser)
include kind

theorem parseOrFail_halt {halt : Halt}
    (run : (runner made.rule text 0).exec { store with running := made.rule :: store.running } =
      (.error halt, next)) :
    ((runner.parseOrFail (.grammar made) text).exec store).1 = .error halt := by
  have whole : (runner.runWhole made text).exec store = (.error halt, _) :=
    exec_bind_error (exec_owning run)
  rw [parseOrFail, exec_bind_ok (exec_asParser kind _ store), exec_bind_error whole]

theorem parseOrFail_none
    (run : (runner made.rule text 0).exec { store with running := made.rule :: store.running } =
      (.ok none, next)) :
    ∃ name, ((runner.parseOrFail (.grammar made) text).exec store).1 =
      .error (.fault (.notMatched name)) := by
  have whole : (runner.runWhole made text).exec store = (.ok none, _) := exec_bind_ok (exec_owning run)
  rw [parseOrFail, exec_bind_ok (exec_asParser kind _ store), exec_bind_ok whole]
  exact ⟨_, rfl⟩

theorem exec_runWhole {value : Value} {stop : Int}
    (run : (runner made.rule text 0).exec { store with running := made.rule :: store.running } =
      (.ok (some ⟨some value, stop⟩), next)) :
    (runner.runWhole made text).exec store =
      (.ok (some (⟨some value, stop⟩, stop == text.size)), { next with running := next.running.tail }) := by
  rw [runWhole, exec_bind_ok (exec_owning run)]
  simp only [kind]
  rfl

theorem parseOrFail_whole {value : Value}
    (run : (runner made.rule text 0).exec { store with running := made.rule :: store.running } =
      (.ok (some ⟨some value, text.size⟩), next)) :
    ((runner.parseOrFail (.grammar made) text).exec store).1 = .ok value := by
  have whole := exec_runWhole kind run
  rw [beq_self_eq_true] at whole
  rw [parseOrFail, exec_bind_ok (exec_asParser kind _ store), exec_bind_ok whole]
  rfl

theorem parseOrFail_part {value : Value} {stop : Int} (short : stop ≠ text.size)
    (run : (runner made.rule text 0).exec { store with running := made.rule :: store.running } =
      (.ok (some ⟨some value, stop⟩), next)) :
    ∃ name, ((runner.parseOrFail (.grammar made) text).exec store).1 =
      .error (.fault (.partlyMatched name stop text.size)) := by
  have whole := exec_runWhole kind run
  rw [beq_false_of_ne short] at whole
  rw [parseOrFail, exec_bind_ok (exec_asParser kind _ store), exec_bind_ok whole]
  exact ⟨_, rfl⟩

theorem parse_halt {halt : Halt}
    (run : (runner made.rule text 0).exec { store with running := made.rule :: store.running } =
      (.error halt, next)) :
    ((runner.parse (.grammar made) text).exec store).1 = .error halt := by
  have whole : (runner.runWhole made text).exec store = (.error halt, _) :=
    exec_bind_error (exec_owning run)
  rw [parse, exec_bind_ok (exec_asParser kind _ store), exec_bind_error whole]

theorem parse_none
    (run : (runner made.rule text 0).exec { store with running := made.rule :: store.running } =
      (.ok none, next)) :
    ((runner.parse (.grammar made) text).exec store).1 = .ok .null := by
  have whole : (runner.runWhole made text).exec store = (.ok none, _) := exec_bind_ok (exec_owning run)
  rw [parse, exec_bind_ok (exec_asParser kind _ store), exec_bind_ok whole]
  rfl

theorem parse_some {value : Value} {stop : Int}
    (run : (runner made.rule text 0).exec { store with running := made.rule :: store.running } =
      (.ok (some ⟨some value, stop⟩), next)) :
    ((runner.parse (.grammar made) text).exec store).1 = .ok (if stop = text.size then value else .null) := by
  have whole := exec_runWhole kind run
  rw [parse, exec_bind_ok (exec_asParser kind _ store), exec_bind_ok whole]
  by_cases ends : stop = text.size
  · rw [if_pos ends, ends, beq_self_eq_true]
    rfl
  · rw [if_neg ends, beq_false_of_ne ends]
    rfl

end Parser

end Runner

/-- The value that is read where nothing may be left, or null. -/
def Reading.whole (reading : Reading) : Except Fault Value :=
  reading.map fun
    | some (value, []) => value.getD .null
    | _ => .null

theorem Text.offsetOf_toList (text : Text) : text.offsetOf text.toList = 0 := by
  simp [offsetOf]

/-- The characters that are left behind an offset. -/
theorem Text.exists_offsetOf {text : Text} {start : Int} (valid : 0 ≤ start) (inside : start ≤ text.size) :
    ∃ rest, rest <:+ text.toList ∧ text.offsetOf rest = start := by
  refine ⟨text.toList.drop start.toNat, List.drop_suffix _ _, ?_⟩
  rw [offsetOf, List.length_drop, Array.length_toList]
  omega

namespace Setting.Reads
variable {setting : Setting} {made : Grammar} (store : Store) {reading : Reading} {rest : List Char}
  (holds : ∀ running, setting.moment.holds { store with running })
include holds

/-- A session parses what the grammar reads of the whole text. -/
theorem parse (reads : setting.Reads made.rule setting.text.toList reading) (kind : made.kind = .parser)
    (suits : ∀ found, reading = .ok (some found) → found.1.isSome) :
    ∃ enough, ∀ fuel, enough ≤ fuel →
      ((Runner.parse (Rule.run fuel) (.grammar made) setting.text).exec store).1 =
        reading.whole.mapError .fault := by
  obtain ⟨enough, settles⟩ := reads
  refine ⟨enough, fun fuel least => ?_⟩
  obtain ⟨next, run, -⟩ := settles fuel least _ (holds (made.rule :: store.running))
  simp only [setting.text.offsetOf_toList] at run
  rcases reading with fault | _ | ⟨value, after⟩
  · exact Runner.parse_halt kind run
  · exact Runner.parse_none kind run
  · obtain ⟨value, rfl⟩ := Option.isSome_iff_exists.mp (suits _ rfl)
    rw [Runner.parse_some kind run]
    cases after with
    | nil => exact congrArg Except.ok (if_pos setting.text.offsetOf_nil)
    | cons first tail =>
      exact congrArg Except.ok (if_neg (mt Text.offsetOf_eq_size.mp (List.cons_ne_nil first tail)))

/-- A session matches what the grammar reads from an offset on. -/
theorem matchFrom (reads : setting.Reads made.rule rest reading) (inside : rest <:+ setting.text.toList) :
    ∃ enough, ∀ fuel, enough ≤ fuel →
      ((Runner.matchFrom (Rule.run fuel) (.grammar made) setting.text (setting.text.offsetOf rest)).exec
        store).1 = setting.outcomeOf reading := by
  obtain ⟨enough, settles⟩ := reads
  refine ⟨enough, fun fuel least => ?_⟩
  obtain ⟨next, run, -⟩ := settles fuel least _ (holds (made.rule :: store.running))
  have valid : setting.text.checkOffset (setting.text.offsetOf rest) = .ok () := by
    have short : rest.length ≤ setting.text.size := inside.length_le
    rw [Text.checkOffset, Text.offsetOf, if_pos ⟨by omega, by omega⟩]
  rw [Runner.matchFrom, Operand.asGrammar, exec_bind_ok (exec_pure made store), valid,
    exec_bind_ok (exec_ofExcept_ok () store), Runner.exec_owning run]

end Setting.Reads

/-- Any moment of a session. -/
def Moment.any : Moment where
  holds _ := True
  moves _ _ := True
  traced _ _ := trivial
  kept _ _ := trivial
  trans _ _ := trivial

section Explained
variable {form : Form} {blamed : Fault → Prop} {reading : Reading}

/-- What a parser reads of a whole text is what its form makes of it, and where that is nothing, null. -/
theorem Form.Explains.whole {rest : List Char} {value : Value} (explains : form.Explains blamed rest reading)
    (ends : form.ends []) (present : value ≠ .null) :
    reading.whole = .ok value ↔ form.denotes rest (some value) := by
  constructor
  · intro is
    rcases reading with fault | _ | ⟨found, _ | ⟨first, tail⟩⟩
    · cases is
    · cases is
      exact absurd rfl present
    · cases found with
      | none =>
        cases is
        exact absurd rfl present
      | some given =>
        cases is
        obtain ⟨body, rfl, denotes⟩ := explains.sound rfl
        rw [List.append_nil]
        exact denotes
    · cases is
      exact absurd rfl present
  · intro denotes
    rw [explains.complete (List.append_nil _).symm ends denotes]
    rfl

theorem Form.Explains.whole_fault {rest : List Char} {fault : Fault}
    (explains : form.Explains blamed rest reading) (failed : reading.whole = .error fault) : blamed fault := by
  rcases reading with other | _ | ⟨found, _ | ⟨first, tail⟩⟩
  · cases failed
    exact explains.faults rfl
  all_goals cases failed

end Explained

/-- An expression for a parser that reads, where it is made, what a relation tells. -/
def Expression.Parses (subject : Expression) (text : Text) (store : Store)
    (spec : List Char → Reading → Prop) : Prop :=
  ∃ (made : Grammar) (next : Store) (moment : Moment),
    (subject.evaluate []).exec store = (.ok (.grammar made), next) ∧ made.kind = .parser ∧
    (∀ running, moment.holds { next with running }) ∧
    ∀ rest, rest <:+ text.toList → ∃ reading, (⟨text, moment⟩ : Setting).Reads made.rule rest reading ∧
      (∀ found, reading = .ok (some found) → found.1.isSome) ∧ spec rest reading

namespace Expression.Parses
variable {subject : Expression} {text : Text} {store : Store} {spec : List Char → Reading → Prop}
  (parses : subject.Parses text store spec)
include parses

theorem parsingOrNull : ∃ reading, spec text.toList reading ∧ ∃ enough, ∀ fuel, enough ≤ fuel →
    ((Session.parsingOrNull fuel subject text).exec store).1 = reading.whole.mapError .fault := by
  obtain ⟨made, next, moment, evaluated, kind, holds, reads⟩ := parses
  obtain ⟨reading, reads, suits, told⟩ := reads text.toList (List.suffix_refl _)
  obtain ⟨enough, parsed⟩ := Setting.Reads.parse next holds reads kind suits
  refine ⟨reading, told, enough, fun fuel least => ?_⟩
  rw [Session.parsingOrNull, Session.evaluate, exec_bind_ok evaluated, parsed fuel least]

theorem matching {rest : List Char} (inside : rest <:+ text.toList) :
    ∃ reading, spec rest reading ∧ ∃ enough, ∀ fuel, enough ≤ fuel →
      ((Session.matching fuel subject text (text.offsetOf rest)).exec store).1 =
        (reading.map (Option.map text.matchOf)).mapError .fault := by
  obtain ⟨made, next, moment, evaluated, kind, holds, reads⟩ := parses
  obtain ⟨reading, reads, -, told⟩ := reads rest inside
  obtain ⟨enough, matched⟩ := Setting.Reads.matchFrom next holds reads inside
  refine ⟨reading, told, enough, fun fuel least => ?_⟩
  rw [Session.matching, Session.evaluate, exec_bind_ok evaluated, matched fuel least]
  rfl

end Expression.Parses

/-- A grammar that does not depend on other ones reads the same at any moment. -/
theorem Expression.Makes.parses {subject : Expression} {property : Rule → Prop} {text : Text}
    {spec : List Char → Reading → Prop} (makes : subject.Makes [] .parser property)
    (reads : ∀ {rule}, property rule → ∀ rest, rest <:+ text.toList →
      ∃ reading, (⟨text, .any⟩ : Setting).Reads rule rest reading ∧
        (∀ found, reading = .ok (some found) → found.1.isSome) ∧ spec rest reading) (store : Store) :
    subject.Parses text store spec := by
  obtain ⟨_, named, ⟨made, rfl, is⟩, evaluates⟩ := makes store.verbose store.names
  exact ⟨made, _, .any, evaluates store rfl rfl, is.kind, fun _ => trivial, reads is.rule⟩

theorem Expression.Recognises.parses {known : Trial → Nat → Prop} {slack : Nat} {form : Form}
    {blamed : Fault → Prop} {subject : Expression} (recognises : subject.Recognises [] known slack form)
    (kind : form.kind = .parser) (text : Text) (knowing : known ⟨⟨text, .any⟩, blamed⟩ (text.size + 1))
    (store : Store) : subject.Parses text store (form.Explains blamed) := by
  have makes := recognises.makes
  rw [kind] at makes
  refine makes.parses (fun decides rest inside => ?_) store
  have short : rest.length < text.size + 1 + slack := by
    have le : rest.length ≤ text.size := inside.length_le
    omega
  obtain ⟨reading, reads, explains⟩ := decides _ _ knowing rest short inside
  refine ⟨reading, reads, fun found is => ?_, explains⟩
  obtain ⟨body, -, denotes⟩ := explains.sound is
  exact recognises.lawful.suits denotes kind

end TextGrammar
