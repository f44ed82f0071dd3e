import TextGrammar.Proofs.AlignedSteps

/-! What holds of a store after any history of commands. Grammars that are made in the course of a
session are put together from what the commands were. -/

namespace TextGrammar
open TextGrammar.Action

variable {α β : Type} {parts : Parts}

namespace Alignment
variable {text : Text} {within : Int → Prop} {kept : List Event → Prop}

/-- A run never gives up before itself. -/
theorem solo_runs (lawful : (solo parts text within kept).Lawful) (fuel : Nat) :
    (solo parts text within kept).Runs (Rule.run fuel) (Rule.run fuel) :=
  lawful.run (guards_of_none rfl) (fun _ _ => guards_of_none rfl)
    (fun _ _ _ _ gives => gives.choose_spec.elim) fuel

end Alignment

namespace Alignment

/-- A single run of which only the parts of its grammars matter. -/
abbrev loose (parts : Parts) (text : Text) : Alignment :=
  solo parts text (fun _ => True) fun _ => True

theorem loose_lawful (complete : parts.Complete) (text : Text) : (loose parts text).Lawful :=
  solo_lawful complete (fun _ _ _ => trivial) (fun _ _ => trivial) fun _ _ _ => id

end Alignment

/-- An action that puts nothing but the given parts into a store, and what is known of its answer. -/
def Action.Upholds (parts : Parts) (property : α → Prop) (action : Action α) : Prop :=
  ∀ store : Store, store.BuiltFrom parts → (action.exec store).2.BuiltFrom parts ∧
    ∀ answer, (action.exec store).1 = .ok answer → property answer

namespace Action.Upholds
variable {property : α → Prop} {result : β → Prop}

theorem of_aligned {text : Text} {answers : α → α → Prop} {action : Action α}
    (aligned : (Alignment.loose parts text).Aligned answers action action) :
    action.Upholds parts fun answer => answers answer answer :=
  fun _ stored =>
    have ends := Alignment.solo_keeps aligned stored trivial
    ⟨ends.1, ends.2.2⟩

theorem of_makes {text : Text} {action : Action α}
    (makes : (Alignment.loose parts text).Makes property action) : action.Upholds parts property :=
  fun store stored =>
    have ends := of_aligned makes.aligned store stored
    ⟨ends.1, fun answer answered => (ends.2 answer answered).2⟩

theorem pure {answer : α} (holds : property answer) :
    (Pure.pure answer : Action α).Upholds parts property := by
  refine fun store stored => ⟨stored, ?_⟩
  rintro _ ⟨⟩
  exact holds

theorem bind {action : Action α} {next : α → Action β} (first : action.Upholds parts property)
    (rest : ∀ answer, property answer → (next answer).Upholds parts result) :
    (action >>= next).Upholds parts result := by
  intro store stored
  have before := first store stored
  rw [exec_bind]
  rcases ended : action.exec store with ⟨_ | answer, after⟩ <;> rw [ended] at before
  · exact ⟨before.1, by simp⟩
  · exact rest answer (before.2 answer rfl) after before.1

theorem andThen {action : Action α} {next : α → Action β}
    (first : action.Upholds parts property) (rest : ∀ answer, (next answer).Upholds parts result) :
    (action >>= next).Upholds parts result :=
  first.bind fun answer _ => rest answer

theorem map {action : Action α} (first : action.Upholds parts property) (change : α → β) :
    (change <$> action).Upholds parts fun _ => True := by
  rw [map_eq_pure_bind]
  exact first.andThen fun _ => .pure trivial

/-- Only variables and cells count. -/
theorem changing {change : Store → Store}
    (built : ∀ store : Store, store.BuiltFrom parts → (change store).BuiltFrom parts) :
    (modify change : Action PUnit).Upholds parts fun _ => True :=
  fun store stored => ⟨built store stored, fun _ _ => trivial⟩

theorem ofExcept (outcome : Except Fault α) :
    (Action.ofExcept outcome).Upholds parts fun _ => True :=
  fun _ stored => by cases outcome <;> exact ⟨stored, fun _ _ => trivial⟩

theorem fail (fault : Fault) : (Action.fail fault : Action α).Upholds parts fun _ => True :=
  fun _ stored => ⟨stored, fun _ _ => trivial⟩

theorem get : (MonadState.get : Action Store).Upholds parts fun _ => True :=
  fun _ stored => ⟨stored, fun _ _ => trivial⟩

theorem nameOf (grammar : Grammar) : (Action.nameOf grammar).Upholds parts fun _ => True :=
  fun _ stored => ⟨stored, fun _ _ => trivial⟩

end Action.Upholds

section Operations
variable (complete : parts.Complete)
include complete

theorem Session.evaluate_upholds {expression : Expression} (built : expression.BuiltFrom parts) :
    (Session.evaluate expression).Upholds parts (Operand.BuiltFrom parts) :=
  .of_makes ((Alignment.loose_lawful complete #[]).makes_evaluate [] expression built)

namespace Operand
variable {operand : Operand} (built : operand.BuiltFrom parts)
include built

theorem asGrammar_upholds (member : String) :
    (operand.asGrammar member).Upholds parts (·.rule.BuiltFrom parts) :=
  .of_makes ((Alignment.loose_lawful complete #[]).makes_asGrammar member built)

omit complete built in
theorem describe_upholds (operand : Operand) : operand.describe.Upholds parts fun _ => True := by
  cases operand with
  | raw value => exact .pure trivial
  | grammar made => exact (Action.Upholds.nameOf made).andThen fun _ => .pure trivial

omit built in
theorem owning_upholds {rule : Rule} (built : rule.BuiltFrom parts) (text : Text) (start : Int) :
    (sessionRunner.owning rule text start).Upholds parts fun _ => True := by
  have lawful := Alignment.loose_lawful complete text
  have runs := Alignment.solo_runs lawful ampleFuel
  have owns : (Alignment.loose parts text).Aligned (Alignment.loose parts text).Outcomes
      (sessionRunner.owning rule text start) (sessionRunner.owning rule text start) :=
    lawful.owning (runs.aligned built ⟨rfl, trivial⟩)
  exact fun store stored => ⟨(Action.Upholds.of_aligned owns store stored).1, fun _ _ => trivial⟩

theorem matchPrefix_upholds (text : Text) (start : Int) :
    (operand.matchPrefix text start).Upholds parts fun _ => True :=
  (asGrammar_upholds complete built _).bind fun _ made => (Action.Upholds.ofExcept _).andThen fun _ =>
    owning_upholds complete made text start

theorem runAt_upholds (text : Text) (start : Int) :
    (operand.runAt text start).Upholds parts fun _ => True :=
  (asGrammar_upholds complete built _).bind fun _ made => owning_upholds complete made text start

omit built in
theorem runWhole_upholds {grammar : Grammar} (built : grammar.rule.BuiltFrom parts) (text : Text) :
    (sessionRunner.runWhole grammar text).Upholds parts fun _ => True := by
  refine (owning_upholds complete built text 0).andThen fun outcome => ?_
  cases outcome with
  | none => exact .pure trivial
  | some found => exact (Action.Upholds.ofExcept _).andThen fun _ => .pure trivial

theorem matchesAll_upholds (text : Text) : (operand.matchesAll text).Upholds parts fun _ => True :=
  (asGrammar_upholds complete built _).bind fun _ made =>
    (runWhole_upholds complete made text).andThen fun _ => .pure trivial

theorem asParser_upholds (member : String) :
    (operand.asParser member).Upholds parts (·.rule.BuiltFrom parts) := by
  refine (asGrammar_upholds complete built member).bind fun grammar made => ?_
  split
  · exact .pure made
  · exact fun store stored => ⟨stored, by simp⟩

theorem parse_upholds (text : Text) : (operand.parse text).Upholds parts fun _ => True := by
  refine (asParser_upholds complete built _).bind fun grammar made =>
    (runWhole_upholds complete made text).andThen fun outcome => ?_
  split <;> exact .pure trivial

theorem parseOrFail_upholds (text : Text) :
    (operand.parseOrFail text).Upholds parts fun _ => True := by
  refine (asParser_upholds complete built _).bind fun grammar made =>
    (runWhole_upholds complete made text).andThen fun outcome => ?_
  split
  · exact (Action.Upholds.nameOf grammar).andThen fun _ => .fail _
  · exact .pure trivial
  · exact (Action.Upholds.nameOf grammar).andThen fun _ => .fail _

end Operand

theorem Command.perform_upholds {command : Command} (built : command.BuiltFrom parts) :
    command.perform.Upholds parts fun _ => True := by
  have evaluates {subject : Expression} (built : subject.BuiltFrom parts) :=
    Session.evaluate_upholds complete built
  cases command with
  | setVerbose verbose =>
    refine Action.Upholds.andThen (.changing fun _ stored => ?_) fun _ => .pure trivial
    exact ⟨stored.assigned, stored.cells⟩
  | assign name subject =>
    refine Action.Upholds.map ((evaluates built).bind fun operand made =>
      Action.Upholds.andThen (.changing fun _ stored => ?_) fun _ => operand.describe_upholds) _
    exact stored.assign name made
  | forget name =>
    refine Action.Upholds.andThen (.changing fun _ stored => ?_) fun _ => .pure trivial
    exact stored.forget name
  | describe subject =>
    exact (evaluates built).andThen fun operand =>
      (operand.describe_upholds).andThen fun _ => .pure trivial
  | tally label =>
    have counts : (Session.tally label).Upholds parts fun _ => True :=
      Action.Upholds.get.andThen fun _ => .pure trivial
    exact counts.map _
  | matchPrefix subject text start =>
    exact (evaluates built).bind fun operand made =>
      (operand.matchPrefix_upholds complete made text start).andThen fun _ => .pure trivial
  | runAt subject text start =>
    exact (evaluates built).bind fun operand made =>
      (operand.runAt_upholds complete made text start).andThen fun _ => .pure trivial
  | matchesAll subject text =>
    exact (evaluates built).bind fun operand made =>
      (operand.matchesAll_upholds complete made text).andThen fun _ => .pure trivial
  | parse subject text =>
    exact (evaluates built).bind fun operand made =>
      (operand.parse_upholds complete made text).andThen fun _ => .pure trivial
  | parseOrFail subject text =>
    exact (evaluates built).bind fun operand made =>
      (operand.parseOrFail_upholds complete made text).andThen fun _ => .pure trivial

/-- The store that a history of commands leaves behind. -/
def Store.afterAll (commands : List Command) : Store :=
  ((Command.performAll commands).run Store.initial).2

/-- After any history of commands a store holds nothing but what they were put together from. -/
theorem Command.performAll_builtFrom {commands : List Command}
    (built : ∀ command ∈ commands, command.BuiltFrom parts) {store : Store}
    (stored : store.BuiltFrom parts) :
    ((performAll commands).run store).2.BuiltFrom parts := by
  induction commands generalizing store with
  | nil => exact stored
  | cons command rest ih =>
    rw [performAll_cons]
    have held := (perform_upholds complete (built command (by simp)) store stored).1
    exact ih (fun other member => built other (by simp [member])) ⟨held.assigned, held.cells⟩

omit complete in
/-- Every command starts with an empty trace. -/
theorem Command.performAll_trace {commands : List Command} {store : Store}
    (empty : store.trace = []) : ((performAll commands).run store).2.trace = [] := by
  induction commands generalizing store with
  | nil => exact empty
  | cons command rest ih =>
    rw [performAll_cons]
    exact ih rfl

theorem Store.afterAll_builtFrom {commands : List Command}
    (built : ∀ command ∈ commands, command.BuiltFrom parts) : (afterAll commands).BuiltFrom parts :=
  Command.performAll_builtFrom complete built initial_builtFrom

end Operations

theorem Store.afterAll_append (first second : List Command) :
    afterAll (first ++ second) = ((Command.performAll second).run (afterAll first)).2 :=
  Command.performAll_append first second .initial

theorem Store.afterAll_trace (commands : List Command) : (afterAll commands).trace = [] :=
  Command.performAll_trace rfl

namespace Session

/-- Matches a part of a text that begins at an offset, with a limit on the nesting of rules. -/
def matching (fuel : Nat) (subject : Expression) (text : Text) (start : Int) :
    Action (Option Match) := do
  Runner.matchFrom (Rule.run fuel) (← evaluate subject) text start

theorem matching_keeps {text : Text} {within : Int → Prop} {kept : List Event → Prop}
    (lawful : (Alignment.solo parts text within kept).Lawful) {subject : Expression}
    (built : subject.BuiltFrom parts) (fuel : Nat) {start : Int} (begins : within start)
    {store : Store} (stored : store.BuiltFrom parts) (holds : kept store.trace) :
    kept ((matching fuel subject text start).exec store).2.trace ∧
      ∀ found, ((matching fuel subject text start).exec store).1 = .ok (some found) →
        within found.stop := by
  have evaluates := lawful.makes_evaluate [] subject built
  have aligned : (Alignment.solo parts text within kept).Aligned
      (Alignment.solo parts text within kept).Outcomes (matching fuel subject text start)
      (matching fuel subject text start) :=
    evaluates.thenAligned fun operand made =>
      lawful.matchFrom (Alignment.solo_runs lawful fuel) made rfl ⟨rfl, begins⟩
  have ended := Alignment.solo_keeps aligned stored holds
  refine ⟨ended.2.1, fun found answered => ?_⟩
  cases ended.2.2 _ answered with
  | some same => exact same.stop.2

end Session

end TextGrammar
