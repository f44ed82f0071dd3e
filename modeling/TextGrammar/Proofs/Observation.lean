import Mathlib
import TextGrammar.Proofs.GuisedRuns
import TextGrammar.Proofs.Histories
import TextGrammar.Sample.Brackets

/-! What a caller observes of a session that is logged, or in which grammars are renamed: the same
answers, and the same faults, which may tell other names. -/

namespace TextGrammar
open TextGrammar.Action

namespace Command

/-- Whether a command makes the log verbose or quiet. -/
def isSwitch : Command → Bool
  | .setVerbose _ => true
  | _ => false

/-- What comes of those commands that are asked for. -/
def outcomes (asked : Command → Bool) : List Command → Store → List (Except Halt Answer)
  | [], _ => []
  | command :: rest, store =>
    let further := outcomes asked rest { (command.perform.exec store).2 with trace := [] }
    if asked command then (command.perform.exec store).1 :: further else further

/-- What is not asked for is not told. -/
theorem outcomes_unasked {asked : Command → Bool} {command : Command} (unasked : asked command = false)
    (rest : List Command) (store : Store) :
    outcomes asked (command :: rest) store =
      outcomes asked rest { (command.perform.exec store).2 with trace := [] } := by
  simp [outcomes, unasked]

end Command

/-- What a caller is told in a session of the commands that are asked for. -/
def Session.outcomes (asked : Command → Bool) (commands : List Command) : List (Except Halt Answer) :=
  ((commands.zip (Session.replies commands)).filter (asked ·.1)).map (·.2.outcome)

theorem Session.outcomes_eq (asked : Command → Bool) (commands : List Command) :
    outcomes asked commands = Command.outcomes asked commands .initial := by
  have replied (store : Store) :
      ((commands.zip ((Command.performAll commands).run store).1).filter (asked ·.1)).map (·.2.outcome) =
        Command.outcomes asked commands store := by
    induction commands generalizing store with
    | nil => rfl
    | cons command rest ih =>
      rw [Command.performAll_replies, List.zip_cons_cons, List.filter_cons, Command.outcomes, ← ih]
      split <;> rfl
  exact replied .initial

/-- Whether an expression tells where a grammar is and makes none. -/
def Expression.refers : Expression → Prop
  | .variable _ | .constant _ => True
  | _ => False

namespace Guise

/-- Sessions that differ in names, and in when the log is made verbose or quiet. -/
inductive Sessions (guise : Guise) : List Command → List Command → Prop
  | nil : Sessions guise [] []
  | cons {command other : Command} {rest others : List Command} : guise.Commands command other →
      Sessions guise rest others → Sessions guise (command :: rest) (other :: others)
  | switchFirst (verbose : Bool) {rest others : List Command} : guise.logs → Sessions guise rest others →
      Sessions guise (.setVerbose verbose :: rest) others
  | switchSecond (verbose : Bool) {rest others : List Command} : guise.logs → Sessions guise rest others →
      Sessions guise rest (.setVerbose verbose :: others)
  | renameFirst {subject : Expression} (name : String) {rest others : List Command} : guise.renames →
      subject.refers → Sessions guise rest others →
      Sessions guise (.describe (.named subject name) :: rest) others
  | renameSecond {subject : Expression} (name : String) {rest others : List Command} : guise.renames →
      subject.refers → Sessions guise rest others →
      Sessions guise rest (.describe (.named subject name) :: others)

/-- What is told alike: the same answer, or faults of the same class that tell the same end. -/
inductive Tells (guise : Guise) : Except Halt Answer → Except Halt Answer → Prop
  | answer (answer : Answer) : Tells guise (.ok answer) (.ok answer)
  | fault {first second : Fault} : guise.Faults first second →
      Tells guise (.error (.fault first)) (.error (.fault second))
  | exhausted : Tells guise (.error .exhausted) (.error .exhausted)

variable {guise : Guise}

/-- To tell where a grammar is changes nothing. -/
theorem exec_refers {subject : Expression} (refers : subject.refers) (store : Store) :
    ∃ outcome, (Session.evaluate subject).exec store = (outcome, store) := by
  match subject with
  | .constant shared => exact ⟨.ok (.grammar shared.grammar), rfl⟩
  | .variable name =>
    rw [Session.evaluate, Expression.evaluate, lookUp, List.lookup_nil, exec_bind_ok (exec_get store)]
    cases store.assigned? name with
    | none => exact ⟨_, rfl⟩
    | some operand => exact ⟨_, rfl⟩

/-- To rename a grammar changes no more than its name. -/
theorem exec_rename {subject : Expression} (refers : subject.refers) (name : String) (store : Store) :
    ∃ names : Array String, names.size = store.names.size ∧
      ((Command.describe (.named subject name)).perform.exec store).2 = { store with names } := by
  obtain ⟨outcome, found⟩ := exec_refers refers store
  have renames : (Session.evaluate (.named subject name)).exec store =
      ((do return .grammar (← (← (← Session.evaluate subject).asGrammar "named").named name)) :
        Action Operand).exec store := by
    rw [Session.evaluate, Expression.evaluate]
    rfl
  rw [Command.perform, exec_bind, renames, exec_bind, found]
  rcases outcome with halt | value | made
  · exact ⟨store.names, rfl, rfl⟩
  · exact ⟨store.names, rfl, rfl⟩
  · exact ⟨_, by simp, rfl⟩

/-- The commands that are asked for are told alike, if they run grammars or if names are the same. -/
theorem Sessions.outcomes {commands others : List Command} (sessions : guise.Sessions commands others)
    {asked : Command → Bool} (quiet : ∀ verbose, asked (.setVerbose verbose) = false)
    (runs : guise.renames → ∀ command, asked command = true → command.isRun = true)
    (respects : ∀ {command other}, guise.Commands command other → asked command = asked other)
    {store other : Store} (stores : guise.Stores store other) :
    List.Forall₂ guise.Tells (Command.outcomes asked commands store) (Command.outcomes asked others other) := by
  induction sessions generalizing store other with
  | nil => exact .nil
  | @cons command told rest others same _ ih =>
    have ended := same.perform stores
    have equal := respects same
    have certain (is : asked command = true) : command.isRun = true ∨ ¬ guise.renames := by
      by_cases renames : guise.renames
      · exact .inl (runs renames command is)
      · exact .inr renames
    rw [Command.outcomes, Command.outcomes, ← equal]
    generalize command.perform.exec store = one at ended
    generalize told.perform.exec other = two at ended
    cases ended with
    | answer answers stores =>
      split
      next is =>
        obtain rfl := answers (certain is)
        exact .cons (.answer _) (ih (stores.withTrace (.refl [])))
      · exact ih (stores.withTrace (.refl []))
    | fault faults stores =>
      split
      · exact .cons (.fault faults) (ih (stores.withTrace (.refl [])))
      · exact ih (stores.withTrace (.refl []))
    | exhausted stores =>
      split
      · exact .cons .exhausted (ih (stores.withTrace (.refl [])))
      · exact ih (stores.withTrace (.refl []))
  | switchFirst verbose logs _ ih =>
    rw [Command.outcomes_unasked (quiet verbose)]
    exact ih ((stores.withVerbose fun quiet => absurd logs quiet).withTrace fun quiet => absurd logs quiet)
  | switchSecond verbose logs _ ih =>
    rw [Command.outcomes_unasked (quiet verbose)]
    exact ih ((stores.withVerbose fun quiet => absurd logs quiet).withTrace fun quiet => absurd logs quiet)
  | @renameFirst subject name _ _ renames refers _ ih =>
    obtain ⟨names, size, renamed⟩ := exec_rename refers name store
    have unasked : asked (.describe (.named subject name)) = false :=
      Bool.eq_false_iff.mpr fun is => by cases runs renames _ is
    rw [Command.outcomes_unasked unasked, renamed]
    refine ih (Stores.withTrace ?_ fun quiet => absurd (guise.told renames) quiet)
    exact stores.withNames (size.trans stores.objects) fun fixed => absurd renames fixed
  | @renameSecond subject name _ _ renames refers _ ih =>
    obtain ⟨names, size, renamed⟩ := exec_rename refers name other
    have unasked : asked (.describe (.named subject name)) = false :=
      Bool.eq_false_iff.mpr fun is => by cases runs renames _ is
    rw [Command.outcomes_unasked unasked, renamed]
    refine ih (Stores.withTrace ?_ fun quiet => absurd (guise.told renames) quiet)
    exact stores.withNames (stores.objects.trans size.symm) fun fixed => absurd renames fixed

/-- The guise of sessions that differ in the log, and in names if these may differ. -/
def ofNames (renames : Prop) (grammatical : String → Prop) : Guise where
  leaves := Eq
  asked _ _ := True
  renames := renames
  logs := True
  grammatical := grammatical
  refl _ := rfl
  valid _ _ := trivial
  agree same _ _ _ := by rw [same]
  stays _ _ _ _ _ _ := trivial
  told _ := trivial

/-- The guise of sessions that differ in nothing but the log. -/
def plain : Guise := ofNames False fun _ => False

theorem Faults.eq_of_plain {first second : Fault} (faults : plain.Faults first second) : first = second :=
  faults.same id

mutual

theorem Expressions.same : ∀ expression : Expression, Guise.plain.Expressions expression expression
  | .raw value => .raw value
  | .variable name => .variable name
  | .invalid fault => .invalid (.refl fault)
  | .leaf kind name _ => .leaf kind name rfl
  | .constant shared => .constant shared
  | .followedBy first second => .followedBy (Expressions.same first) (Expressions.same second)
  | .sum first second => .sum (Expressions.same first) (Expressions.same second)
  | .orElse first second => .orElse (Expressions.same first) (Expressions.same second)
  | .union first second => .union (Expressions.same first) (Expressions.same second)
  | .either kind alternatives => .either kind (ExpressionLists.same alternatives)
  | .optional operand => .optional (Expressions.same operand)
  | .many operand => .many (Expressions.same operand)
  | .oneOrMore operand => .oneOrMore (Expressions.same operand)
  | .times operand count => .times count (Expressions.same operand)
  | .separatedBy operand separator => .separatedBy (Expressions.same operand) (Expressions.same separator)
  | .captured operand => .captured (Expressions.same operand)
  | .capturedPattern operand => .capturedPattern (Expressions.same operand)
  | .returning operand value => .returning value (Expressions.same operand)
  | .valueFor operand value => .valueFor value (Expressions.same operand)
  | .erased operand => .erased (Expressions.same operand)
  | .negated operand => .negated (Expressions.same operand)
  | .map operand transform => .map transform (Expressions.same operand)
  | .shifted operand transform functionType => .shifted transform functionType (Expressions.same operand)
  | .filter operand accept => .filter accept (Expressions.same operand)
  | .bind operand continuation => .bind (Expressions.same operand) fun value => Expressions.same (continuation value)
  | .named operand name => .named (Expressions.same operand) (.refl name)
  | .copy operand => .copy (Expressions.same operand)
  | .capturing names body => .capturing names (Expressions.same body)
  | .retaining names body => .retaining names (Expressions.same body)
  | .recursive kind binder limit script => .recursive kind binder limit fun call => Scripts.same (script call)

theorem ExpressionLists.same : ∀ expressions : List Expression,
    Guise.plain.ExpressionLists expressions expressions
  | [] => .nil
  | expression :: rest => .cons (Expressions.same expression) (ExpressionLists.same rest)

theorem Scripts.same : ∀ script : Script, Guise.plain.Scripts script script
  | .finish definition => .finish (Expressions.same definition)
  | .tally label rest => .tally label (Scripts.same rest)
  | .leak name subject rest => .leak name (Expressions.same subject) False.elim (Scripts.same rest)
  | .attempt subject text start rest => .attempt text start (Expressions.same subject) fun first second same => by
    cases same with
    | answer equal => exact equal ▸ Scripts.same (rest _)
    | fault faults => exact faults.eq_of_plain ▸ Scripts.same (rest _)

end

theorem Commands.same (command : Command) : Guise.plain.Commands command command := by
  cases command with
  | setVerbose verbose => exact .setVerbose (.refl verbose)
  | assign name subject => exact .assign name (.same subject) False.elim
  | forget name => exact .forget name
  | describe subject => exact .describe (.same subject)
  | tally label => exact .tally label
  | matchPrefix subject text start => exact .matchPrefix text start (.same subject)
  | runAt subject text start => exact .runAt trivial (.same subject)
  | matchesAll subject text => exact .matchesAll text (.same subject)
  | parse subject text => exact .parse text (.same subject)
  | parseOrFail subject text => exact .parseOrFail text (.same subject)

/-- Sessions with the same commands, but for those that make the log verbose or quiet. -/
theorem Sessions.of_filter {commands others : List Command}
    (same : commands.filter (!·.isSwitch) = others.filter (!·.isSwitch)) :
    Guise.plain.Sessions commands others := by
  have silent {others : List Command} (none : others.filter (!·.isSwitch) = []) :
      Guise.plain.Sessions [] others := by
    induction others with
    | nil => exact .nil
    | cons command rest ih =>
      cases command with
      | setVerbose verbose => exact .switchSecond verbose trivial (ih none)
      | _ => cases none
  induction commands generalizing others with
  | nil => exact silent same.symm
  | cons command rest ih =>
    cases switch : command.isSwitch with
    | true =>
      cases command with
      | setVerbose verbose => exact .switchFirst verbose trivial (ih same)
      | _ => cases switch
    | false =>
      rw [List.filter_cons_of_pos (by simp [switch])] at same
      induction others with
      | nil => cases same
      | cons other others find =>
        cases switches : other.isSwitch with
        | true =>
          cases other with
          | setVerbose verbose => exact .switchSecond verbose trivial (find same)
          | _ => cases switches
        | false =>
          rw [List.filter_cons_of_pos (by simp [switches])] at same
          obtain ⟨rfl, others⟩ := List.cons.inj same
          exact .cons (.same command) (ih others)

end Guise

namespace Session

end Session

end TextGrammar
