import TextGrammar.Proofs.GuisedEvaluation
import TextGrammar.Proofs.SteadyRuns

/-! Runs in different guises. Rules that run alike find the same matches and come to the same faults,
apart from names, whatever is logged on the way. They ask their leaves only where it does not matter which
of them is asked. -/

namespace TextGrammar
open TextGrammar.Action

namespace Command

/-- Whether a command runs a grammar. -/
def isRun : Command → Bool
  | .matchPrefix .. | .runAt .. | .matchesAll .. | .parse .. | .parseOrFail .. => true
  | _ => false

end Command

namespace Guise
variable {guise : Guise} {α β : Type}

/-- The same match, which ends where leaves are asked, or none. -/
def Finds (guise : Guise) (text : Text) (first second : Option Match) : Prop :=
  first = second ∧ ∀ found ∈ first, guise.asked text found.stop

/-- The same matches, and the same end behind them. -/
def Collects (guise : Guise) (text : Text) (first second : Array Match × Int) : Prop :=
  first = second ∧ guise.asked text first.2

/-- A runner that does the same with rules that run alike. -/
def Runs (guise : Guise) (runner : Runner) : Prop :=
  ∀ ⦃rule other⦄, guise.Rules rule other → ∀ text start, guise.asked text start →
    guise.Actions (guise.Finds text) (runner rule text start) (runner other text start)

namespace Finds
variable {text : Text}

theorem none : guise.Finds text .none .none := ⟨rfl, by simp⟩

theorem some {found : Match} (inside : guise.asked text found.stop) : guise.Finds text (.some found) (.some found) :=
  ⟨rfl, fun _ same => Option.some.inj same ▸ inside⟩

theorem collected (kind : Kind) (found : Array Match) {stop : Int} (inside : guise.asked text stop) :
    guise.Finds text (.some (.collected kind found stop)) (.some (.collected kind found stop)) :=
  some (by rwa [Match.collected_stop])

end Finds

/-- A match ends where its end is said to be, if it has one. -/
theorem stop_of_stopAs {kind : Kind} {found : Match} {stop : Int} (stopped : found.stopAs kind = .ok stop) :
    stop = found.stop := by
  have ended := found.stopAs_shallow kind
  rw [stopped] at ended
  exact ended

theorem stop_of_followedBy {kind other : Kind} {found next both : Match}
    (joined : found.followedBy kind other next = .ok both) : both.stop = next.stop := by
  have ended := found.followedBy_shallow kind other next
  rw [joined] at ended
  exact ended

theorem Actions.cellAt (cell : CellId) : guise.Actions guise.Cells (Action.cellAt cell) (Action.cellAt cell) :=
  fun _ _ stores => .answer (stores.cells cell) stores

theorem Actions.updateCell (cell : CellId) {change alter : Cell → Cell}
    (same : ∀ {old new : Cell}, guise.Cells old new → guise.Cells (change old) (alter new)) :
    guise.Actions (fun _ _ => True) (Action.updateCell cell change) (Action.updateCell cell alter) :=
  .changing fun stores => stores.updateCell cell same

/-- What is recorded on one side only makes no difference, unless the log does. -/
theorem Actions.traced {answers : α → β → Prop} {action : Action α} {acting : Action β}
    (same : guise.Actions answers action acting) {traced traces : Bool} (logged : guise.Logged traced traces)
    (tag : Tag) (start : Int) :
    guise.Actions answers
      (do
        if traced then Action.record (.tried ((← MonadState.get).nameOf tag) start)
        action)
      (do
        if traces then Action.record (.tried ((← MonadState.get).nameOf tag) start)
        acting) := by
  intro store other stores
  have named : guise.Logged (Event.tried (store.nameOf tag) start) (Event.tried (other.nameOf tag) start) :=
    fun quiet => by rw [stores.nameOf rfl fun renames => quiet (guise.told renames)]
  have differs (unlike : traced ≠ traces) {event tracing : Event} : guise.Logged event tracing :=
    fun quiet => absurd (logged quiet) unlike
  cases traced with
  | false =>
    cases traces with
    | false => exact same stores
    | true => exact same (stores.withTrace fun quiet => by cases logged quiet)
  | true =>
    cases traces with
    | false => exact same (stores.withTrace fun quiet => by cases logged quiet)
    | true => exact same (stores.records named)

section Loops
variable {text : Text}

/-- What goes on with a match, where there is one. -/
theorem Actions.found {action acting : Action (Option Match)} (same : guise.Actions (guise.Finds text) action acting)
    {next later : Match → Action (Option α)} {results : Option α → Option α → Prop} (nothing : results none none)
    (rest : ∀ found, guise.asked text found.stop → guise.Actions results (next found) (later found)) :
    guise.Actions results
      (do
        let some found ← action | return none
        next found)
      (do
        let some found ← acting | return none
        later found) := by
  refine same.bind fun answer _ finds => ?_
  obtain ⟨rfl, inside⟩ := finds
  cases answer with
  | none => exact .pure nothing
  | some found => exact rest found (inside found rfl)

/-- What follows an outcome that has nothing to do with names and leaves. -/
theorem Actions.after {γ : Type} {outcome : Except Fault γ} {results : α → β → Prop} {next : γ → Action α}
    {later : γ → Action β} (rest : ∀ answer, outcome = .ok answer → guise.Actions results (next answer) (later answer)) :
    guise.Actions results (Action.ofExcept outcome >>= next) (Action.ofExcept outcome >>= later) := by
  cases outcome with
  | ok answer => exact rest answer rfl
  | error fault => exact .fails_bind (.refl fault)

/-- What goes on where a match ends. -/
theorem Actions.afterStop {kind : Kind} {found : Match} {results : α → β → Prop} {next : Int → Action α}
    {later : Int → Action β} (rest : guise.Actions results (next found.stop) (later found.stop)) :
    guise.Actions results (Action.ofExcept (found.stopAs kind) >>= next)
      (Action.ofExcept (found.stopAs kind) >>= later) := by
  refine .after fun stop stopped => ?_
  obtain rfl := stop_of_stopAs stopped
  exact rest

section Repetitions
variable {attempt attempting : Int → Action (Option Match)}
  (same : ∀ position, guise.asked text position →
    guise.Actions (guise.Finds text) (attempt position) (attempting position)) (kind : Kind)
include same

theorem Actions.repeatFrom (bound : Nat) {position : Int} (inside : guise.asked text position) (found : Array Match) :
    guise.Actions (guise.Collects text) (Runner.repeatFrom attempt kind text.size bound position found)
      (Runner.repeatFrom attempting kind text.size bound position found) := by
  induction bound generalizing position found with
  | zero => exact .exhausted
  | succ bound ih =>
    refine (same position inside).bind fun answer _ finds => ?_
    obtain ⟨rfl, ends⟩ := finds
    cases answer with
    | none => exact .pure ⟨rfl, inside⟩
    | some next => exact .afterStop (.branch (.pure ⟨rfl, ends next rfl⟩) (ih (ends next rfl) _))

theorem Actions.repeatTimes (count : Nat) {position : Int} (inside : guise.asked text position) (found : Array Match) :
    guise.Actions (fun first second => first = second ∧ ∀ ends ∈ first, guise.asked text ends.2)
      (Runner.repeatTimes attempt kind text.size count position found)
      (Runner.repeatTimes attempting kind text.size count position found) := by
  have ended {ends : Array Match × Int} (inside : guise.asked text ends.2) : ∀ one ∈ some ends, guise.asked text one.2 :=
    fun _ same => Option.some.inj same ▸ inside
  induction count generalizing position found with
  | zero => exact .pure ⟨rfl, ended inside⟩
  | succ count ih =>
    refine (same position inside).bind fun answer _ finds => ?_
    obtain ⟨rfl, ends⟩ := finds
    cases answer with
    | none => exact .pure ⟨rfl, by simp⟩
    | some next => exact .afterStop (.branch (.pure ⟨rfl, ended (ends next rfl)⟩) (ih (ends next rfl) _))

end Repetitions

theorem Actions.firstOf {attempt attempting : Rule → Action (Option Match)}
    (same : ∀ {rule other}, guise.Rules rule other → guise.Actions (guise.Finds text) (attempt rule) (attempting other))
    {rules others : List Rule} (all : guise.RuleLists rules others) :
    guise.Actions (guise.Finds text) (Runner.firstOf attempt rules) (Runner.firstOf attempting others) :=
  match all with
  | .nil => .pure .none
  | .cons one rest => (same one).bind fun answer _ finds => by
    obtain ⟨rfl, inside⟩ := finds
    cases answer with
    | none => exact Actions.firstOf same rest
    | some found => exact .pure (.some (inside found rfl))

end Loops

section Runners
variable {runner : Runner} (runs : guise.Runs runner)
include runs

theorem Runs.owning {rule other : Rule} (rules : guise.Rules rule other) {text : Text} {start : Int}
    (inside : guise.asked text start) :
    guise.Actions (guise.Finds text) (runner.owning rule text start) (runner.owning other text start) := by
  have held : guise.Actions (fun _ _ => True)
      (modify fun store => { store with running := rule :: store.running } : Action PUnit)
      (modify fun store => { store with running := other :: store.running } : Action PUnit) :=
    .changing fun stores => stores.withRunning (.cons rules stores.running)
  have tail {rules others : List Rule} (all : List.Forall₂ guise.Rules rules others) :
      List.Forall₂ guise.Rules rules.tail others.tail := by
    cases all with
    | nil => exact .nil
    | cons _ rest => exact rest
  exact held.bind fun _ _ _ =>
    (runs rules text start inside).ensuring fun stores => stores.withRunning (tail stores.running)

/-- The offset that a caller gives is checked. -/
theorem Runs.matchFrom {operand other : Operand} (same : guise.Operands operand other) (text : Text)
    (start : Int) :
    guise.Actions (guise.Finds text) (runner.matchFrom operand text start) (runner.matchFrom other text start) := by
  refine (same.asGrammar _).bind fun _ _ made => .after fun _ checked => ?_
  obtain ⟨_, _, rules⟩ := made
  rw [Text.checkOffset] at checked
  split at checked
  next within => exact runs.owning rules (guise.valid within.1 within.2)
  next => cases checked

section Scripts
variable {scope scoping : Scope} {script other : Script}

omit runs in
theorem Actions.performTally (label : String)
    (rest : guise.Actions guise.Operands (runner.perform scope script) (runner.perform scoping other)) :
    guise.Actions guise.Operands (runner.perform scope (.tally label script))
      (runner.perform scoping (.tally label other)) := by
  rw [Runner.perform, Runner.perform]
  have tallied : guise.Actions (fun _ _ => True)
      (modify fun store => { store with tallies := label :: store.tallies } : Action PUnit)
      (modify fun store => { store with tallies := label :: store.tallies } : Action PUnit) :=
    .changing fun stores => stores.withTally label
  exact tallied.bind fun _ _ _ => rest

omit runs in
theorem Actions.performLeak (name : String) {subject guised : Expression} (scopes : guise.Scopes scope scoping)
    (subjects : guise.Expressions subject guised) (makes : guise.grammatical name → subject.makes guise.grammatical)
    (rest : guise.Actions guise.Operands (runner.perform scope script) (runner.perform scoping other)) :
    guise.Actions guise.Operands (runner.perform scope (.leak name subject script))
      (runner.perform scoping (.leak name guised other)) := by
  rw [Runner.perform, Runner.perform]
  refine (subjects.evaluate scopes).bind fun _ _ made => ?_
  have assigned := Actions.changing fun stores =>
    stores.assign ⟨made.operands, fun is => made.grammar (.inl (makes is))⟩
  exact assigned.bind fun _ _ _ => rest

theorem Runs.performAttempt (text : Text) (start : Int) {subject guised : Expression}
    {script other : Except Fault (Option Match) → Script} (scopes : guise.Scopes scope scoping)
    (subjects : guise.Expressions subject guised) (rest : ∀ first second, guise.Outcomes Eq first second →
      guise.Actions guise.Operands (runner.perform scope (script first)) (runner.perform scoping (other second))) :
    guise.Actions guise.Operands (runner.perform scope (.attempt subject text start script))
      (runner.perform scoping (.attempt guised text start other)) := by
  rw [Runner.perform, Runner.perform]
  have attempted := (subjects.evaluate scopes).bind fun _ _ made => runs.matchFrom made.operands text start
  exact (attempted.imp fun _ _ finds => finds.1).attempt.bind fun _ _ outcomes => rest _ _ outcomes

theorem Runs.perform {script other : Script} (scopes : guise.Scopes scope scoping) (scripts : guise.Scripts script other) :
    guise.Actions guise.Operands (runner.perform scope script) (runner.perform scoping other) :=
  match scripts with
  | .finish definition => (definition.evaluate scopes).imp fun _ _ made => made.operands
  | .tally label rest => .performTally label (Runs.perform scopes rest)
  | .leak name subject makes rest => .performLeak name scopes subject makes (Runs.perform scopes rest)
  | .attempt text start subject rest =>
    runs.performAttempt text start scopes subject fun _ _ outcomes => Runs.perform scopes (rest _ _ outcomes)

end Scripts

omit runs in
theorem Cells.definitionRule {slot other : Cell} (slots : guise.Cells slot other) {operand operand' : Operand}
    (same : guise.Operands operand operand') :
    guise.Actions guise.Rules (Runner.definitionRule slot operand) (Runner.definitionRule other operand') := by
  unfold Runner.definitionRule
  rw [slots.kind, slots.name]
  refine (same.asAlternative other.kind).bind fun _ _ chosen => ?_
  cases chosen with
  | some made =>
    obtain ⟨_, _, rules⟩ := made
    exact .pure rules
  | none =>
    cases same with
    | raw value => exact .fails (.refl _)
    | grammar made =>
      refine (Actions.nameOf made).bind fun _ _ names => .fails ?_
      exact names.faults (.otherKindDefinition other.name · other.kind) (fun _ _ => rfl) fun _ _ => rfl

theorem Runs.build (cell : CellId) {builder other : Builder} (builders : guise.Builders builder other) :
    guise.Actions guise.Rules (runner.build cell builder) (runner.build cell other) := by
  refine (Actions.updateCell cell fun same => ?_).bind fun _ _ _ => (Actions.cellAt cell).bind fun _ _ slots => ?_
  · exact ⟨same.name, same.kind, same.limit, same.builder, same.definition, rfl, same.active,
      congrArg (· + 1) same.calls⟩
  · refine Actions.ensuring ?_ fun stores => stores.updateCell cell fun same => ?_
    · rw [slots.calls]
      exact (runs.perform builders.scope (builders.script _)).bind fun _ _ made => slots.definitionRule made
    · exact ⟨same.name, same.kind, same.limit, same.builder, same.definition, rfl, same.active, same.calls⟩

theorem Runs.resolve (cell : CellId) :
    guise.Actions guise.Rules (runner.resolve cell) (runner.resolve cell) := by
  refine (Actions.cellAt cell).bind fun slot other slots => ?_
  obtain ⟨name, kind, limit, builder, definition, building, active, calls⟩ := slot
  obtain ⟨_, _, _, builder', definition', _, _, _⟩ := other
  obtain ⟨rfl, rfl, rfl, builders, definitions, rfl, rfl, rfl⟩ := slots
  cases definitions with
  | some rules => exact .pure rules
  | none =>
    cases building with
    | true => exact .fails_bind (.refl _)
    | false =>
      cases builders with
      | none => exact .fails (.refl _)
      | some same =>
        refine (runs.build cell same).bind fun _ _ rules => ?_
        refine (Actions.updateCell cell fun same => ?_).bind fun _ _ _ =>
          (Actions.records (.refl _)).bind fun _ _ _ => .pure rules
        exact ⟨same.name, same.kind, same.limit, .none, .some rules, same.building, same.active, same.calls⟩

theorem Runs.enter (cell : CellId) {rule other : Rule} (rules : guise.Rules rule other) {text : Text}
    {start : Int} (inside : guise.asked text start) :
    guise.Actions (guise.Finds text) (runner.enter cell rule text start) (runner.enter cell other text start) := by
  have entered : guise.Actions (guise.Finds text)
      (do
        Action.updateCell cell fun slot => { slot with active := slot.active + 1 }
        Action.record (.entered cell)
        Action.ensuring (runner rule text start) fun store =>
          (store.updateCell cell fun slot => { slot with active := slot.active - 1 }).record (.left cell))
      (do
        Action.updateCell cell fun slot => { slot with active := slot.active + 1 }
        Action.record (.entered cell)
        Action.ensuring (runner other text start) fun store =>
          (store.updateCell cell fun slot => { slot with active := slot.active - 1 }).record (.left cell)) := by
    refine (Actions.updateCell cell fun same => ?_).bind fun _ _ _ =>
      (Actions.records (.refl _)).bind fun _ _ _ => ?_
    · exact ⟨same.name, same.kind, same.limit, same.builder, same.definition, same.building,
        congrArg (· + 1) same.active, same.calls⟩
    · refine (runs rules text start inside).ensuring fun stores => ?_
      refine Stores.records (stores.updateCell cell fun same => ?_) (.refl _)
      exact ⟨same.name, same.kind, same.limit, same.builder, same.definition, same.building,
        congrArg (· - 1) same.active, same.calls⟩
  refine (Actions.cellAt cell).bind fun slot other slots => ?_
  obtain ⟨name, kind, limit, builder, definition, building, active, calls⟩ := slot
  obtain ⟨_, _, _, builder', definition', _, _, _⟩ := other
  obtain ⟨rfl, rfl, rfl, -, -, rfl, rfl, rfl⟩ := slots
  cases limit with
  | none => exact entered
  | some limit => exact .branch (.fails_bind (.refl _)) entered

theorem Runs.invoke (cell : CellId) {text : Text} {start : Int} (inside : guise.asked text start) :
    guise.Actions (guise.Finds text) (runner.invoke cell text start) (runner.invoke cell text start) :=
  (runs.resolve cell).bind fun _ _ rules => runs.enter cell rules inside

theorem Runs.continueWith {scope scoping : Scope} (scopes : guise.Scopes scope scoping)
    {expression other : Expression} (same : guise.Expressions expression other) {text : Text} {start : Int}
    (inside : guise.asked text start) :
    guise.Actions (guise.Finds text) (runner.continueWith scope expression text start)
      (runner.continueWith scoping other text start) := by
  refine (same.evaluate scopes).bind fun _ _ made => ?_
  obtain ⟨operands, -⟩ := made
  cases operands with
  | raw value => exact .fails (.refl _)
  | grammar made =>
    obtain ⟨_, _, rules⟩ := made
    exact runs.owning rules inside

/-- One level of a run. -/
theorem Runs.step : guise.Runs (Runner.step runner) := by
  intro rule other rules text start inside
  cases rules with
  | @leaf first second leaves =>
    rw [Runner.step, Runner.step, ← guise.agree leaves inside]
    cases asked : first text start with
    | error fault => exact .fails (.refl fault)
    | ok answer =>
      exact .pure ⟨rfl, fun found same => guise.stays leaves inside (asked.trans (congrArg Except.ok same))⟩
  | object tag traced body =>
    exact (Actions.records (.refl _)).bind fun _ _ _ => .traced (runs body text start inside) traced tag start
  | sequence kind next one two =>
    refine .found (runs one text start inside) .none fun found ends => .afterStop ?_
    refine .found (runs two text _ ends) .none fun later ended => .after fun whole both => .pure (.some ?_)
    rwa [stop_of_followedBy both]
  | orElse one two =>
    refine (runs one text start inside).bind fun answer _ finds => ?_
    obtain ⟨rfl, ends⟩ := finds
    cases answer with
    | none => exact runs two text start inside
    | some found => exact .pure (.some (ends found rfl))
  | either all => exact .firstOf (fun rules => runs rules text start inside) all
  | optional kind one =>
    refine (runs one text start inside).bind fun answer _ finds => ?_
    obtain ⟨rfl, ends⟩ := finds
    cases answer with
    | none => exact .pure (.some (by rwa [Match.absent_stop]))
    | some found => exact .pure (.some (ends found rfl))
  | many kind tag one =>
    refine (Actions.repeatFrom (runs one text) kind _ inside #[]).bind fun all _ collects => ?_
    obtain ⟨rfl, ends⟩ := collects
    have answered : guise.Actions (guise.Finds text) (Pure.pure _) (Pure.pure _) := .pure (.collected kind all.1 ends)
    intro store other stores
    rw [exec_bind_ok (exec_get store), exec_bind_ok (exec_get other)]
    have named : guise.Logged (Event.repeated all.1.size (store.nameOf tag) all.2)
        (.repeated all.1.size (other.nameOf tag) all.2) :=
      fun quiet => by rw [stores.nameOf rfl fun renames => quiet (guise.told renames)]
    have logged := stores.verbose
    cases verbose : store.verbose <;> cases verbose' : other.verbose <;> rw [verbose, verbose'] at logged
    · exact answered stores
    · exact answered (stores.withTrace fun quiet => by cases logged quiet)
    · exact answered (stores.withTrace fun quiet => by cases logged quiet)
    · exact answered (stores.records named)
  | oneOrMore kind one =>
    refine .found (runs one text start inside) .none fun first ends => .afterStop ?_
    refine .branch (.pure (.collected kind _ ends)) ?_
    refine (Actions.repeatFrom (runs one text) kind _ ends _).bind fun all _ collects => ?_
    obtain ⟨rfl, last⟩ := collects
    exact .pure (.collected kind _ last)
  | times kind count one =>
    refine (Actions.repeatTimes (runs one text) kind count inside #[]).bind fun all _ collects => ?_
    obtain ⟨rfl, ends⟩ := collects
    cases all with
    | none => exact .pure .none
    | some all => exact .pure (.collected kind _ (ends all rfl))
  | separated kind one two =>
    refine .found (runs one text start inside) .none fun first ends => .afterStop ?_
    refine (Actions.repeatFrom (runs two text) kind _ ends _).bind fun all _ collects => ?_
    obtain ⟨rfl, last⟩ := collects
    exact .pure (.collected kind _ last)
  | captured kind one =>
    exact .found (runs one text start inside) .none fun found ends => .afterStop (.pure (.some ends))
  | valued value one => exact .found (runs one text start inside) .none fun found ends => .pure (.some ends)
  | erased one => exact .found (runs one text start inside) .none fun found ends => .afterStop (.pure (.some ends))
  | map transform one =>
    exact .found (runs one text start inside) .none fun found ends => .after fun value _ =>
      .after fun changed _ => .pure (.some ends)
  | filter accept one =>
    refine .found (runs one text start inside) .none fun found ends => .after fun value _ =>
      .after fun accepted _ => .pure ?_
    cases accepted with
    | true => exact .some ends
    | false => exact .none
  | bind scopes continues one =>
    exact .found (runs one text start inside) .none fun found ends => .after fun value _ =>
      runs.continueWith scopes (continues value) ends
  | retaining held one => exact runs one text start inside
  | recursive cell => exact runs.invoke cell inside
  | placeholder cell =>
    intro store other stores
    rw [Runner.step, exec_bind_ok (exec_get store), exec_bind_ok (exec_get other), stores.isOwned cell]
    split
    · exact runs.invoke cell inside stores
    · rw [(stores.cells cell).name]
      exact .fault (.refl _) (stores.records (.refl _))

end Runners

/-- Runs of rules that run alike. -/
theorem runs_alike (fuel : Nat) : guise.Runs (Rule.run fuel) := by
  induction fuel with
  | zero => exact fun _ _ _ _ _ _ => .exhausted
  | succ fuel ih => exact ih.step

/-- Commands that ask for the same in another guise, where leaves may be asked. -/
inductive Commands (guise : Guise) : Command → Command → Prop
  | setVerbose {verbose other : Bool} : guise.Logged verbose other →
      Commands guise (.setVerbose verbose) (.setVerbose other)
  | assign (name : String) {subject other : Expression} : guise.Expressions subject other →
      (guise.grammatical name → subject.makes guise.grammatical) →
      Commands guise (.assign name subject) (.assign name other)
  | forget (name : String) : Commands guise (.forget name) (.forget name)
  | describe {subject other : Expression} : guise.Expressions subject other →
      Commands guise (.describe subject) (.describe other)
  | tally (label : String) : Commands guise (.tally label) (.tally label)
  | matchPrefix {subject other : Expression} (text : Text) (start : Int) : guise.Expressions subject other →
      Commands guise (.matchPrefix subject text start) (.matchPrefix other text start)
  | runAt {subject other : Expression} {text : Text} {start : Int} : guise.asked text start →
      guise.Expressions subject other → Commands guise (.runAt subject text start) (.runAt other text start)
  | matchesAll {subject other : Expression} (text : Text) : guise.Expressions subject other →
      Commands guise (.matchesAll subject text) (.matchesAll other text)
  | parse {subject other : Expression} (text : Text) : guise.Expressions subject other →
      Commands guise (.parse subject text) (.parse other text)
  | parseOrFail {subject other : Expression} (text : Text) : guise.Expressions subject other →
      Commands guise (.parseOrFail subject text) (.parseOrFail other text)

section Sessions

theorem Operands.asParser {operand other : Operand} (same : guise.Operands operand other) (member : String) :
    guise.Actions guise.Grammars (operand.asParser member) (other.asParser member) := by
  refine (same.asGrammar member).bind fun _ _ made => ?_
  obtain ⟨kind, tag, rules⟩ := made
  cases kind with
  | parser => exact .pure (.same _ _ rules)
  | pattern => exact .fails (.refl _)

theorem Operands.describe {operand other : Operand} (same : guise.Operands operand other) :
    guise.Actions (fun first second => ¬ guise.renames → first = second) operand.describe other.describe := by
  cases same with
  | raw value => exact .pure fun _ => rfl
  | grammar made =>
    refine (Actions.nameOf made).bind fun _ _ names => .pure fun fixed => ?_
    obtain ⟨_, _, _⟩ := made
    rw [names fixed]
    rfl

theorem Grammars.runWhole {grammar other : Grammar} (same : guise.Grammars grammar other) (text : Text) :
    guise.Actions Eq (sessionRunner.runWhole grammar text) (sessionRunner.runWhole other text) := by
  have runs : guise.Runs sessionRunner := runs_alike ampleFuel
  obtain ⟨kind, tag, rules⟩ := same
  refine (runs.owning rules (guise.valid (Int.le_refl 0) (Int.natCast_nonneg _))).bind fun answer _ finds => ?_
  obtain ⟨rfl, -⟩ := finds
  cases answer with
  | none => exact .pure rfl
  | some found => exact .afterStop (.pure rfl)

/-- A command that resembles another one comes to the same, if it runs a grammar or if names are. -/
theorem Commands.perform {command other : Command} (same : guise.Commands command other) :
    guise.Actions (fun answer told => command.isRun = true ∨ ¬ guise.renames → answer = told)
      command.perform other.perform := by
  have evaluates {subject other : Expression} (same : guise.Expressions subject other) :=
    same.evaluate (.nil : guise.Scopes [] [])
  have told {α : Type} {action acting : Action α} (same : guise.Actions Eq action acting) {tell : α → Answer}
      {certain : Prop} : guise.Actions (fun answer told => certain → answer = told)
        (do return tell (← action)) (do return tell (← acting)) :=
    same.bind fun _ _ equal => .pure fun _ => congrArg tell equal
  have found {text : Text} {action acting : Action (Option Match)}
      (same : guise.Actions (guise.Finds text) action acting) : guise.Actions Eq action acting :=
    same.imp fun _ _ finds => finds.1
  have runs : guise.Runs sessionRunner := runs_alike ampleFuel
  cases same with
  | @setVerbose verbose other same =>
    have set : guise.Actions (fun _ _ => True) (Session.setVerbose verbose) (Session.setVerbose other) :=
      .changing fun stores => stores.withVerbose same
    exact set.bind fun _ _ _ => .pure fun _ => rfl
  | assign name subject makes =>
    have described := (evaluates subject).bind fun _ _ made =>
      (Actions.changing fun stores =>
        stores.assign ⟨made.operands, fun is => made.grammar (.inl (makes is))⟩).bind fun _ _ _ =>
          made.operands.describe
    exact described.map fun _ _ same is =>
      congrArg Answer.description (same (is.resolve_left (by simp [Command.isRun])))
  | forget name =>
    have forgot : guise.Actions (fun _ _ => True) (Session.forget name) (Session.forget name) :=
      .changing fun stores => stores.forget name
    exact forgot.bind fun _ _ _ => .pure fun _ => rfl
  | describe subject =>
    refine (evaluates subject).bind fun _ _ made => made.operands.describe.bind fun _ _ same => .pure fun is => ?_
    exact congrArg Answer.description (same (is.resolve_left (by simp [Command.isRun])))
  | tally label =>
    have counted : guise.Actions Eq (Session.tally label) (Session.tally label) :=
      Actions.get.bind fun _ _ stores => .pure (by rw [stores.tallies])
    exact counted.map fun _ _ equal _ => congrArg Answer.count equal
  | matchPrefix text start subject =>
    exact (evaluates subject).bind fun _ _ made => told (found (runs.matchFrom made.operands text start))
  | runAt inside subject =>
    refine (evaluates subject).bind fun _ _ made => told ?_
    refine (made.operands.asGrammar _).bind fun _ _ made => ?_
    obtain ⟨_, _, rules⟩ := made
    exact found (runs.owning rules inside)
  | matchesAll text subject =>
    refine (evaluates subject).bind fun _ _ made => told ?_
    exact (made.operands.asGrammar _).bind fun _ _ made => (made.runWhole text).bind fun _ _ equal =>
      .pure (by rw [equal])
  | parse text subject =>
    refine (evaluates subject).bind fun _ _ made => told ?_
    refine (made.operands.asParser _).bind fun _ _ made => (made.runWhole text).bind fun found _ equal => ?_
    subst equal
    split <;> exact .pure rfl
  | parseOrFail text subject =>
    refine (evaluates subject).bind fun _ _ made => told ?_
    refine (made.operands.asParser _).bind fun _ _ made => (made.runWhole text).bind fun found _ equal => ?_
    subst equal
    split
    · exact (Actions.nameOf made).bind fun _ _ names =>
        .fails (names.faults .notMatched (fun _ _ => rfl) fun _ _ => rfl)
    · exact .pure rfl
    next found =>
      exact (Actions.nameOf made).bind fun _ _ names =>
        .fails (names.faults (.partlyMatched · found.stop text.size) (fun _ _ => rfl) fun _ _ => rfl)

/-- The callers of two sessions are told the same, and the log is the same, where names and logs may not differ. -/
theorem Commands.replies (same : ¬ guise.logs) {commands others : List Command}
    (all : List.Forall₂ guise.Commands commands others) {store other : Store} (stores : guise.Stores store other) :
    ((Command.performAll commands).run store).1 = ((Command.performAll others).run other).1 := by
  have fixed : ¬ guise.renames := fun renames => same (guise.told renames)
  induction all generalizing store other with
  | nil => rfl
  | @cons command told rest others alike _ ih =>
    have ended := alike.perform stores
    rw [Command.performAll_replies, Command.performAll_replies]
    generalize command.perform.exec store = one at ended ⊢
    generalize told.perform.exec other = two at ended ⊢
    cases ended with
    | answer equal stores =>
      rw [equal (.inr fixed), Store.log, Store.log, stores.trace same, ih (stores.withTrace (.refl []))]
    | fault faults stores =>
      rw [faults.same fixed, Store.log, Store.log, stores.trace same, ih (stores.withTrace (.refl []))]
    | exhausted stores => rw [Store.log, Store.log, stores.trace same, ih (stores.withTrace (.refl []))]

end Sessions

end Guise

end TextGrammar
