import Mathlib.Data.List.Forall2
import TextGrammar.Fault.Class
import TextGrammar.Proofs.Agreement
import TextGrammar.Proofs.Offsets

/-! Sessions in different guises. Two sessions resemble one another if they put the same grammars
together from leaves that find the same, whatever these are called and whether or not their runs are
logged. What they may not do is to depend on that: a builder that runs a grammar goes on alike after
faults that differ in names. -/

namespace TextGrammar

/-- Whether an expression stands for a grammar whenever it stands for anything, provided that these
variables do. -/
def Expression.makes (grammatical : String → Prop) : Expression → Prop
  | .raw _ => False
  | .variable name => grammatical name
  | .sum first second | .union first second => first.makes grammatical ∨ second.makes grammatical
  | .times operand _ | .negated operand | .copy operand | .capturing _ operand | .retaining _ operand =>
    operand.makes grammatical
  | _ => True

/-- Whether an operand is a grammar. -/
def Operand.isGrammar : Operand → Prop
  | .raw _ => False
  | .grammar _ => True

/-- What may differ between two sessions. -/
structure Guise where
  /-- Which leaves may stand in for which. One may at some places and not at others. -/
  leaves : Leaf → Leaf → Prop
  /-- The offsets at which leaves are asked that may be exchanged. -/
  asked : Text → Int → Prop
  /-- Whether names may differ. -/
  renames : Prop
  /-- Whether the log may, as it has to where names do. -/
  logs : Prop
  /-- The variables that are given nothing but grammars, so that they can be renamed in place. -/
  grammatical : String → Prop
  refl : ∀ {leaf : Leaf}, leaf.Within → leaves leaf leaf
  valid : ∀ {text : Text} {start : Int}, 0 ≤ start → start ≤ text.size → asked text start
  agree : ∀ {first second : Leaf}, leaves first second → ∀ {text : Text} {start : Int}, asked text start →
    first text start = second text start
  stays : ∀ {first second : Leaf}, leaves first second → ∀ {text : Text} {start : Int} {found : Match},
    asked text start → first text start = .ok (some found) → asked text found.stop
  told : renames → logs

namespace Guise
variable (guise : Guise)

/-- Names at corresponding places. -/
def Names (first second : String) : Prop := ¬ guise.renames → first = second

/-- What belongs to the log, at corresponding places. -/
def Logged {α : Sort*} (first second : α) : Prop := ¬ guise.logs → first = second

/-- Faults at corresponding places. -/
structure Faults (first second : Fault) : Prop where
  sameClass : first.class = second.class
  matchedEnd : first.matchedEnd? = second.matchedEnd?
  same : ¬ guise.renames → first = second

/-- Outcomes at corresponding places. -/
inductive Outcomes {α β : Type} (answers : α → β → Prop) : Except Fault α → Except Fault β → Prop
  | answer {first second} : answers first second → Outcomes answers (.ok first) (.ok second)
  | fault {first second} : guise.Faults first second → Outcomes answers (.error first) (.error second)

mutual

/-- Expressions that put the same grammars together under other names. A name may be given on one
side only, if it is a grammar that is named. -/
inductive Expressions : Expression → Expression → Prop
  | raw (value : Value) : Expressions (.raw value) (.raw value)
  | «variable» (name : String) : Expressions (.variable name) (.variable name)
  | invalid {first second : Fault} : guise.Faults first second →
      Expressions (.invalid first) (.invalid second)
  | leaf (kind : Kind) (name : String) {first second : Leaf} : guise.leaves first second →
      Expressions (.leaf kind name first) (.leaf kind name second)
  | constant (shared : Constant) : Expressions (.constant shared) (.constant shared)
  | followedBy {first second other last : Expression} : Expressions first other →
      Expressions second last → Expressions (.followedBy first second) (.followedBy other last)
  | sum {first second other last : Expression} : Expressions first other →
      Expressions second last → Expressions (.sum first second) (.sum other last)
  | orElse {first second other last : Expression} : Expressions first other →
      Expressions second last → Expressions (.orElse first second) (.orElse other last)
  | union {first second other last : Expression} : Expressions first other →
      Expressions second last → Expressions (.union first second) (.union other last)
  | either (kind : Kind) {alternatives others : List Expression} : ExpressionLists alternatives others →
      Expressions (.either kind alternatives) (.either kind others)
  | optional {operand other : Expression} : Expressions operand other →
      Expressions (.optional operand) (.optional other)
  | many {operand other : Expression} : Expressions operand other →
      Expressions (.many operand) (.many other)
  | oneOrMore {operand other : Expression} : Expressions operand other →
      Expressions (.oneOrMore operand) (.oneOrMore other)
  | times {operand other : Expression} (count : Value) : Expressions operand other →
      Expressions (.times operand count) (.times other count)
  | separatedBy {first second other last : Expression} : Expressions first other →
      Expressions second last → Expressions (.separatedBy first second) (.separatedBy other last)
  | captured {operand other : Expression} : Expressions operand other →
      Expressions (.captured operand) (.captured other)
  | capturedPattern {operand other : Expression} : Expressions operand other →
      Expressions (.capturedPattern operand) (.capturedPattern other)
  | returning {operand other : Expression} (value : Value) : Expressions operand other →
      Expressions (.returning operand value) (.returning other value)
  | valueFor {operand other : Expression} (value : Value) : Expressions operand other →
      Expressions (.valueFor operand value) (.valueFor other value)
  | erased {operand other : Expression} : Expressions operand other →
      Expressions (.erased operand) (.erased other)
  | negated {operand other : Expression} : Expressions operand other →
      Expressions (.negated operand) (.negated other)
  | map {operand other : Expression} (transform : Value → Except Fault Value) :
      Expressions operand other → Expressions (.map operand transform) (.map other transform)
  | shifted {operand other : Expression} (transform : Value → Except Fault Value) (functionType : String) :
      Expressions operand other →
      Expressions (.shifted operand transform functionType) (.shifted other transform functionType)
  | filter {operand other : Expression} (accept : Value → Except Fault Bool) :
      Expressions operand other → Expressions (.filter operand accept) (.filter other accept)
  | bind {operand other : Expression} {continuation continuing : Value → Expression} :
      Expressions operand other → (∀ value, Expressions (continuation value) (continuing value)) →
      Expressions (.bind operand continuation) (.bind other continuing)
  | named {operand other : Expression} {name rename : String} : Expressions operand other →
      guise.Names name rename → Expressions (.named operand name) (.named other rename)
  | namedFirst {operand other : Expression} (name : String) : guise.renames →
      operand.makes guise.grammatical → Expressions operand other →
      Expressions (.named operand name) other
  | namedSecond {operand other : Expression} (name : String) : guise.renames →
      other.makes guise.grammatical → Expressions operand other →
      Expressions operand (.named other name)
  | copy {operand other : Expression} : Expressions operand other →
      Expressions (.copy operand) (.copy other)
  | capturing (names : List String) {body other : Expression} : Expressions body other →
      Expressions (.capturing names body) (.capturing names other)
  | retaining (names : List String) {body other : Expression} : Expressions body other →
      Expressions (.retaining names body) (.retaining names other)
  | recursive (kind : Kind) (binder : String) (limit : Option Depth.Request) {script scripted : Nat → Script} :
      (∀ call, Scripts (script call) (scripted call)) →
      Expressions (.recursive kind binder limit script) (.recursive kind binder limit scripted)

inductive ExpressionLists : List Expression → List Expression → Prop
  | nil : ExpressionLists [] []
  | cons {expression other : Expression} {rest others : List Expression} :
      Expressions expression other → ExpressionLists rest others →
      ExpressionLists (expression :: rest) (other :: others)

/-- Scripts that do the same under other names, whatever is in the faults that they come to know. -/
inductive Scripts : Script → Script → Prop
  | finish {definition other : Expression} : Expressions definition other →
      Scripts (.finish definition) (.finish other)
  | tally (label : String) {rest others : Script} : Scripts rest others →
      Scripts (.tally label rest) (.tally label others)
  | leak (name : String) {subject other : Expression} {rest others : Script} :
      Expressions subject other →
      (guise.grammatical name → subject.makes guise.grammatical) → Scripts rest others →
      Scripts (.leak name subject rest) (.leak name other others)
  | attempt {subject other : Expression} (text : Text) (start : Int)
      {rest others : Except Fault (Option Match) → Script} : Expressions subject other →
      (∀ first second, guise.Outcomes Eq first second → Scripts (rest first) (others second)) →
      Scripts (.attempt subject text start rest) (.attempt other text start others)

end

/-- Placeholders of the same cell. -/
inductive Placeholders : Placeholder → Placeholder → Prop
  | same (kind : Kind) (tag : Tag) {traced traces : Bool} (cell : CellId) (captured : Bool) :
      guise.Logged traced traces →
      Placeholders ⟨kind, tag, traced, cell, captured⟩ ⟨kind, tag, traces, cell, captured⟩

def Scopes : Scope → Scope → Prop :=
  List.Forall₂ fun entry other => entry.1 = other.1 ∧ guise.Placeholders entry.2 other.2

mutual

/-- Rules that run alike. -/
inductive Rules : Rule → Rule → Prop
  | leaf {first second : Leaf} : guise.leaves first second → Rules (.leaf first) (.leaf second)
  | object (tag : Tag) {traced traces : Bool} {body other : Rule} : guise.Logged traced traces → Rules body other →
      Rules (.object tag traced body) (.object tag traces other)
  | sequence (firstKind secondKind : Kind) {first second other last : Rule} : Rules first other →
      Rules second last →
      Rules (.sequence firstKind secondKind first second) (.sequence firstKind secondKind other last)
  | orElse {first second other last : Rule} : Rules first other → Rules second last →
      Rules (.orElse first second) (.orElse other last)
  | either {alternatives others : List Rule} : RuleLists alternatives others →
      Rules (.either alternatives) (.either others)
  | optional (kind : Kind) {operand other : Rule} : Rules operand other →
      Rules (.optional kind operand) (.optional kind other)
  | many (kind : Kind) (tag : Tag) {operand other : Rule} : Rules operand other →
      Rules (.many kind tag operand) (.many kind tag other)
  | oneOrMore (kind : Kind) {operand other : Rule} : Rules operand other →
      Rules (.oneOrMore kind operand) (.oneOrMore kind other)
  | times (kind : Kind) (count : Nat) {operand other : Rule} : Rules operand other →
      Rules (.times kind count operand) (.times kind count other)
  | separated (kind : Kind) {first second other last : Rule} : Rules first other →
      Rules second last →
      Rules (.separated kind first second) (.separated kind other last)
  | captured (kind : Kind) {operand other : Rule} : Rules operand other →
      Rules (.captured kind operand) (.captured kind other)
  | valued (value : Value) {operand other : Rule} : Rules operand other →
      Rules (.valued value operand) (.valued value other)
  | erased {operand other : Rule} : Rules operand other →
      Rules (.erased operand) (.erased other)
  | map (transform : Value → Except Fault Value) {operand other : Rule} : Rules operand other →
      Rules (.map transform operand) (.map transform other)
  | filter (accept : Value → Except Fault Bool) {operand other : Rule} : Rules operand other →
      Rules (.filter accept operand) (.filter accept other)
  | bind {scope scoping : Scope} {continuation continuing : Value → Expression} {operand other : Rule} :
      guise.Scopes scope scoping →
      (∀ value, guise.Expressions (continuation value) (continuing value)) → Rules operand other →
      Rules (.bind scope continuation operand) (.bind scoping continuing other)
  | retaining (held : List CellId) {operand other : Rule} : Rules operand other →
      Rules (.retaining held operand) (.retaining held other)
  | recursive (cell : CellId) : Rules (.recursive cell) (.recursive cell)
  | placeholder (cell : CellId) : Rules (.placeholder cell) (.placeholder cell)

inductive RuleLists : List Rule → List Rule → Prop
  | nil : RuleLists [] []
  | cons {rule other : Rule} {rest others : List Rule} : Rules rule other →
      RuleLists rest others → RuleLists (rule :: rest) (other :: others)

end

variable {guise}

theorem Names.refl (name : String) : guise.Names name name := fun _ => rfl

/-- What is put together from names in the same way. -/
theorem Names.map {first second : String} (names : guise.Names first second) (change : String → String) :
    guise.Names (change first) (change second) := fun same => congrArg change (names same)

theorem Logged.refl {α : Sort*} (one : α) : guise.Logged one one := fun _ => rfl

theorem Faults.refl (fault : Fault) : guise.Faults fault fault := ⟨rfl, rfl, fun _ => rfl⟩

/-- Faults that tell a name. -/
theorem Names.faults {first second : String} (names : guise.Names first second) (fault : String → Fault)
    (sameClass : ∀ name other, (fault name).class = (fault other).class)
    (matchedEnd : ∀ name other, (fault name).matchedEnd? = (fault other).matchedEnd?) :
    guise.Faults (fault first) (fault second) :=
  ⟨sameClass _ _, matchedEnd _ _, fun same => congrArg fault (names same)⟩

theorem RuleLists.of_forall {rules others : List Rule} (all : List.Forall₂ guise.Rules rules others) :
    guise.RuleLists rules others := by
  induction all with
  | nil => exact .nil
  | cons one _ ih => exact .cons one ih

/-- What is owned in a scope has nothing to do with names. -/
theorem Scopes.owned {scope scoping : Scope} (scopes : guise.Scopes scope scoping) : scope.owned = scoping.owned := by
  induction scopes with
  | nil => rfl
  | @cons entry other rest others same _ ih =>
    obtain ⟨name, placeholder⟩ := entry
    obtain ⟨_, standIn⟩ := other
    obtain ⟨rfl, same⟩ := same
    obtain ⟨kind, tag, cell, captured, traced⟩ := same
    cases captured with
    | false => exact ih
    | true => exact congrArg (cell :: ·) ih

mutual

theorem Rules.owned {rule other : Rule} (rules : guise.Rules rule other) : rule.owned = other.owned := by
  cases rules with
  | leaf | recursive | placeholder => rfl
  | either all => simp only [Rule.owned, RuleLists.owned all]
  | sequence _ _ one two | orElse one two | separated _ one two =>
    simp only [Rule.owned, Rules.owned one, Rules.owned two]
  | object _ _ one | optional _ one | many _ _ one | oneOrMore _ one | times _ _ one | captured _ one
  | valued _ one | erased one | map _ one | filter _ one | retaining _ one =>
    simp only [Rule.owned, Rules.owned one]
  | bind scopes _ one => simp only [Rule.owned, scopes.owned, Rules.owned one]

theorem RuleLists.owned {rules others : List Rule} (all : guise.RuleLists rules others) :
    Rule.ownedByAll rules = Rule.ownedByAll others := by
  cases all with
  | nil => rfl
  | cons one rest => simp only [Rule.ownedByAll, Rules.owned one, RuleLists.owned rest]

end

variable (guise)

/-- The same object, with rules that run alike. -/
inductive Grammars : Grammar → Grammar → Prop
  | same (kind : Kind) (tag : Tag) {rule other : Rule} : guise.Rules rule other →
      Grammars ⟨kind, tag, rule⟩ ⟨kind, tag, other⟩

inductive Operands : Operand → Operand → Prop
  | raw (value : Value) : Operands (.raw value) (.raw value)
  | grammar {made other : Grammar} : guise.Grammars made other → Operands (.grammar made) (.grammar other)

structure Builders (first second : Builder) : Prop where
  script : ∀ call, guise.Scripts (first.script call) (second.script call)
  scope : guise.Scopes first.scope second.scope

/-- The same cell, with a definition that runs alike. -/
structure Cells (first second : Cell) : Prop where
  name : first.name = second.name
  kind : first.kind = second.kind
  limit : first.limit = second.limit
  builder : Option.Rel guise.Builders first.builder second.builder
  definition : Option.Rel guise.Rules first.definition second.definition
  building : first.building = second.building
  active : first.active = second.active
  calls : first.calls = second.calls

/-- What the variables of a name hold on both sides. -/
structure Held (name : String) (first second : Operand) : Prop where
  operands : guise.Operands first second
  grammar : guise.grammatical name → first.isGrammar

/-- The same objects, cells and variables. -/
structure Stores (first second : Store) : Prop where
  verbose : guise.Logged first.verbose second.verbose
  objects : first.names.size = second.names.size
  names : ¬ guise.renames → first.names = second.names
  size : first.cells.size = second.cells.size
  cells : ∀ cell, guise.Cells (first.cellAt cell) (second.cellAt cell)
  assigned : List.Forall₂ (fun entry other => entry.1 = other.1 ∧ guise.Held entry.1 entry.2 other.2)
    first.assigned second.assigned
  tallies : first.tallies = second.tallies
  running : List.Forall₂ guise.Rules first.running second.running
  trace : guise.Logged first.trace second.trace

variable {guise}

theorem Operands.owned {operand other : Operand} (operands : guise.Operands operand other) :
    operand.owned = other.owned := by
  cases operands with
  | raw value => rfl
  | grammar same =>
    obtain ⟨_, _, rules⟩ := same
    exact rules.owned

theorem Placeholders.grammar {first second : Placeholder} (placeholders : guise.Placeholders first second) :
    guise.Grammars first.grammar second.grammar := by
  obtain ⟨kind, tag, cell, captured, traced⟩ := placeholders
  cases captured with
  | false => exact .same _ _ (.object _ traced (.placeholder _))
  | true => exact .same _ _ (.object _ traced (.recursive _))

/-- Leaves that are known to stay within their text may always stand in for themselves. -/
theorem Rules.known {leaf : Leaf} (known : Leaf.KnownOr Leaf.Within leaf) : guise.Rules (.leaf leaf) (.leaf leaf) :=
  .leaf (guise.refl known.within)

theorem Grammars.constant (shared : Constant) : guise.Grammars shared.grammar shared.grammar :=
  .same _ _ (.object _ (.refl _) (.known (.constant shared)))

/-- What stands for operands in a scope. -/
theorem Operands.placeholder? {operand other : Operand} (operands : guise.Operands operand other) :
    Option.Rel guise.Placeholders operand.placeholder? other.placeholder? := by
  cases operands with
  | raw value => exact .none
  | grammar same =>
    obtain ⟨kind, tag, rules⟩ := same
    cases rules with
    | object tag traced body =>
      cases body with
      | recursive cell => exact .some (.same kind _ cell true traced)
      | placeholder cell => exact .some (.same kind _ cell false traced)
      | _ => exact .none
    | _ => exact .none

theorem Operands.retaining {operand other : Operand} (operands : guise.Operands operand other) (held : List CellId) :
    guise.Operands (operand.retaining held) (other.retaining held) := by
  cases operands with
  | raw value => exact .raw value
  | grammar same =>
    obtain ⟨kind, tag, rules⟩ := same
    exact .grammar (.same kind tag (.retaining held rules))

theorem Scopes.released {first second : Scope} (scopes : guise.Scopes first second) :
    guise.Scopes first.released second.released := by
  refine List.forall₂_map_left_iff.mpr (List.forall₂_map_right_iff.mpr (scopes.imp ?_))
  rintro ⟨name, _⟩ ⟨_, _⟩ ⟨rfl, ⟨kind, tag, cell, _, traced⟩⟩
  exact ⟨rfl, .same kind tag cell false traced⟩

/-- Scopes in which the same has been captured. -/
theorem Scopes.capturing {first second : Scope} (scopes : guise.Scopes first second) (names : List String)
    {operands others : List Operand} (all : List.Forall₂ guise.Operands operands others) :
    guise.Scopes (first.capturing names operands) (second.capturing names others) := by
  refine List.rel_append ?_ scopes.released
  induction all generalizing names with
  | nil => simp
  | @cons operand other rest further same _ ih =>
    cases names with
    | nil => simp
    | cons name more =>
      have stands := same.placeholder?
      simp only [List.zip_cons_cons, List.filterMap_cons]
      generalize operand.placeholder? = one at stands ⊢
      generalize other.placeholder? = two at stands ⊢
      cases stands with
      | none => exact ih more
      | some stands => exact .cons ⟨rfl, stands⟩ (ih more)

/-- What a name stands for in two scopes. -/
theorem Scopes.lookup {first second : Scope} (scopes : guise.Scopes first second) (name : String) :
    Option.Rel guise.Placeholders (first.lookup name) (second.lookup name) := by
  induction scopes with
  | nil => exact .none
  | @cons entry other rest others same _ ih =>
    obtain ⟨key, placeholder⟩ := entry
    obtain ⟨_, standIn⟩ := other
    obtain ⟨rfl, alike⟩ := same
    simp only [List.lookup_cons]
    cases name == key with
    | true => exact .some alike
    | false => exact ih

namespace Stores
variable {first second : Store} (stores : guise.Stores first second)
include stores

theorem nameOf {tag other : Tag} (same : tag = other) : guise.Names (first.nameOf tag) (second.nameOf other) := by
  intro fixed
  rw [Store.nameOf, Store.nameOf, stores.names fixed, same]

theorem lookup (name : String) :
    Option.Rel (guise.Held name) (first.assigned? name) (second.assigned? name) := by
  have assigned := stores.assigned
  rw [Store.assigned?, Store.assigned?]
  generalize first.assigned = entries at assigned
  generalize second.assigned = others at assigned
  induction assigned with
  | nil => exact .none
  | @cons entry other rest others same _ ih =>
    obtain ⟨key, operand⟩ := entry
    obtain ⟨_, standIn⟩ := other
    obtain ⟨rfl, held⟩ := same
    simp only [List.lookup_cons]
    by_cases found : name = key
    · subst found
      simpa using Option.Rel.some held
    · rw [beq_false_of_ne found]
      exact ih

theorem ownedByCell (cell : CellId) : first.ownedByCell cell = second.ownedByCell cell := by
  have definition := (stores.cells cell).definition
  rw [Store.ownedByCell, Store.ownedByCell]
  generalize (first.cellAt cell).definition = one at definition
  generalize (second.cellAt cell).definition = two at definition
  cases definition with
  | none => rfl
  | some same => exact same.owned

theorem heldByCell (cell : CellId) : first.heldByCell cell = second.heldByCell cell := by
  have builder := (stores.cells cell).builder
  rw [Store.heldByCell, Store.heldByCell, stores.ownedByCell cell]
  generalize (first.cellAt cell).builder = one at builder
  generalize (second.cellAt cell).builder = two at builder
  cases builder with
  | none => rfl
  | some same => exact congrArg _ same.scope.owned

/-- Ownership has nothing to do with names and leaves. -/
theorem isOwned (cell : CellId) : first.isOwned cell = second.isOwned cell := by
  have assigned {entries others : List (String × Operand)}
      (all : List.Forall₂ (fun entry other => entry.1 = other.1 ∧ guise.Held entry.1 entry.2 other.2)
        entries others) :
      entries.flatMap (fun entry => entry.2.owned) = others.flatMap (fun entry => entry.2.owned) := by
    induction all with
    | nil => rfl
    | cons same _ ih => rw [List.flatMap_cons, List.flatMap_cons, same.2.operands.owned, ih]
  have running {rules others : List Rule} (all : List.Forall₂ guise.Rules rules others) :
      rules.flatMap Rule.owned = others.flatMap Rule.owned := by
    induction all with
    | nil => rfl
    | cons same _ ih => rw [List.flatMap_cons, List.flatMap_cons, same.owned, ih]
  refine Store.isOwned_congr stores.size stores.heldByCell (fun other => ?_) ?_ cell
  · rw [Cell.inUse, Cell.inUse, (stores.cells other).building, (stores.cells other).active]
  · rw [assigned stores.assigned, running stores.running]

theorem withTrace {trace other : List Event} (same : guise.Logged trace other) :
    guise.Stores { first with trace } { second with trace := other } :=
  ⟨stores.verbose, stores.objects, stores.names, stores.size, stores.cells, stores.assigned, stores.tallies,
    stores.running, same⟩

theorem records {event other : Event} (same : guise.Logged event other) :
    guise.Stores (first.record event) (second.record other) :=
  stores.withTrace fun quiet => by rw [same quiet, stores.trace quiet]

theorem withVerbose {verbose other : Bool} (same : guise.Logged verbose other) :
    guise.Stores { first with verbose } { second with verbose := other } :=
  ⟨same, stores.objects, stores.names, stores.size, stores.cells, stores.assigned, stores.tallies, stores.running,
    stores.trace⟩

theorem withNames {names others : Array String} (objects : names.size = others.size)
    (same : ¬ guise.renames → names = others) :
    guise.Stores { first with names } { second with names := others } :=
  ⟨stores.verbose, objects, same, stores.size, stores.cells, stores.assigned, stores.tallies, stores.running,
    stores.trace⟩

theorem withRunning {rules others : List Rule} (same : List.Forall₂ guise.Rules rules others) :
    guise.Stores { first with running := rules } { second with running := others } :=
  ⟨stores.verbose, stores.objects, stores.names, stores.size, stores.cells, stores.assigned, stores.tallies, same,
    stores.trace⟩

theorem withTally (label : String) : guise.Stores { first with tallies := label :: first.tallies }
    { second with tallies := label :: second.tallies } :=
  ⟨stores.verbose, stores.objects, stores.names, stores.size, stores.cells, stores.assigned,
    congrArg (label :: ·) stores.tallies, stores.running, stores.trace⟩

theorem forget (name : String) : guise.Stores (first.forget name) (second.forget name) := by
  have assigned {entries others : List (String × Operand)}
      (all : List.Forall₂ (fun entry other => entry.1 = other.1 ∧ guise.Held entry.1 entry.2 other.2)
        entries others) :
      List.Forall₂ (fun entry other => entry.1 = other.1 ∧ guise.Held entry.1 entry.2 other.2)
        (entries.filter (·.1 != name)) (others.filter (·.1 != name)) := by
    induction all with
    | nil => exact .nil
    | cons same _ ih =>
      simp only [List.filter_cons, same.1]
      split
      · exact .cons same ih
      · exact ih
  exact ⟨stores.verbose, stores.objects, stores.names, stores.size, stores.cells, assigned stores.assigned,
    stores.tallies, stores.running, stores.trace⟩

theorem assign {name : String} {operand other : Operand} (held : guise.Held name operand other) :
    guise.Stores (first.assign name operand) (second.assign name other) :=
  ⟨stores.verbose, stores.objects, stores.names, stores.size, stores.cells,
    .cons ⟨rfl, held⟩ (stores.forget name).assigned, stores.tallies, stores.running, stores.trace⟩

theorem pushCell {cell other : Cell} (same : guise.Cells cell other) :
    guise.Stores { first with cells := first.cells.push cell } { second with cells := second.cells.push other } := by
  refine ⟨stores.verbose, stores.objects, stores.names, by simp [stores.size], fun index => ?_, stores.assigned,
    stores.tallies, stores.running, stores.trace⟩
  rw [Store.cellAt_push first cell first.names, Store.cellAt_push second other second.names, stores.size]
  split
  · exact same
  · exact stores.cells index

theorem updateCell (cell : CellId) {change other : Cell → Cell}
    (same : ∀ {old new : Cell}, guise.Cells old new → guise.Cells (change old) (other new)) :
    guise.Stores (first.updateCell cell change) (second.updateCell cell other) := by
  refine ⟨stores.verbose, stores.objects, stores.names, by simp [stores.size], fun index => ?_, stores.assigned,
    stores.tallies, stores.running, stores.trace⟩
  rw [Store.cellAt_updateCell, Store.cellAt_updateCell, stores.size]
  split
  next chosen =>
    obtain ⟨rfl, -⟩ := chosen
    exact same (stores.cells cell)
  next => exact stores.cells index

end Stores

theorem Stores.initial : guise.Stores .initial .initial :=
  ⟨.refl _, rfl, fun _ => rfl, rfl, fun cell => by
    rw [Store.cellAt_of_size_le (Nat.zero_le cell)]
    exact ⟨rfl, rfl, rfl, .none, .none, rfl, rfl, rfl⟩, .nil, rfl, .nil, .refl _⟩

end Guise

end TextGrammar
