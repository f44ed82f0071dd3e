import Mathlib.Data.List.Forall2
import TextGrammar.Fault.Class
import TextGrammar.Proofs.Agreement
import TextGrammar.Proofs.Blueprints
import TextGrammar.Proofs.Execution

/-! Rules that play the parts of blueprints. A cast says which recursive grammars are in which cells.
It grows while grammars are run: what is built in the course of a run is cast as well. A store is
cast properly if each of its cells has the definition of its part, or a builder that leads to it. -/

namespace TextGrammar

/-- A fault with the names of grammars left out that may be renamed. Those that recursive grammars were
made under are kept. -/
def Fault.unnamed : Fault → Fault
  | .negativeTimes _ times => .negativeTimes "" times
  | .otherKindAlternative first _ => .otherKindAlternative first ""
  | .otherKindDefinition name _ expected => .otherKindDefinition name "" expected
  | .notMatched _ => .notMatched ""
  | .partlyMatched _ stop length => .partlyMatched "" stop length
  | other => other

theorem Fault.class_unnamed (fault : Fault) : fault.unnamed.class = fault.class := by
  cases fault <;> rfl

/-- A halt with these names left out. -/
def Halt.unnamed : Halt → Halt
  | .fault cause => .fault cause.unnamed
  | .exhausted => .exhausted

section Plain

mutual

/-- An expression whose builders do no more than put grammars together, the same ones whenever they
are called, and count their calls. Its names are known ones. -/
def Expression.Plain (known : String → Prop) : Expression → Prop
  | .raw _ | .invalid _ | .constant _ | .leaf _ _ _ => True
  | .variable name => known name
  | .followedBy first second | .sum first second | .orElse first second | .union first second
  | .separatedBy first second => first.Plain known ∧ second.Plain known
  | .either _ alternatives => Expression.AllPlain known alternatives
  | .optional operand | .many operand | .oneOrMore operand | .times operand _ | .captured operand
  | .capturedPattern operand | .returning operand _ | .valueFor operand _ | .erased operand
  | .negated operand | .map operand _ | .shifted operand _ _ | .filter operand _ | .named operand _
  | .copy operand => operand.Plain known
  | .bind operand continuation => operand.Plain known ∧ ∀ value, (continuation value).Plain known
  | .capturing names body | .retaining names body => (∀ name ∈ names, known name) ∧ body.Plain known
  | .recursive _ binder _ script =>
    (∀ call, (script call).definition? = (script 0).definition?) ∧
      ∀ call, (script call).Plain fun name => name = binder ∨ known name

def Expression.AllPlain (known : String → Prop) : List Expression → Prop
  | [] => True
  | expression :: rest => expression.Plain known ∧ Expression.AllPlain known rest

def Script.Plain (known : String → Prop) : Script → Prop
  | .finish definition => definition.Plain known
  | .tally _ rest => rest.Plain known
  | .leak _ _ _ | .attempt _ _ _ _ => False

end

mutual

/-- An expression may know more names than it uses. -/
theorem Expression.Plain.mono {known more : String → Prop} {expression : Expression}
    (plain : expression.Plain known) (wider : ∀ name, known name → more name) : expression.Plain more := by
  cases expression with
  | raw | invalid | constant | leaf => trivial
  | «variable» name => exact wider name plain
  | followedBy first second | sum first second | orElse first second | union first second
  | separatedBy first second => exact ⟨plain.1.mono wider, plain.2.mono wider⟩
  | either kind alternatives => exact Expression.AllPlain.mono plain wider
  | optional operand | many operand | oneOrMore operand | times operand | captured operand
  | capturedPattern operand | returning operand | valueFor operand | erased operand | negated operand
  | map operand | shifted operand | filter operand | named operand | copy operand =>
    exact @Expression.Plain.mono known more operand plain wider
  | bind operand continuation =>
    exact ⟨plain.1.mono wider, fun value => (plain.2 value).mono wider⟩
  | capturing names body | retaining names body =>
    exact ⟨fun name member => wider name (plain.1 name member), plain.2.mono wider⟩
  | recursive kind binder limit script =>
    exact ⟨plain.1, fun call => (plain.2 call).mono fun name => Or.imp_right (wider name)⟩

theorem Expression.AllPlain.mono {known more : String → Prop} {expressions : List Expression}
    (plain : Expression.AllPlain known expressions) (wider : ∀ name, known name → more name) : Expression.AllPlain more expressions := by
  cases expressions with
  | nil => trivial
  | cons first rest => exact ⟨plain.1.mono wider, Expression.AllPlain.mono plain.2 wider⟩

theorem Script.Plain.mono {known more : String → Prop} {script : Script}
    (plain : script.Plain known) (wider : ∀ name, known name → more name) : script.Plain more := by
  cases script with
  | finish definition => exact @Expression.Plain.mono known more definition plain wider
  | tally label rest => exact @Script.Plain.mono known more rest plain wider
  | leak => exact plain.elim
  | attempt => exact plain.elim

end

theorem Script.Plain.definition {known : String → Prop} (script : Script) (plain : script.Plain known) :
    ∃ definition, script.definition? = some definition ∧ definition.Plain known := by
  cases script with
  | finish definition => exact ⟨definition, rfl, plain⟩
  | tally label rest => exact Script.Plain.definition rest plain
  | leak => exact plain.elim
  | attempt => exact plain.elim

end Plain

/-- Which recursive grammars are in which cells. -/
abbrev Cast := CellId → Option Target

namespace Cast

/-- A cast with more parts. -/
def Extends (further cast : Cast) : Prop :=
  ∀ ⦃cell target⦄, cast cell = some target → further cell = some target

/-- The parts that are there after so many parsed values. -/
def upTo (cast : Cast) (level : Nat) : Cast :=
  fun cell => (cast cell).filter fun target => target.key.level ≤ level

variable {first second third cast further : Cast} {level more : Nat} {cell : CellId} {target : Target}

theorem Extends.refl (cast : Cast) : cast.Extends cast := fun _ _ => id

theorem Extends.trans (more : third.Extends second) (some : second.Extends first) :
    third.Extends first := fun _ _ known => more (some known)

theorem upTo_eq_some : cast.upTo level cell = some target ↔
    cast cell = some target ∧ target.key.level ≤ level := by
  simp [upTo, Option.filter_eq_some_iff]

theorem extends_upTo (cast : Cast) (level : Nat) : cast.Extends (cast.upTo level) :=
  fun _ _ known => (upTo_eq_some.mp known).1

theorem upTo_extends (least : ∀ {cell target}, cast cell = some target → target.key.level ≤ level) :
    (cast.upTo level).Extends cast :=
  fun _ _ known => upTo_eq_some.mpr ⟨known, least known⟩

theorem Extends.upTo (wider : further.Extends cast) (least : level ≤ more) :
    (further.upTo more).Extends (cast.upTo level) := fun _ _ known =>
  have ⟨known, low⟩ := upTo_eq_some.mp known
  upTo_eq_some.mpr ⟨wider known, Nat.le_trans low least⟩

theorem upTo_upTo (least : level ≤ more) : (cast.upTo more).upTo level = cast.upTo level := by
  funext cell
  simp only [Cast.upTo, Option.filter_filter]
  congr 1
  funext target
  simp only [Bool.and_eq_decide, decide_eq_true_eq, decide_eq_decide]
  omega

end Cast

namespace Target

/-- The names that are known where a recursive grammar is made. -/
def outer : Target → Names
  | .base _ => []
  | .inner _ _ _ _ _ names => names

/-- That the placeholder of a grammar may run: something owns it, or invocations of it are under
way. -/
def Stays (awake : Key → Prop) : Target → Prop
  | .base _ => True
  | .inner key _ _ _ _ _ => awake key

end Target

namespace Names
variable (names : Names)

def Stay (awake : Key → Prop) : Prop := ∀ entry ∈ names, entry.2.2.Stays awake

/-- The invocations that are under way wherever all the placeholders may run. -/
def Awake (key : Key) : Prop := ∀ awake : Key → Prop, names.Stay awake → awake key

theorem stay_awake : names.Stay names.Awake := by
  rintro ⟨name, kind, target⟩ member
  cases target with
  | base cell => trivial
  | inner key => exact fun awake stay => stay _ member

/-- What is known to a recursive grammar is known wherever the grammar itself is. -/
def Nested : Prop := ∀ entry ∈ names, entry.2.2.outer ⊆ names

/-- The names that an expression may use beside those of a session. -/
def Knows (allowed : String → Prop) (name : String) : Prop := (names.lookup name).isSome ∨ allowed name

end Names

/-- A scope whose placeholders are of the recursive grammars with the same names. -/
def Scope.Plays (cast : Cast) (scope : Scope) (names : Names) : Prop :=
  List.Forall₂ (fun entry known => entry.1 = known.1 ∧ entry.2.kind = known.2.1 ∧
    cast entry.2.cell = some known.2.2) scope names

/-- A name is looked up in a scope and among the names alike. -/
theorem Scope.Plays.lookup {cast : Cast} {scope : Scope} {names : Names} (plays : scope.Plays cast names)
    (name : String) : (scope.lookup name = none ∧ names.lookup name = none) ∨
      ∃ placeholder kind target, scope.lookup name = some placeholder ∧
        names.lookup name = some (kind, target) ∧ placeholder.kind = kind ∧
          cast placeholder.cell = some target ∧ (name, kind, target) ∈ names := by
  induction plays with
  | nil => exact .inl ⟨rfl, rfl⟩
  | @cons entry known scope names same _ ih =>
    obtain ⟨bound, placeholder⟩ := entry
    obtain ⟨other, kind, target⟩ := known
    obtain ⟨rfl, kinds, cast⟩ := same
    simp only [List.lookup_cons]
    by_cases is : name = bound
    · subst is
      exact .inr ⟨placeholder, kind, target, by simp, by simp, kinds, cast, List.mem_cons_self⟩
    · have apart : (name == bound) = false := by simp [is]
      rw [apart]
      obtain none | ⟨placeholder, kind, target, found, known, same, cast, member⟩ := ih
      · exact .inl none
      · exact .inr ⟨placeholder, kind, target, found, known, same, cast, List.mem_cons_of_mem _ member⟩

/-- A scope from which nothing is held plays as before. -/
theorem Scope.Plays.released {cast : Cast} {scope : Scope} {names : Names} (plays : scope.Plays cast names) :
    scope.released.Plays cast names :=
  List.forall₂_map_left_iff.mpr plays

/-- What some grammars have been captured in plays as the names of the same grammars say. -/
theorem Scope.Plays.capturing {cast : Cast} {scope : Scope} {names : Names} (plays : scope.Plays cast names)
    (taken : List String) {operands : List Operand} {drafts : List Draft}
    (all : List.Forall₂ (fun operand draft => Option.Rel (fun placeholder (entry : Kind × Target) =>
      placeholder.kind = entry.1 ∧ cast placeholder.cell = some entry.2) operand.placeholder? draft.target?) operands drafts) :
    (scope.capturing taken operands).Plays cast (names.capturing taken drafts) := by
  refine List.rel_append ?_ plays.released
  induction all generalizing taken with
  | nil => simp
  | @cons operand draft operands drafts same _ ih =>
    cases taken with
    | nil => simp
    | cons name rest =>
      simp only [List.zip_cons_cons, List.filterMap_cons]
      generalize operand.placeholder? = held at same ⊢
      generalize draft.target? = known at same ⊢
      cases same with
      | none => exact ih rest
      | some same => exact .cons ⟨rfl, same⟩ (ih rest)

namespace Names
variable {names : Names} {taken : List String} {drafts : List Draft}

/-- What is known where some drafts have been captured is one of them, or was known before. -/
theorem mem_capturing {entry : String × Kind × Target} (member : entry ∈ names.capturing taken drafts) :
    (∃ draft ∈ drafts, draft.target? = some entry.2) ∨ entry ∈ names := by
  obtain captured | known := List.mem_append.mp member
  · obtain ⟨⟨name, draft⟩, given, is⟩ := List.mem_filterMap.mp captured
    obtain ⟨found, known, rfl⟩ := Option.map_eq_some_iff.mp is
    exact .inl ⟨draft, (List.of_mem_zip given).2, known⟩
  · exact .inr known

theorem isSome_lookup_capturing (taken : List String) (drafts : List Draft) {name : String}
    (known : (names.lookup name).isSome) : ((names.capturing taken drafts).lookup name).isSome := by
  simp [capturing, List.lookup_append, known]

end Names

/-- What stands for a variable of the session is a grammar that is there from the start. -/
theorem Operand.base_of_target? {operand : Operand} {kind : Kind} {target : Target}
    (is : operand.draft.target? = some (kind, target)) : ∃ cell, target = .base cell := by
  obtain value | ⟨kind, tag, rule⟩ := operand
  · cases is
  · cases rule with
    | object tag traced body =>
      cases body with
      | recursive cell | placeholder cell => exact ⟨cell, (congrArg Prod.snd (Option.some.inj is)).symm⟩
      | _ => cases is
    | _ => cases is

section Plays
variable (allowed : String → Prop) (cast : Cast) (awake : Key → Prop)

mutual

/-- A rule that runs as a blueprint says. -/
inductive Rule.Plays : Rule → Blueprint → Prop
  | leaf (recognise : Leaf) : Plays (.leaf recognise) (.leaf recognise)
  | object {body part} (tag : Tag) (traced : Bool) : Plays body part →
      Plays (.object tag traced body) (.object part)
  | sequence {first second one two} (kind other : Kind) : Plays first one → Plays second two →
      Plays (.sequence kind other first second) (.sequence kind other one two)
  | orElse {first second one two} : Plays first one → Plays second two →
      Plays (.orElse first second) (.orElse one two)
  | either {rules parts} : Rule.AllPlay rules parts → Plays (.either rules) (.either parts)
  | optional {operand part} (kind : Kind) : Plays operand part →
      Plays (.optional kind operand) (.optional kind part)
  | many {operand part} (kind : Kind) (tag : Tag) : Plays operand part →
      Plays (.many kind tag operand) (.many kind part)
  | oneOrMore {operand part} (kind : Kind) : Plays operand part →
      Plays (.oneOrMore kind operand) (.oneOrMore kind part)
  | times {operand part} (kind : Kind) (count : Nat) : Plays operand part →
      Plays (.times kind count operand) (.times kind count part)
  | separated {first rest one two} (kind : Kind) : Plays first one → Plays rest two →
      Plays (.separated kind first rest) (.separated kind one two)
  | captured {operand part} (kind : Kind) : Plays operand part →
      Plays (.captured kind operand) (.captured kind part)
  | valued {operand part} (value : Value) : Plays operand part →
      Plays (.valued value operand) (.valued value part)
  | erased {operand part} : Plays operand part → Plays (.erased operand) (.erased part)
  | map {operand part} (transform : Value → Except Fault Value) : Plays operand part →
      Plays (.map transform operand) (.map transform part)
  | filter {operand part} (accept : Value → Except Fault Bool) : Plays operand part →
      Plays (.filter accept operand) (.filter accept part)
  | bind {scope : Scope} {names : Names} {continuation operand part} : scope.Plays cast names → names.Stay awake →
      names.Nested → (∀ value, (continuation value).Plain (names.Knows allowed)) →
      Plays operand part → Plays (.bind scope continuation operand) (.bind names continuation part)
  | retaining {operand part} (held : List CellId) : Plays operand part →
      Plays (.retaining held operand) (.retaining part)
  | recursive {cell target} : cast cell = some target → target.outer.Stay awake →
      Plays (.recursive cell) (.invoke target)
  | placeholder {cell target} : cast cell = some target → target.Stays awake →
      target.outer.Stay awake → Plays (.placeholder cell) (.invoke target)

inductive Rule.AllPlay : List Rule → List Blueprint → Prop
  | nil : AllPlay [] []
  | cons {rule part rules parts} : Rule.Plays rule part → AllPlay rules parts →
      AllPlay (rule :: rules) (part :: parts)

end

end Plays

section Mono
variable {allowed : String → Prop} {cast further : Cast} {awake wider : Key → Prop}

theorem Target.Stays.mono {target : Target} (stays : target.Stays awake)
    (wakes : ∀ key, awake key → wider key) : target.Stays wider := by
  cases target with
  | base cell => exact stays
  | inner key => exact wakes key stays

theorem Names.Stay.mono {names : Names} (stay : names.Stay awake)
    (wakes : ∀ key, awake key → wider key) : names.Stay wider :=
  fun entry member => (stay entry member).mono wakes

theorem Scope.Plays.mono {scope : Scope} {names : Names} (plays : scope.Plays cast names)
    (more : further.Extends cast) : scope.Plays further names :=
  plays.imp fun _ _ same => ⟨same.1, same.2.1, more same.2.2⟩

mutual

theorem Rule.Plays.mono {rule : Rule} {part : Blueprint} (plays : rule.Plays allowed cast awake part)
    (more : further.Extends cast) (wakes : ∀ key, awake key → wider key) :
    rule.Plays allowed further wider part := by
  cases plays with
  | leaf recognise => exact .leaf recognise
  | object tag traced body => exact .object tag traced (body.mono more wakes)
  | sequence kind other first second => exact .sequence kind other (first.mono more wakes) (second.mono more wakes)
  | orElse first second => exact .orElse (first.mono more wakes) (second.mono more wakes)
  | either all => exact .either (all.mono more wakes)
  | optional kind operand => exact .optional kind (operand.mono more wakes)
  | many kind tag operand => exact .many kind tag (operand.mono more wakes)
  | oneOrMore kind operand => exact .oneOrMore kind (operand.mono more wakes)
  | times kind count operand => exact .times kind count (operand.mono more wakes)
  | separated kind first rest => exact .separated kind (first.mono more wakes) (rest.mono more wakes)
  | captured kind operand => exact .captured kind (operand.mono more wakes)
  | valued value operand => exact .valued value (operand.mono more wakes)
  | erased operand => exact .erased (operand.mono more wakes)
  | map transform operand => exact .map transform (operand.mono more wakes)
  | filter accept operand => exact .filter accept (operand.mono more wakes)
  | bind scope stay nested plain operand =>
    exact .bind (scope.mono more) (stay.mono wakes) nested plain (operand.mono more wakes)
  | retaining held operand => exact .retaining held (operand.mono more wakes)
  | recursive known stay => exact .recursive (more known) (stay.mono wakes)
  | placeholder known stays stay =>
    exact .placeholder (more known) (stays.mono wakes) (stay.mono wakes)

theorem Rule.AllPlay.mono {rules : List Rule} {parts : List Blueprint}
    (all : Rule.AllPlay allowed cast awake rules parts) (more : further.Extends cast)
    (wakes : ∀ key, awake key → wider key) : Rule.AllPlay allowed further wider rules parts := by
  cases all with
  | nil => exact .nil
  | cons first rest => exact .cons (first.mono more wakes) (rest.mono more wakes)

end

end Mono

end TextGrammar
