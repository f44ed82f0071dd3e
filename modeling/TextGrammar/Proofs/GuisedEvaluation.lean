import TextGrammar.Proofs.Guises

/-! Evaluation in different guises. What one session makes of an expression, the other one makes of an
expression that resembles it: the same objects in the same order, and if there is a fault, one that
differs in names at most. Leaves are not asked for anything here. -/

namespace TextGrammar
open TextGrammar.Action

namespace Guise
variable {α β γ δ : Type}

/-- How two actions end alike. -/
inductive Ends (guise : Guise) (answers : α → β → Prop) :
    Except Halt α × Store → Except Halt β × Store → Prop
  | answer {answer other store after} : answers answer other → guise.Stores store after →
      Ends guise answers (.ok answer, store) (.ok other, after)
  | fault {fault other store after} : guise.Faults fault other → guise.Stores store after →
      Ends guise answers (.error (.fault fault), store) (.error (.fault other), after)
  | exhausted {store after} : guise.Stores store after →
      Ends guise answers (.error .exhausted, store) (.error .exhausted, after)

/-- Actions that do the same in another guise. -/
def Actions (guise : Guise) (answers : α → β → Prop) (first : Action α) (second : Action β) : Prop :=
  ∀ ⦃store other⦄, guise.Stores store other → guise.Ends answers (first.exec store) (second.exec other)

variable {guise : Guise}

namespace Actions
variable {answers : α → β → Prop} {results : γ → δ → Prop} {first : Action α} {second : Action β}

theorem pure {answer : α} {other : β} (same : answers answer other) :
    guise.Actions answers (Pure.pure answer) (Pure.pure other) :=
  fun _ _ stores => .answer same stores

theorem exhausted : guise.Actions answers (throw .exhausted) (throw .exhausted) :=
  fun _ _ stores => .exhausted stores

theorem fails {fault other : Fault} (same : guise.Faults fault other) :
    guise.Actions answers (fail fault) (fail other) :=
  fun _ _ stores => .fault same stores

theorem bind {next : α → Action γ} {later : β → Action δ} (same : guise.Actions answers first second)
    (rest : ∀ answer other, answers answer other → guise.Actions results (next answer) (later other)) :
    guise.Actions results (first >>= next) (second >>= later) := by
  intro store other stores
  have ended := same stores
  rw [exec_bind, exec_bind]
  generalize first.exec store = one at ended
  generalize second.exec other = two at ended
  cases ended with
  | answer same stores => exact rest _ _ same stores
  | fault same stores => exact .fault same stores
  | exhausted stores => exact .exhausted stores

/-- What would follow a fault makes no difference. -/
theorem fails_bind {fault other : Fault} (same : guise.Faults fault other) {next : α → Action γ}
    {later : β → Action δ} :
    guise.Actions results (fail fault >>= next) (fail other >>= later) :=
  fun _ _ stores => .fault same stores

theorem map {change : α → γ} {alter : β → δ} (same : guise.Actions answers first second)
    (rest : ∀ answer other, answers answer other → results (change answer) (alter other)) :
    guise.Actions results (change <$> first) (alter <$> second) := by
  rw [map_eq_pure_bind, map_eq_pure_bind]
  exact same.bind fun answer other related => pure (rest answer other related)

theorem imp {wide : α → β → Prop} (same : guise.Actions answers first second)
    (implies : ∀ answer other, answers answer other → wide answer other) :
    guise.Actions wide first second := by
  intro store other stores
  have ended := same stores
  generalize first.exec store = one at ended ⊢
  generalize second.exec other = two at ended ⊢
  cases ended with
  | answer same stores => exact .answer (implies _ _ same) stores
  | fault same stores => exact .fault same stores
  | exhausted stores => exact .exhausted stores

theorem ofExcept (outcome : Except Fault α) :
    guise.Actions Eq (Action.ofExcept outcome) (Action.ofExcept outcome) := by
  cases outcome with
  | ok answer => exact pure rfl
  | error fault => exact fails (.refl fault)

theorem get : guise.Actions guise.Stores (MonadState.get : Action Store) (MonadState.get : Action Store) :=
  fun _ _ stores => .answer stores stores

theorem changing {change alter : Store → Store}
    (keeps : ∀ {store other}, guise.Stores store other → guise.Stores (change store) (alter other)) :
    guise.Actions (fun _ _ => True) (modify change : Action PUnit) (modify alter : Action PUnit) :=
  fun _ _ stores => .answer trivial (keeps stores)

theorem records {event other : Event} (same : guise.Logged event other) :
    guise.Actions (fun _ _ => True) (Action.record event) (Action.record other) :=
  changing fun stores => stores.records same

theorem attempt (same : guise.Actions answers first second) :
    guise.Actions (guise.Outcomes answers) (Action.attempt first) (Action.attempt second) := by
  intro store other stores
  have ended := same stores
  rw [exec_attempt, exec_attempt]
  generalize first.exec store = one at ended ⊢
  generalize second.exec other = two at ended ⊢
  cases ended with
  | answer same stores => exact .answer (.answer same) stores
  | fault same stores => exact .answer (.fault same) stores
  | exhausted stores => exact .exhausted stores

theorem ensuring {cleanup tidying : Store → Store} (same : guise.Actions answers first second)
    (keeps : ∀ {store other}, guise.Stores store other → guise.Stores (cleanup store) (tidying other)) :
    guise.Actions answers (Action.ensuring first cleanup) (Action.ensuring second tidying) := by
  intro store other stores
  have ended := same stores
  rw [exec_ensuring, exec_ensuring]
  generalize first.exec store = one at ended ⊢
  generalize second.exec other = two at ended ⊢
  cases ended with
  | answer same stores => exact .answer same (keeps stores)
  | fault same stores => exact .fault same (keeps stores)
  | exhausted stores => exact .exhausted (keeps stores)

theorem mapM {items : List γ} {others : List δ} {action : γ → Action α} {acting : δ → Action β}
    (all : List.Forall₂ results items others)
    (each : ∀ item other, results item other → guise.Actions answers (action item) (acting other)) :
    guise.Actions (List.Forall₂ answers) (items.mapM action) (others.mapM acting) := by
  induction all with
  | nil => exact pure .nil
  | cons same _ ih =>
    rw [List.mapM_cons, List.mapM_cons]
    exact (each _ _ same).bind fun _ _ one => ih.bind fun _ _ rest => pure (.cons one rest)

/-- A branch that does not depend on names and leaves. -/
theorem branch {condition : Prop} [Decidable condition] {third : Action α} {fourth : Action β}
    (yes : guise.Actions answers first second) (no : guise.Actions answers third fourth) :
    guise.Actions answers (if condition then first else third) (if condition then second else fourth) := by
  split
  · exact yes
  · exact no

theorem nameOf {grammar other : Grammar} (same : guise.Grammars grammar other) :
    guise.Actions guise.Names (Action.nameOf grammar) (Action.nameOf other) := by
  intro store after stores
  obtain ⟨kind, tag, -⟩ := same
  exact .answer (stores.nameOf rfl) stores

theorem newGrammar (kind : Kind) {name rename : String} (names : guise.Names name rename)
    {rule other : Rule} (rules : guise.Rules rule other) :
    guise.Actions guise.Grammars (Action.newGrammar kind name rule) (Action.newGrammar kind rename other) := by
  intro store after stores
  have made : guise.Grammars ⟨kind, store.names.size, .object store.names.size store.verbose rule⟩
      ⟨kind, after.names.size, .object after.names.size after.verbose other⟩ := by
    rw [stores.objects]
    exact .same _ _ (.object _ stores.verbose rules)
  refine .answer made (stores.withNames (by simp [stores.objects]) fun fixed => ?_)
  rw [stores.names fixed, names fixed]

end Actions

section Operations
variable {grammar grammar' next next' : Grammar} {operand operand' following following' : Operand}

/-- A new object that is named after an old one. -/
theorem Actions.around (same : guise.Grammars grammar grammar') (kind : Kind) (name : String → String)
    {rule other : Rule} (rules : guise.Rules rule other) :
    guise.Actions guise.Grammars (do Action.newGrammar kind (name (← Action.nameOf grammar)) rule)
      (do Action.newGrammar kind (name (← Action.nameOf grammar')) other) :=
  (Actions.nameOf same).bind fun _ _ names => .newGrammar kind (names.map name) rules

/-- A new object that is named after two. -/
theorem Actions.between (one : guise.Grammars grammar grammar') (two : guise.Grammars next next') (kind : Kind)
    (name : String → String → String) {rule other : Rule} (rules : guise.Rules rule other) :
    guise.Actions guise.Grammars
      (do Action.newGrammar kind (name (← Action.nameOf grammar) (← Action.nameOf next)) rule)
      (do Action.newGrammar kind (name (← Action.nameOf grammar') (← Action.nameOf next')) other) := by
  refine (Actions.nameOf one).bind fun _ _ first => (Actions.nameOf two).bind fun _ _ second => ?_
  exact .newGrammar kind (fun fixed => by rw [first fixed, second fixed]) rules

theorem Actions.literal (word : String) :
    guise.Actions guise.Grammars (Grammar.literal word) (Grammar.literal word) :=
  .newGrammar _ (.refl _) (.known (.literal word))

namespace Grammars
variable (same : guise.Grammars grammar grammar')
include same

theorem followedByGrammar (then' : guise.Grammars next next') :
    guise.Actions guise.Grammars (grammar.followedByGrammar next) (grammar'.followedByGrammar next') := by
  have named := Actions.between same then'
  obtain ⟨kind, tag, one⟩ := same
  obtain ⟨other, label, two⟩ := then'
  exact named _ (fun name rename => s!"({name}, {rename})") (.sequence _ _ one two)

theorem followedBy (then' : guise.Operands following following') :
    guise.Actions guise.Grammars (grammar.followedBy following) (grammar'.followedBy following') := by
  cases then' with
  | grammar made => exact same.followedByGrammar made
  | raw value =>
    cases value with
    | str word => exact (Actions.literal word).bind fun _ _ made => same.followedByGrammar made
    | _ =>
      obtain ⟨kind, tag, -⟩ := same
      exact .fails (.refl _)

theorem choice (or : guise.Grammars next next') :
    guise.Actions guise.Grammars (grammar.choice next) (grammar'.choice next') := by
  have named := Actions.between same or
  obtain ⟨kind, tag, one⟩ := same
  obtain ⟨other, label, two⟩ := or
  exact named _ (fun name rename => s!"{name} or {rename}") (.orElse one two)

end Grammars

theorem Operands.asAlternative (same : guise.Operands operand operand') (kind : Kind) :
    guise.Actions (Option.Rel guise.Grammars) (Grammar.asAlternative kind operand)
      (Grammar.asAlternative kind operand') := by
  cases same with
  | grammar made =>
    obtain ⟨other, tag, rules⟩ := made
    refine .pure ?_
    dsimp only
    split
    · exact .some (.same _ _ rules)
    · exact .none
  | raw value =>
    cases value with
    | str word => exact .branch ((Actions.literal word).map fun _ _ made => .some made) (.pure .none)
    | _ => exact .pure .none

theorem Operands.notAlternative (same : guise.Operands operand operand') (kind : Kind) :
    guise.Actions guise.Faults (Grammar.notAlternative kind operand) (Grammar.notAlternative kind operand') := by
  cases same with
  | grammar made =>
    exact (Actions.nameOf made).bind fun _ _ names =>
      .pure (names.faults (.otherKindAlternative kind) (fun _ _ => rfl) fun _ _ => rfl)
  | raw value => exact .pure (.refl _)

/-- An alternative, or the fault of what is none. -/
theorem Operands.alternative {answers : α → β → Prop} (same : guise.Operands operand operand') (kind : Kind)
    {found : Grammar → Action α} {finding : Grammar → Action β}
    (rest : ∀ made other, guise.Grammars made other → guise.Actions answers (found made) (finding other)) :
    guise.Actions answers
      (do match ← Grammar.asAlternative kind operand with
        | some made => found made
        | none => fail (← Grammar.notAlternative kind operand))
      (do match ← Grammar.asAlternative kind operand' with
        | some made => finding made
        | none => fail (← Grammar.notAlternative kind operand')) := by
  refine (same.asAlternative kind).bind fun _ _ chosen => ?_
  cases chosen with
  | some made => exact rest _ _ made
  | none => exact (same.notAlternative kind).bind fun _ _ faults => .fails faults

theorem Grammars.orElse (same : guise.Grammars grammar grammar') (or : guise.Operands following following') :
    guise.Actions guise.Grammars (grammar.orElse following) (grammar'.orElse following') := by
  have choice {next next' : Grammar} (other : guise.Grammars next next') := same.choice other
  obtain ⟨kind, tag, one⟩ := same
  exact or.alternative kind fun _ _ made => choice made

theorem Actions.either (kind : Kind) {operands others : List Operand}
    (all : List.Forall₂ guise.Operands operands others) :
    guise.Actions guise.Grammars (Grammar.either kind operands) (Grammar.either kind others) := by
  refine (Actions.mapM all fun _ _ same => same.alternative kind fun _ _ made => .pure made).bind
    fun alternatives others made => ?_
  refine (Actions.mapM made fun _ _ same => .nameOf same).bind fun names renames same => ?_
  refine .newGrammar kind (fun fixed => ?_) (.either (.of_forall ?_))
  · have equal : names = renames := List.forall₂_eq_eq_eq ▸ same.imp fun _ _ name => name fixed
    rw [equal]
  · rw [List.forall₂_map_left_iff, List.forall₂_map_right_iff]
    exact made.imp fun _ _ grammar => by
      obtain ⟨_, _, rules⟩ := grammar
      exact rules

theorem Grammars.repetitions (same : guise.Grammars grammar grammar') (count : Value) :
    guise.Actions Eq (grammar.repetitions count) (grammar'.repetitions count) := by
  have given (counted : Bool × Except Fault Int) :
      guise.Actions Eq (Pure.pure counted : Action _) (Pure.pure counted) := .pure rfl
  unfold Grammar.repetitions
  dsimp only
  split
  case h_3 => exact .fails_bind (.refl _)
  all_goals
    refine (given _).bind fun counted _ same => ?_
    subst same
    refine (Actions.ofExcept counted.2).bind fun times _ same => ?_
    subst same
    refine .branch (.fails_bind (.refl _)) ?_
    refine .branch ?_ (.pure rfl)
    refine (Actions.nameOf ‹_›).bind fun _ _ names => .fails_bind ?_
    exact names.faults (.negativeTimes · times) (fun _ _ => rfl) fun _ _ => rfl

theorem Grammars.times (same : guise.Grammars grammar grammar') (count : Value) :
    guise.Actions guise.Grammars (grammar.times count) (grammar'.times count) := by
  refine (same.repetitions count).bind fun repetitions _ equal => ?_
  subst equal
  have named := Actions.around same
  obtain ⟨kind, tag, rules⟩ := same
  refine named _ (fun name => s!"{name} * {repetitions}") ?_
  cases count with
  | float number => exact .known (.failing _)
  | _ => exact .times _ _ rules

theorem Operands.asPattern (same : guise.Operands operand operand') :
    guise.Actions guise.Grammars (Grammar.asPattern operand) (Grammar.asPattern operand') := by
  cases same with
  | grammar made =>
    have named := Actions.around made
    obtain ⟨kind, tag, rules⟩ := made
    cases kind with
    | pattern => exact .pure (.same _ _ rules)
    | parser => exact named _ id (.erased rules)
  | raw value =>
    cases value with
    | str word => exact .literal word
    | _ => exact .fails (.refl _)

theorem Grammars.separatedBy (same : guise.Grammars grammar grammar')
    (between : guise.Operands following following') :
    guise.Actions guise.Grammars (grammar.separatedBy following) (grammar'.separatedBy following') := by
  refine between.asPattern.bind fun _ _ pattern => (pattern.followedByGrammar same).bind fun _ _ rest => ?_
  have named := Actions.between same rest
  obtain ⟨kind, tag, rules⟩ := same
  obtain ⟨other, label, others⟩ := rest
  exact named _ (fun name rename => "(" ++ name ++ ", \x7b " ++ rename ++ " \x7d)") (.separated _ rules others)

theorem Operands.valueFor (same : guise.Operands operand operand') (value : Value) :
    guise.Actions guise.Grammars (Grammar.valueFor operand value) (Grammar.valueFor operand' value) := by
  refine same.asPattern.bind fun _ _ pattern => ?_
  have named := Actions.around pattern
  obtain ⟨kind, tag, rules⟩ := pattern
  exact named _ id (.valued value rules)

theorem Grammars.returning (same : guise.Grammars grammar grammar') (value : Value) :
    guise.Actions guise.Grammars (grammar.returning value) (grammar'.returning value) := by
  have valued := Operands.valueFor (.grammar same) value
  obtain ⟨kind, tag, rules⟩ := same
  cases kind with
  | pattern => exact valued
  | parser => exact .fails (.refl _)

theorem Grammars.ofParser (same : guise.Grammars grammar grammar') (member : String) (kind : Kind)
    (name : String → String) {rule other : Rule → Rule}
    (rules : ∀ {first second}, guise.Rules first second → guise.Rules (rule first) (other second)) :
    guise.Actions guise.Grammars (grammar.ofParser member kind name rule)
      (grammar'.ofParser member kind name other) := by
  have named := Actions.around same
  obtain ⟨own, tag, one⟩ := same
  cases own with
  | parser => exact named kind name (rules one)
  | pattern => exact .fails (.refl _)

theorem Grammars.named (same : guise.Grammars grammar grammar') {name rename : String}
    (names : guise.Names name rename) :
    guise.Actions guise.Grammars (grammar.named name) (grammar'.named rename) := by
  have renamed : guise.Actions (fun _ _ => True)
      (modify fun store => { store with names := store.names.setIfInBounds grammar.tag name } : Action PUnit)
      (modify fun store => { store with names := store.names.setIfInBounds grammar'.tag rename } : Action PUnit) := by
    obtain ⟨kind, tag, -⟩ := same
    refine .changing fun stores => stores.withNames (by simp [stores.objects]) fun fixed => ?_
    rw [stores.names fixed, names fixed]
  exact renamed.bind fun _ _ _ => .pure same

theorem Grammars.copy (same : guise.Grammars grammar grammar') :
    guise.Actions guise.Grammars grammar.copy grammar'.copy := by
  have named := Actions.around same
  obtain ⟨kind, tag, rules⟩ := same
  exact named kind (fun name => if name.isEmpty then kind.description else name) rules

theorem Operands.asGrammar (same : guise.Operands operand operand') (member : String) :
    guise.Actions guise.Grammars (operand.asGrammar member) (operand'.asGrammar member) := by
  cases same with
  | raw value => exact .fails (.refl _)
  | grammar made => exact .pure made

end Operations

/-- What two expressions stand for. Both stand for grammars if one of them always does. -/
structure Made (guise : Guise) (certain : Prop) (operand other : Operand) : Prop where
  operands : guise.Operands operand other
  grammar : certain → operand.isGrammar

section Operands
variable {first first' second second' : Operand} {certain sure : Prop}

theorem Made.of_grammar {made other : Grammar} (same : guise.Grammars made other) :
    guise.Made certain (.grammar made) (.grammar other) := ⟨.grammar same, fun _ => trivial⟩

/-- A new grammar as an operand. -/
theorem Actions.made {action acting : Action Grammar} (same : guise.Actions guise.Grammars action acting) :
    guise.Actions (guise.Made certain) (Operand.grammar <$> action) (Operand.grammar <$> acting) :=
  same.map fun _ _ => .of_grammar

theorem Actions.raw (outcome : Except Fault Value) (none : ¬ certain) :
    guise.Actions (guise.Made certain) (Operand.raw <$> Action.ofExcept outcome)
      (Operand.raw <$> Action.ofExcept outcome) :=
  (Actions.ofExcept outcome).map fun value _ same => same ▸ ⟨.raw value, fun is => absurd is none⟩

theorem Made.sum (one : guise.Made certain first first') (two : guise.Made sure second second') :
    guise.Actions (guise.Made (certain ∨ sure)) (first.sum second) (first'.sum second') := by
  obtain ⟨one, certainly⟩ := one
  obtain ⟨two, surely⟩ := two
  cases one with
  | grammar made =>
    cases two with
    | grammar other => exact .made (made.followedBy (.grammar other))
    | raw value =>
      obtain ⟨kind, tag, rules⟩ := made
      cases value with
      | str word => exact .made (Grammars.followedBy (.same kind tag rules) (.raw (.str word)))
      | _ => exact .fails (.refl _)
  | raw value =>
    cases two with
    | raw other =>
      cases value with
      | str word => exact .raw _ fun is => is.elim certainly surely
      | _ => exact .raw _ fun is => is.elim certainly surely
    | grammar made =>
      cases value with
      | str word =>
        exact (Actions.literal word).bind fun _ _ other => (other.followedBy (.grammar made)).bind
          fun _ _ whole => .pure (.of_grammar whole)
      | _ =>
        obtain ⟨kind, tag, rules⟩ := made
        exact .fails (.refl _)

theorem Made.union (one : guise.Made certain first first') (two : guise.Made sure second second') :
    guise.Actions (guise.Made (certain ∨ sure)) (first.union second) (first'.union second') := by
  obtain ⟨one, certainly⟩ := one
  obtain ⟨two, surely⟩ := two
  cases one with
  | grammar made =>
    have choice {next next' : Grammar} (other : guise.Grammars next next') := made.choice other
    obtain ⟨kind, tag, rules⟩ := made
    refine (two.asAlternative kind).bind fun _ _ chosen => ?_
    cases chosen with
    | some other => exact .made (choice other)
    | none =>
      cases two with
      | raw value => exact .fails (.refl _)
      | grammar other =>
        obtain ⟨_, _, _⟩ := other
        exact .fails (.refl _)
  | raw value =>
    cases two with
    | raw other => exact .raw _ fun is => is.elim certainly surely
    | grammar made =>
      have choice {next next' : Grammar} (other : guise.Grammars next next') := other.choice made
      obtain ⟨kind, tag, rules⟩ := made
      refine (Operands.asAlternative (.raw value) kind).bind fun _ _ chosen => ?_
      cases chosen with
      | some other => exact .made (choice other)
      | none => exact .fails (.refl _)

theorem Made.negated (one : guise.Made certain first first') :
    guise.Actions (guise.Made certain) first.negated first'.negated := by
  obtain ⟨one, certainly⟩ := one
  cases one with
  | raw value => exact .raw _ certainly
  | grammar made =>
    have erased := made.ofParser "pattern" .pattern id (fun rules => .erased rules)
    obtain ⟨kind, tag, rules⟩ := made
    cases kind with
    | parser => exact .made erased
    | pattern => exact .fails (.refl _)

theorem Operands.shifted (same : guise.Operands first first') (transform : Value → Except Fault Value)
    (functionType : String) :
    guise.Actions (guise.Made certain) (first.shifted transform functionType)
      (first'.shifted transform functionType) := by
  cases same with
  | raw value => exact .fails (.refl _)
  | grammar made =>
    have mapped := made.ofParser "map" .parser id (fun rules => .map transform rules)
    obtain ⟨kind, tag, rules⟩ := made
    cases kind with
    | parser => exact .made mapped
    | pattern => exact .fails (.refl _)

theorem Made.times (one : guise.Made certain first first') (count : Value) :
    guise.Actions (guise.Made certain) (first.times count) (first'.times count) := by
  obtain ⟨one, certainly⟩ := one
  cases one with
  | grammar made => exact (made.times count).bind fun _ _ whole => .pure (.of_grammar whole)
  | raw value =>
    cases value with
    | str text => exact .raw _ certainly
    | _ => exact .fails_bind (.refl _)

theorem Made.copy (one : guise.Made certain first first') :
    guise.Actions (guise.Made certain) first.copy first'.copy := by
  obtain ⟨one, certainly⟩ := one
  cases one with
  | grammar made => exact .made made.copy
  | raw value =>
    cases value with
    | null => exact .fails (.refl _)
    | _ => exact .pure ⟨.raw _, certainly⟩

theorem Made.retaining (one : guise.Made certain first first') (held : List CellId) :
    guise.Made certain (first.retaining held) (first'.retaining held) :=
  ⟨one.operands.retaining held, fun is => by
    cases first with
    | raw value => exact one.grammar is
    | grammar made => trivial⟩

end Operands

section Evaluation
variable {scope scoping : Scope}

theorem Scopes.lookUp (scopes : guise.Scopes scope scoping) (name : String) :
    guise.Actions (guise.Made (guise.grammatical name)) (lookUp scope name) (lookUp scoping name) := by
  unfold TextGrammar.lookUp
  have found := scopes.lookup name
  generalize scope.lookup name = one at found
  generalize scoping.lookup name = two at found
  cases found with
  | some same => exact .pure (.of_grammar same.grammar)
  | none =>
    refine Actions.get.bind fun store other stores => ?_
    have held := stores.lookup name
    generalize store.assigned? name = one at held
    generalize other.assigned? name = two at held
    cases held with
    | some same => exact .pure ⟨same.operands, same.grammar⟩
    | none => exact .fails (.refl _)

/-- What several names stand for. -/
theorem Scopes.lookUpAll (scopes : guise.Scopes scope scoping) (names : List String) :
    guise.Actions (List.Forall₂ guise.Operands) (names.mapM (TextGrammar.lookUp scope))
      (names.mapM (TextGrammar.lookUp scoping)) :=
  .mapM (List.forall₂_same.mpr fun _ _ => rfl) fun name _ same =>
    same ▸ (scopes.lookUp name).imp fun _ _ made => made.operands

theorem Operands.ownedByAll {operands others : List Operand} (all : List.Forall₂ guise.Operands operands others) :
    operands.flatMap Operand.owned = others.flatMap Operand.owned := by
  induction all with
  | nil => rfl
  | cons same _ ih => rw [List.flatMap_cons, List.flatMap_cons, same.owned, ih]

/-- Cells are made at the same places, with builders that do the same. -/
theorem Actions.recursive (kind : Kind) (binder : String) (limit : Option Depth.Request) {script scripted : Nat → Script}
    (scripts : ∀ call, guise.Scripts (script call) (scripted call)) (scopes : guise.Scopes scope scoping) :
    guise.Actions guise.Grammars (Grammar.recursive kind binder limit script scope)
      (Grammar.recursive kind binder limit scripted scoping) := by
  have granted : guise.Actions Eq
      (limit.mapM fun requested => do
        let granted ← Action.ofExcept (Depth.clamp requested Depth.reserve)
        if granted.lowered then Action.record (.lowered requested granted.limit)
        return granted.limit.toNat)
      (limit.mapM fun requested => do
        let granted ← Action.ofExcept (Depth.clamp requested Depth.reserve)
        if granted.lowered then Action.record (.lowered requested granted.limit)
        return granted.limit.toNat) := by
    cases limit with
    | none => exact .pure rfl
    | some requested =>
      rw [Option.mapM_some]
      refine Actions.map ((Actions.ofExcept _).bind fun granted _ same => ?_) fun _ _ same => congrArg some same
      subst same
      exact .branch ((Actions.records (.refl _)).bind fun _ _ _ => .pure rfl) (.pure rfl)
  have celled : guise.Actions Eq (Grammar.newCell kind s!"recursive {kind.noun}" limit)
      (Grammar.newCell kind s!"recursive {kind.noun}" limit) := by
    refine granted.bind fun limit _ same => ?_
    subst same
    intro store other stores
    rw [exec_bind_ok (exec_get store), exec_bind_ok (exec_get other)]
    refine .answer stores.size (stores.pushCell ?_)
    exact ⟨rfl, rfl, rfl, .none, .none, rfl, rfl, rfl⟩
  refine celled.bind fun cell _ same => ?_
  subst same
  refine Actions.get.bind fun store other stores => ?_
  refine (Actions.newGrammar kind (.refl _) (.placeholder cell)).bind fun _ _ standIn => ?_
  obtain ⟨own, tag, -⟩ := standIn
  have placeholders := Placeholders.same kind tag cell false stores.verbose
  have bound : guise.Actions (fun _ _ => True)
      (Grammar.setBuilder cell ⟨script, (binder, ⟨kind, tag, store.verbose, cell, false⟩) :: scope⟩)
      (Grammar.setBuilder cell ⟨scripted, (binder, ⟨kind, tag, other.verbose, cell, false⟩) :: scoping⟩) :=
    .changing fun stores => stores.updateCell cell fun same =>
      ⟨same.name, same.kind, same.limit, .some ⟨scripts, .cons ⟨rfl, placeholders⟩ scopes⟩, same.definition,
        same.building, same.active, same.calls⟩
  exact bound.bind fun _ _ _ => .newGrammar kind (.refl _) (.recursive cell)

/-- A grammar that is made from one operand. -/
theorem Actions.making {certain sure : Prop} {operand acting : Action Operand} {make making : Grammar → Action Grammar}
    (member : String) (same : guise.Actions (guise.Made certain) operand acting)
    (makes : ∀ made other, guise.Grammars made other → guise.Actions guise.Grammars (make made) (making other)) :
    guise.Actions (guise.Made sure) (do return .grammar (← make (← (← operand).asGrammar member)))
      (do return .grammar (← making (← (← acting).asGrammar member))) :=
  same.bind fun _ _ one => (one.operands.asGrammar member).bind fun _ _ made =>
    (makes _ _ made).bind fun _ _ whole => .pure (.of_grammar whole)

/-- A store in which an object has another name. -/
theorem Stores.renamed {store other : Store} (stores : guise.Stores store other) (renames : guise.renames)
    (tag : Tag) (name : String) :
    guise.Stores { store with names := store.names.setIfInBounds tag name } other ∧
      guise.Stores store { other with names := other.names.setIfInBounds tag name } :=
  ⟨stores.withNames (by simp [stores.objects]) fun fixed => absurd renames fixed,
    stores.withNames (by simp [stores.objects]) fun fixed => absurd renames fixed⟩

mutual

theorem Expressions.evaluate {expression other : Expression} (same : guise.Expressions expression other)
    {scope scoping : Scope} (scopes : guise.Scopes scope scoping) :
    guise.Actions (guise.Made (expression.makes guise.grammatical ∨ other.makes guise.grammatical))
      (expression.evaluate scope) (other.evaluate scoping) := by
  match same with
  | .raw value => exact .pure ⟨.raw value, fun is => is.elim id id⟩
  | .«variable» name => exact (scopes.lookUp name).imp fun _ _ made => ⟨made.operands, fun is => made.grammar (is.elim id id)⟩
  | .invalid faults => exact .fails faults
  | .leaf kind name leaves => exact .made (.newGrammar kind (.refl _) (.leaf leaves))
  | .constant shared => exact .pure (.of_grammar (.constant shared))
  | .followedBy one two =>
    rw [Expression.evaluate, Expression.evaluate]
    refine (Expressions.evaluate one scopes).bind fun _ _ one => ?_
    refine (Expressions.evaluate two scopes).bind fun _ _ two => ?_
    exact (one.operands.asGrammar _).bind fun _ _ made => (made.followedBy two.operands).bind fun _ _ whole =>
      .pure (.of_grammar whole)
  | .sum one two =>
    rw [Expression.evaluate, Expression.evaluate]
    refine (Expressions.evaluate one scopes).bind fun _ _ one => ?_
    refine (Expressions.evaluate two scopes).bind fun _ _ two => (one.sum two).imp fun _ _ made => ?_
    refine ⟨made.operands, fun is => made.grammar ?_⟩
    simp only [Expression.makes] at is
    tauto
  | .orElse one two =>
    rw [Expression.evaluate, Expression.evaluate]
    refine (Expressions.evaluate one scopes).bind fun _ _ one => ?_
    refine (Expressions.evaluate two scopes).bind fun _ _ two => ?_
    exact (one.operands.asGrammar _).bind fun _ _ made => (made.orElse two.operands).bind fun _ _ whole =>
      .pure (.of_grammar whole)
  | .union one two =>
    rw [Expression.evaluate, Expression.evaluate]
    refine (Expressions.evaluate one scopes).bind fun _ _ one => ?_
    refine (Expressions.evaluate two scopes).bind fun _ _ two => (one.union two).imp fun _ _ made => ?_
    refine ⟨made.operands, fun is => made.grammar ?_⟩
    simp only [Expression.makes] at is
    tauto
  | .either kind all =>
    rw [Expression.evaluate, Expression.evaluate]
    exact (ExpressionLists.evaluate all scopes).bind fun _ _ all => (Actions.either kind all).bind fun _ _ whole =>
      .pure (.of_grammar whole)
  | .optional one =>
    rw [Expression.evaluate, Expression.evaluate]
    refine .making _ (Expressions.evaluate one scopes) fun _ _ made => ?_
    have named := Actions.around made
    obtain ⟨kind, tag, rules⟩ := made
    exact named kind (fun name => s!"[ {name} ]") (.optional kind rules)
  | .many one =>
    rw [Expression.evaluate, Expression.evaluate]
    refine .making _ (Expressions.evaluate one scopes) fun _ _ made => ?_
    have named := Actions.around made
    obtain ⟨kind, tag, rules⟩ := made
    exact named kind (fun name => "\x7b " ++ name ++ " \x7d") (.many kind tag rules)
  | .oneOrMore one =>
    rw [Expression.evaluate, Expression.evaluate]
    refine .making _ (Expressions.evaluate one scopes) fun _ _ made => ?_
    have named := Actions.around made
    obtain ⟨kind, tag, rules⟩ := made
    exact named kind (fun name => "(" ++ name ++ ", \x7b " ++ name ++ " \x7d)") (.oneOrMore kind rules)
  | .times count one =>
    rw [Expression.evaluate, Expression.evaluate]
    exact (Expressions.evaluate one scopes).bind fun _ _ one => one.times count
  | .separatedBy one two =>
    rw [Expression.evaluate, Expression.evaluate]
    refine (Expressions.evaluate one scopes).bind fun _ _ one => ?_
    refine (Expressions.evaluate two scopes).bind fun _ _ two => ?_
    exact (one.operands.asGrammar _).bind fun _ _ made => (made.separatedBy two.operands).bind fun _ _ whole =>
      .pure (.of_grammar whole)
  | .captured one =>
    rw [Expression.evaluate, Expression.evaluate]
    refine .making _ (Expressions.evaluate one scopes) fun _ _ made => ?_
    have named := Actions.around made
    obtain ⟨kind, tag, rules⟩ := made
    exact named .parser (fun name => s!"text of {name}") (.captured kind rules)
  | .capturedPattern one =>
    rw [Expression.evaluate, Expression.evaluate]
    refine (Expressions.evaluate one scopes).bind fun _ _ one => one.operands.asPattern.bind fun _ _ pattern => ?_
    have named := Actions.around pattern
    obtain ⟨kind, tag, rules⟩ := pattern
    exact (named .parser (fun name => s!"text of {name}") (.captured kind rules)).bind fun _ _ whole =>
      .pure (.of_grammar whole)
  | .returning value one =>
    rw [Expression.evaluate, Expression.evaluate]
    exact .making _ (Expressions.evaluate one scopes) fun _ _ made => made.returning value
  | .valueFor value one =>
    rw [Expression.evaluate, Expression.evaluate]
    exact (Expressions.evaluate one scopes).bind fun _ _ one => (one.operands.valueFor value).bind fun _ _ whole =>
      .pure (.of_grammar whole)
  | .erased one =>
    rw [Expression.evaluate, Expression.evaluate]
    exact .making _ (Expressions.evaluate one scopes) fun _ _ made => made.ofParser _ _ _ .erased
  | .negated one =>
    rw [Expression.evaluate, Expression.evaluate]
    exact (Expressions.evaluate one scopes).bind fun _ _ one => one.negated
  | .map transform one =>
    rw [Expression.evaluate, Expression.evaluate]
    exact .making _ (Expressions.evaluate one scopes) fun _ _ made => made.ofParser _ _ _ (.map transform)
  | .shifted transform functionType one =>
    rw [Expression.evaluate, Expression.evaluate]
    exact (Expressions.evaluate one scopes).bind fun _ _ one => one.operands.shifted transform functionType
  | .filter accept one =>
    rw [Expression.evaluate, Expression.evaluate]
    exact .making _ (Expressions.evaluate one scopes) fun _ _ made => made.ofParser _ _ _ (.filter accept)
  | .bind one continues =>
    rw [Expression.evaluate, Expression.evaluate]
    exact .making _ (Expressions.evaluate one scopes) fun _ _ made => made.ofParser _ _ _ (.bind scopes continues)
  | .named one names =>
    rw [Expression.evaluate, Expression.evaluate]
    exact .making _ (Expressions.evaluate one scopes) fun _ _ made => made.named names
  | .namedFirst name renames makes one =>
    rw [Expression.evaluate, ← bind_pure (other.evaluate scoping)]
    refine (Expressions.evaluate one scopes).bind fun operand other made => ?_
    obtain ⟨operands, grammar⟩ := made
    cases operands with
    | raw value => exact absurd (grammar (.inl makes)) id
    | grammar same =>
      exact fun _ _ stores => .answer (.of_grammar same) (stores.renamed renames _ name).1
  | .namedSecond name renames makes one =>
    rw [Expression.evaluate.eq_def scoping, ← bind_pure (expression.evaluate scope)]
    refine (Expressions.evaluate one scopes).bind fun operand other made => ?_
    obtain ⟨operands, grammar⟩ := made
    cases operands with
    | raw value => exact absurd (grammar (.inr makes)) id
    | grammar same =>
      exact fun _ _ stores => .answer (.of_grammar same) (stores.renamed renames _ name).2
  | .copy one =>
    rw [Expression.evaluate, Expression.evaluate]
    exact (Expressions.evaluate one scopes).bind fun _ _ one => one.copy
  | .capturing names one =>
    rw [Expression.evaluate, Expression.evaluate]
    exact (scopes.lookUpAll names).bind fun _ _ all => Expressions.evaluate one (scopes.capturing names all)
  | .retaining names one =>
    rw [Expression.evaluate, Expression.evaluate]
    refine (scopes.lookUpAll names).bind fun _ _ all => ?_
    rw [Operands.ownedByAll all]
    exact (Expressions.evaluate one scopes).bind fun _ _ one => .pure (one.retaining _)
  | .recursive kind binder limit scripts => exact .made (.recursive kind binder limit scripts scopes)

theorem ExpressionLists.evaluate {expressions others : List Expression}
    (all : guise.ExpressionLists expressions others) {scope scoping : Scope} (scopes : guise.Scopes scope scoping) :
    guise.Actions (List.Forall₂ guise.Operands) (Expression.evaluateAll scope expressions)
      (Expression.evaluateAll scoping others) := by
  match all with
  | .nil => exact .pure .nil
  | .cons one rest =>
    rw [Expression.evaluateAll, Expression.evaluateAll]
    refine (Expressions.evaluate one scopes).bind fun _ _ first => ?_
    exact (ExpressionLists.evaluate rest scopes).bind fun _ _ all => .pure (.cons first.operands all)

end

end Evaluation

end Guise

end TextGrammar
