import TextGrammar.Proofs.Conduct

/-! What makes no difference to a run: which grammars are running besides it, as long as they own the same cells.
A placeholder asks whether its cell has an owner, and nothing else ever asks what is running; so a run under
one grammar does what it does under another one that wraps it. -/

namespace TextGrammar
open TextGrammar.Action

variable {α β : Type}

/-- A store while other rules are running. -/
def Store.amid (store : Store) (rules : List Rule) : Store := { store with running := rules }

/-- Which cells have owners depends on what the running rules own. -/
theorem Store.isOwned_amid {store : Store} {rules : List Rule}
    (same : rules.map Rule.owned = store.running.map Rule.owned) (cell : CellId) :
    (store.amid rules).isOwned cell = store.isOwned cell := by
  have owned : rules.flatMap Rule.owned = store.running.flatMap Rule.owned := by
    rw [List.flatMap_def, same, ← List.flatMap_def]
  have direct := congrArg (store.assigned.flatMap (fun entry => entry.2.owned) ++ ·) owned
  exact @Store.isOwned_congr (store.amid rules) store rfl (fun _ => rfl) (fun _ => rfl) direct cell

/-- An action that heeds of the rules that are running only which cells they own, and leaves them as they are. -/
def Action.Heeds (action : Action α) : Prop :=
  ∀ ⦃store : Store⦄ ⦃rules : List Rule⦄, rules.map Rule.owned = store.running.map Rule.owned →
    (action.exec store).2.running = store.running ∧
      action.exec (store.amid rules) = ((action.exec store).1, (action.exec store).2.amid rules)

/-- A runner that does so with every rule. -/
def Runner.Heeds (runner : Runner) : Prop :=
  ∀ rule text start, (runner rule text start).Heeds

namespace Action.Heeds
variable {action other : Action α} {next : α → Action β}

theorem pure (answer : α) : (Pure.pure answer : Action α).Heeds := fun _ _ _ => ⟨rfl, rfl⟩

theorem halt (halt : Halt) : (throw halt : Action α).Heeds := fun _ _ _ => ⟨rfl, rfl⟩

theorem fail (fault : Fault) : (Action.fail fault : Action α).Heeds := fun _ _ _ => ⟨rfl, rfl⟩

/-- What would follow a fault makes no difference. -/
theorem fail_bind (fault : Fault) (next : α → Action β) : (Action.fail fault >>= next).Heeds :=
  fun _ _ _ => ⟨rfl, rfl⟩

theorem ofExcept (outcome : Except Fault α) : (Action.ofExcept outcome).Heeds := by
  cases outcome with
  | ok answer => exact pure answer
  | error fault => exact fail fault

theorem bind (first : action.Heeds) (rest : ∀ answer, (next answer).Heeds) : (action >>= next).Heeds := by
  intro store rules same
  obtain ⟨kept, amid⟩ := first same
  rw [exec_bind, exec_bind, amid]
  rcases ended : action.exec store with ⟨halt | answer, after⟩ <;> rw [ended] at kept
  · exact ⟨kept, rfl⟩
  · have still : rules.map Rule.owned = after.running.map Rule.owned := same.trans (congrArg _ kept.symm)
    obtain ⟨further, later⟩ := rest answer still
    exact ⟨further.trans kept, later⟩

theorem map (first : action.Heeds) (change : α → β) : (change <$> action).Heeds := by
  rw [map_eq_pure_bind]
  exact first.bind fun _ => pure _

theorem branch {condition : Prop} [Decidable condition] (yes : action.Heeds) (no : other.Heeds) :
    (if condition then action else other).Heeds := by
  split
  · exact yes
  · exact no

theorem mapM {action : α → Action β} (each : ∀ item, (action item).Heeds) (items : List α) :
    (items.mapM action).Heeds := by
  induction items with
  | nil => exact pure []
  | cons item rest ih =>
    rw [List.mapM_cons]
    exact (each item).bind fun _ => ih.bind fun _ => pure _

/-- What reads the store, but not what is running. -/
theorem reading {next : Store → Action α} (same : ∀ (store : Store) rules, next (store.amid rules) = next store)
    (each : ∀ store, (next store).Heeds) : (get >>= next).Heeds := by
  intro store rules owned
  obtain ⟨kept, amid⟩ := each store owned
  refine ⟨kept, Eq.trans ?_ amid⟩
  rw [exec_bind_ok (exec_get _), same]

theorem changing (change : Store → Store) (kept : ∀ store, (change store).running = store.running)
    (same : ∀ (store : Store) rules, change (store.amid rules) = (change store).amid rules) :
    (modify change : Action PUnit).Heeds :=
  fun store rules _ => ⟨kept store, congrArg (Prod.mk _) (same store rules)⟩

theorem record (event : Event) : (Action.record event).Heeds :=
  changing _ (fun _ => rfl) fun _ _ => rfl

theorem cellAt (cell : CellId) : (Action.cellAt cell).Heeds := fun _ _ _ => ⟨rfl, rfl⟩

theorem updateCell (cell : CellId) (change : Cell → Cell) : (Action.updateCell cell change).Heeds :=
  changing _ (fun _ => rfl) fun _ _ => rfl

theorem nameOf (grammar : Grammar) : (Action.nameOf grammar).Heeds := fun _ _ _ => ⟨rfl, rfl⟩

theorem newGrammar (kind : Kind) (name : String) (body : Rule) : (Action.newGrammar kind name body).Heeds :=
  fun _ _ _ => ⟨rfl, rfl⟩

/-- A new object that is named after an old one. -/
theorem around (grammar : Grammar) (kind : Kind) (name : String → String) (rule : Rule) :
    (do Action.newGrammar kind (name (← Action.nameOf grammar)) rule : Action Grammar).Heeds :=
  (nameOf grammar).bind fun _ => newGrammar _ _ _

theorem ensuring (first : action.Heeds) {cleanup : Store → Store} (kept : ∀ store, (cleanup store).running = store.running)
    (same : ∀ (store : Store) rules, cleanup (store.amid rules) = (cleanup store).amid rules) :
    (Action.ensuring action cleanup).Heeds := by
  intro store rules owned
  obtain ⟨still, amid⟩ := first owned
  rw [exec_ensuring, exec_ensuring, amid]
  exact ⟨(kept _).trans still, congrArg (Prod.mk _) (same _ rules)⟩

theorem attempt (first : action.Heeds) : (Action.attempt action).Heeds := by
  intro store rules owned
  obtain ⟨still, amid⟩ := first owned
  rw [exec_attempt, exec_attempt, amid]
  rcases ended : action.exec store with ⟨(_ | _) | answer, after⟩ <;> rw [ended] at still <;> exact ⟨still, rfl⟩

/-- The run of one more rule begins and ends. -/
theorem owning {runner : Runner} (heeds : runner.Heeds) (rule : Rule) (text : Text) (start : Int) :
    (runner.owning rule text start).Heeds := by
  intro store rules same
  have held : (rule :: rules).map Rule.owned = (store.hold rule).running.map Rule.owned := congrArg (rule.owned :: ·) same
  obtain ⟨still, amid⟩ := heeds rule text start held
  have released : (runner.owning rule text start).exec (store.amid rules) =
      (((runner rule text start).exec ((store.hold rule).amid (rule :: rules))).1,
        ((runner rule text start).exec ((store.hold rule).amid (rule :: rules))).2.release) := rfl
  refine ⟨congrArg List.tail still, released.trans ?_⟩
  rw [amid]
  rfl

end Action.Heeds

section Construction
variable {grammar : Grammar} {operand : Operand} {kind : Kind}

namespace Grammar

theorem followedByGrammar_heeds (first second : Grammar) : (first.followedByGrammar second).Heeds :=
  (Heeds.nameOf first).bind fun _ => (Heeds.nameOf second).bind fun _ => .newGrammar _ _ _

theorem literal_heeds (word : String) : (literal word).Heeds := .newGrammar _ _ _

theorem followedBy_heeds (first : Grammar) (second : Operand) : (first.followedBy second).Heeds := by
  unfold followedBy
  split
  · exact followedByGrammar_heeds _ _
  · exact (literal_heeds _).bind fun _ => followedByGrammar_heeds _ _
  · exact .fail _

theorem asAlternative_heeds (kind : Kind) (operand : Operand) : (asAlternative kind operand).Heeds := by
  unfold asAlternative
  split
  · exact .pure _
  next word =>
    have made : (literal word).Heeds := literal_heeds word
    exact .branch (made.map _) (.pure _)
  · exact .pure _

theorem notAlternative_heeds (kind : Kind) (operand : Operand) : (notAlternative kind operand).Heeds := by
  unfold notAlternative
  split
  · exact (Heeds.nameOf _).bind fun _ => .pure _
  · exact .pure _

theorem choice_heeds (first second : Grammar) : (first.choice second).Heeds :=
  (Heeds.nameOf first).bind fun _ => (Heeds.nameOf second).bind fun _ => .newGrammar _ _ _

/-- An alternative, or the fault of what is none. -/
theorem alternative_heeds (kind : Kind) (operand : Operand) {next : Grammar → Action α}
    (rest : ∀ made, (next made).Heeds) :
    (do match ← asAlternative kind operand with
      | some made => next made
      | none => fail (← notAlternative kind operand)).Heeds := by
  refine (asAlternative_heeds kind operand).bind fun found => ?_
  cases found with
  | some made => exact rest made
  | none => exact (notAlternative_heeds kind operand).bind fun _ => .fail _

theorem either_heeds (kind : Kind) (operands : List Operand) : (either kind operands).Heeds := by
  refine (Heeds.mapM (fun operand => alternative_heeds kind operand fun _ => .pure _) operands).bind fun alternatives => ?_
  exact (Heeds.mapM Heeds.nameOf alternatives).bind fun _ => .newGrammar _ _ _

theorem repetitions_heeds (grammar : Grammar) (count : Value) : (grammar.repetitions count).Heeds := by
  have counts (counted : Bool × Except Fault Int) : (pure counted : Action _).Heeds := .pure counted
  unfold repetitions
  dsimp only
  split
  case h_3 => exact .fail_bind _ _
  all_goals
    refine (counts _).bind fun counted => (Heeds.ofExcept counted.2).bind fun times => ?_
    exact .branch (.fail_bind _ _) (.branch ((Heeds.nameOf _).bind fun _ => .fail_bind _ _) (.pure _))

theorem times_heeds (grammar : Grammar) (count : Value) : (grammar.times count).Heeds :=
  (repetitions_heeds grammar count).bind fun _ => .around _ _ _ _

theorem asPattern_heeds (operand : Operand) : (asPattern operand).Heeds := by
  unfold asPattern
  split
  · split
    · exact .pure _
    · exact .around _ _ _ _
  · exact literal_heeds _
  · exact .fail _

theorem separatedBy_heeds (grammar : Grammar) (separator : Operand) : (grammar.separatedBy separator).Heeds :=
  (asPattern_heeds separator).bind fun _ => (followedByGrammar_heeds _ _).bind fun _ =>
    (Heeds.nameOf _).bind fun _ => (Heeds.nameOf _).bind fun _ => .newGrammar _ _ _

theorem valueFor_heeds (operand : Operand) (value : Value) : (valueFor operand value).Heeds :=
  (asPattern_heeds operand).bind fun _ => .around _ _ _ _

theorem returning_heeds (grammar : Grammar) (value : Value) : (grammar.returning value).Heeds := by
  unfold returning
  split
  · exact valueFor_heeds _ value
  · exact .fail _

theorem ofParser_heeds (grammar : Grammar) (member : String) (kind : Kind) (name : String → String) (rule : Rule → Rule) :
    (grammar.ofParser member kind name rule).Heeds := by
  unfold ofParser
  split
  · exact .around _ _ _ _
  · exact .fail _

theorem named_heeds (grammar : Grammar) (name : String) : (grammar.named name).Heeds := fun _ _ _ => ⟨rfl, rfl⟩

theorem newCell_heeds (kind : Kind) (name : String) (limit : Option Depth.Request) : (newCell kind name limit).Heeds := by
  have granting : (limit.mapM fun requested => do
      let granted ← Action.ofExcept (Depth.clamp requested Depth.reserve)
      if granted.lowered then Action.record (.lowered requested granted.limit)
      return granted.limit.toNat : Action (Option Nat)).Heeds := by
    cases limit with
    | none => exact .pure none
    | some requested =>
      rw [Option.mapM_some]
      refine Heeds.map ((Heeds.ofExcept _).bind fun granted => ?_) _
      exact .branch ((Heeds.record _).bind fun _ => .pure _) (.pure _)
  exact granting.bind fun _ _ _ _ => ⟨rfl, rfl⟩

theorem recursive_heeds (kind : Kind) (binder : String) (limit : Option Depth.Request) (script : Nat → Script) (scope : Scope) :
    (recursive kind binder limit script scope).Heeds :=
  (newCell_heeds kind _ limit).bind fun _ => .reading (fun _ _ => rfl) fun _ =>
    (Heeds.newGrammar _ _ _).bind fun _ => (Heeds.updateCell _ _).bind fun _ => .newGrammar _ _ _

end Grammar

namespace Operand

theorem asGrammar_heeds (member : String) (operand : Operand) : (operand.asGrammar member).Heeds := by
  cases operand with
  | raw value => exact .fail _
  | grammar made => exact .pure made

theorem sum_heeds (first second : Operand) : (first.sum second).Heeds := by
  unfold sum
  split
  · exact (Heeds.ofExcept _).map _
  · exact (Grammar.literal_heeds _).bind fun _ => (Grammar.followedBy_heeds _ _).bind fun _ => .pure _
  · exact (Grammar.followedBy_heeds _ _).map _
  · exact (Grammar.followedBy_heeds _ _).map _
  · exact .fail _

theorem union_heeds (first second : Operand) : (first.union second).Heeds := by
  unfold union
  dsimp only
  split
  · exact (Heeds.ofExcept _).map _
  all_goals
    refine (Grammar.asAlternative_heeds _ _).bind fun found => ?_
    cases found with
    | some made => exact (Grammar.choice_heeds _ _).map _
    | none => exact .fail _

theorem negated_heeds (operand : Operand) : operand.negated.Heeds := by
  unfold negated
  split
  · exact (Heeds.ofExcept _).map _
  · split
    · exact (Grammar.ofParser_heeds _ _ _ _ _).map _
    · exact .fail _

theorem shifted_heeds (transform : Value → Except Fault Value) (functionType : String) (operand : Operand) :
    (operand.shifted transform functionType).Heeds := by
  unfold shifted
  dsimp only
  split
  · split
    · exact (Grammar.ofParser_heeds _ _ _ _ _).map _
    · exact .fail _
  · exact .fail _

theorem times_heeds (operand : Operand) (count : Value) : (operand.times count).Heeds := by
  unfold times
  split
  · exact (Heeds.ofExcept _).map _
  · exact (asGrammar_heeds _ operand).bind fun _ => (Grammar.times_heeds _ count).bind fun _ => .pure _

theorem copy_heeds (operand : Operand) : operand.copy.Heeds := by
  unfold copy
  split
  · exact Heeds.map (.around _ _ _ _) _
  · exact .fail _
  · exact .pure _

/-- What is made of an operand as a grammar. -/
theorem making_heeds (member : String) {operand : Action Operand} (first : operand.Heeds) {make : Grammar → Action Grammar}
    (makes : ∀ made, (make made).Heeds) :
    (do return .grammar (← make (← (← operand).asGrammar member)) : Action Operand).Heeds :=
  first.bind fun _ => (asGrammar_heeds member _).bind fun made => (makes made).bind fun _ => .pure _

end Operand

theorem lookUp_heeds (scope : Scope) (name : String) : (lookUp scope name).Heeds := by
  unfold lookUp
  cases scope.lookup name with
  | some placeholder => exact .pure _
  | none =>
    refine .reading (fun _ _ => rfl) fun store => ?_
    cases store.assigned? name with
    | some operand => exact .pure _
    | none => exact .fail _

namespace Expression

mutual

theorem evaluate_heeds (scope : Scope) (expression : Expression) : (expression.evaluate scope).Heeds := by
  cases expression with
  | raw value => exact .pure _
  | «variable» name => exact lookUp_heeds scope name
  | invalid fault => exact .fail _
  | leaf kind name recognise => exact (Heeds.newGrammar _ _ _).map _
  | constant shared => exact .pure _
  | followedBy first second =>
    rw [evaluate]
    exact (evaluate_heeds scope first).bind fun _ => (evaluate_heeds scope second).bind fun _ =>
      (Operand.asGrammar_heeds _ _).bind fun _ => (Grammar.followedBy_heeds _ _).bind fun _ => .pure _
  | sum first second =>
    rw [evaluate]
    exact (evaluate_heeds scope first).bind fun _ => (evaluate_heeds scope second).bind fun _ => Operand.sum_heeds _ _
  | orElse first second =>
    rw [evaluate]
    refine (evaluate_heeds scope first).bind fun _ => (evaluate_heeds scope second).bind fun _ =>
      (Operand.asGrammar_heeds _ _).bind fun _ => Heeds.bind ?_ fun _ => .pure _
    exact Grammar.alternative_heeds _ _ fun _ => Grammar.choice_heeds _ _
  | union first second =>
    rw [evaluate]
    exact (evaluate_heeds scope first).bind fun _ => (evaluate_heeds scope second).bind fun _ => Operand.union_heeds _ _
  | either kind alternatives =>
    rw [evaluate]
    exact (evaluateAll_heeds scope alternatives).bind fun _ => (Grammar.either_heeds _ _).bind fun _ => .pure _
  | optional operand | many operand | captured operand =>
    rw [evaluate]
    exact Operand.making_heeds _ (evaluate_heeds scope operand) fun _ => .around _ _ _ _
  | oneOrMore operand =>
    rw [evaluate]
    exact Operand.making_heeds _ (evaluate_heeds scope operand) fun _ => (Heeds.nameOf _).bind fun _ => .newGrammar _ _ _
  | times operand count =>
    rw [evaluate]
    exact (evaluate_heeds scope operand).bind fun _ => Operand.times_heeds _ count
  | separatedBy operand separator =>
    rw [evaluate]
    exact (evaluate_heeds scope operand).bind fun _ => (evaluate_heeds scope separator).bind fun _ =>
      (Operand.asGrammar_heeds _ _).bind fun _ => (Grammar.separatedBy_heeds _ _).bind fun _ => .pure _
  | capturedPattern operand =>
    rw [evaluate]
    exact (evaluate_heeds scope operand).bind fun _ => (Grammar.asPattern_heeds _).bind fun made =>
      (Heeds.around made _ _ _).bind fun _ => .pure _
  | returning operand value =>
    rw [evaluate]
    exact Operand.making_heeds _ (evaluate_heeds scope operand) fun _ => Grammar.returning_heeds _ value
  | valueFor operand value =>
    rw [evaluate]
    exact (evaluate_heeds scope operand).bind fun _ => (Grammar.valueFor_heeds _ value).bind fun _ => .pure _
  | erased operand | map operand transform | filter operand accept | bind operand continuation =>
    rw [evaluate]
    exact Operand.making_heeds _ (evaluate_heeds scope operand) fun _ => Grammar.ofParser_heeds _ _ _ _ _
  | negated operand =>
    rw [evaluate]
    exact (evaluate_heeds scope operand).bind fun _ => Operand.negated_heeds _
  | shifted operand transform functionType =>
    rw [evaluate]
    exact (evaluate_heeds scope operand).bind fun _ => Operand.shifted_heeds transform functionType _
  | named operand name =>
    rw [evaluate]
    exact Operand.making_heeds _ (evaluate_heeds scope operand) fun _ => Grammar.named_heeds _ name
  | copy operand =>
    rw [evaluate]
    exact (evaluate_heeds scope operand).bind fun _ => Operand.copy_heeds _
  | capturing names body =>
    rw [evaluate]
    exact (Heeds.mapM (lookUp_heeds scope) names).bind fun _ => evaluate_heeds _ body
  | retaining names body =>
    rw [evaluate]
    exact (Heeds.mapM (lookUp_heeds scope) names).bind fun _ =>
      (evaluate_heeds scope body).bind fun _ => .pure _
  | recursive kind binder limit script =>
    rw [evaluate]
    exact (Grammar.recursive_heeds kind binder limit script scope).map _

theorem evaluateAll_heeds (scope : Scope) (expressions : List Expression) : (evaluateAll scope expressions).Heeds := by
  cases expressions with
  | nil => exact .pure _
  | cons first rest =>
    rw [evaluateAll]
    exact (evaluate_heeds scope first).bind fun _ => (evaluateAll_heeds scope rest).bind fun _ => .pure _

end

end Expression

end Construction

namespace Runner

section Loops

theorem repeatFrom_heeds {attempt : Int → Action (Option Match)} (each : ∀ position, (attempt position).Heeds)
    (kind : Kind) (size bound : Nat) (position : Int) (found : Array Match) :
    (repeatFrom attempt kind size bound position found).Heeds := by
  induction bound generalizing position found with
  | zero => exact .halt _
  | succ bound ih =>
    refine (each position).bind fun answer => ?_
    cases answer with
    | none => exact .pure _
    | some next => exact (Heeds.ofExcept _).bind fun stop => .branch (.pure _) (ih _ _)

theorem repeatTimes_heeds {attempt : Int → Action (Option Match)} (each : ∀ position, (attempt position).Heeds)
    (kind : Kind) (size count : Nat) (position : Int) (found : Array Match) :
    (repeatTimes attempt kind size count position found).Heeds := by
  induction count generalizing position found with
  | zero => exact .pure _
  | succ count ih =>
    refine (each position).bind fun answer => ?_
    cases answer with
    | none => exact .pure _
    | some next => exact (Heeds.ofExcept _).bind fun stop => .branch (.pure _) (ih _ _)

theorem firstOf_heeds {attempt : Rule → Action (Option Match)} (each : ∀ rule, (attempt rule).Heeds) (rules : List Rule) :
    (firstOf attempt rules).Heeds := by
  induction rules with
  | nil => exact .pure _
  | cons rule rest ih =>
    refine (each rule).bind fun answer => ?_
    cases answer with
    | none => exact ih
    | some found => exact .pure _

/-- What goes on with a match, where there is one. -/
theorem onward_heeds {action : Action (Option Match)} (first : action.Heeds) {next : Match → Action (Option α)}
    (rest : ∀ found, (next found).Heeds) :
    (do
      let some found ← action | return none
      next found).Heeds := by
  refine first.bind fun answer => ?_
  cases answer with
  | none => exact .pure _
  | some found => exact rest found

end Loops

namespace Heeds
variable {runner : Runner} (heeds : runner.Heeds)
include heeds

theorem matchFrom (operand : Operand) (text : Text) (start : Int) : (runner.matchFrom operand text start).Heeds :=
  (Operand.asGrammar_heeds _ operand).bind fun _ => (Action.Heeds.ofExcept _).bind fun _ => .owning heeds _ text start

theorem perform (scope : Scope) (script : Script) : (runner.perform scope script).Heeds := by
  cases script with
  | finish definition => exact Expression.evaluate_heeds scope definition
  | tally label rest =>
    rw [Runner.perform]
    have tallied : (modify fun store => { store with tallies := label :: store.tallies } : Action PUnit).Heeds :=
      .changing _ (fun _ => rfl) fun _ _ => rfl
    exact tallied.bind fun _ => perform scope rest
  | leak name subject rest =>
    rw [Runner.perform]
    exact (Expression.evaluate_heeds scope subject).bind fun operand =>
      (Action.Heeds.changing (Store.assign name operand) (fun _ => rfl) fun _ _ => rfl).bind fun _ => perform scope rest
  | attempt subject text start rest =>
    rw [Runner.perform]
    have attempted := (Expression.evaluate_heeds scope subject).bind fun operand => matchFrom heeds operand text start
    exact attempted.attempt.bind fun outcome => perform scope (rest outcome)

omit heeds in
theorem definitionRule (slot : Cell) (operand : Operand) : (definitionRule slot operand).Heeds := by
  refine (Grammar.asAlternative_heeds _ operand).bind fun found => ?_
  cases found with
  | some made => exact .pure _
  | none =>
    cases operand with
    | raw value => exact .fail _
    | grammar made => exact (Action.Heeds.nameOf made).bind fun _ => .fail _

theorem build (cell : CellId) (builder : Builder) : (runner.build cell builder).Heeds :=
  (Action.Heeds.updateCell _ _).bind fun _ => (Action.Heeds.cellAt cell).bind fun slot =>
    .ensuring ((perform heeds _ _).bind fun operand => definitionRule slot operand) (fun _ => rfl) fun _ _ => rfl

theorem resolve (cell : CellId) : (runner.resolve cell).Heeds := by
  refine (Action.Heeds.cellAt cell).bind fun slot => ?_
  cases slot.definition with
  | some rule => exact .pure rule
  | none =>
    refine .branch (.fail_bind _ _) ?_
    cases slot.builder with
    | none => exact .fail _
    | some builder =>
      exact (build heeds cell builder).bind fun _ => (Action.Heeds.updateCell _ _).bind fun _ =>
        (Action.Heeds.record _).bind fun _ => .pure _

theorem enter (cell : CellId) (rule : Rule) (text : Text) (start : Int) : (runner.enter cell rule text start).Heeds := by
  have entered : (do
      updateCell cell fun slot => { slot with active := slot.active + 1 }
      record (.entered cell)
      ensuring (runner rule text start) fun store =>
        (store.updateCell cell fun slot => { slot with active := slot.active - 1 }).record (.left cell)).Heeds :=
    (Action.Heeds.updateCell _ _).bind fun _ => (Action.Heeds.record _).bind fun _ =>
      (heeds rule text start).ensuring (fun _ => rfl) fun _ _ => rfl
  refine (Action.Heeds.cellAt cell).bind fun slot => ?_
  cases slot.limit with
  | none => exact entered
  | some limit => exact .branch (.fail_bind _ _) entered

theorem invoke (cell : CellId) (text : Text) (start : Int) : (runner.invoke cell text start).Heeds :=
  (resolve heeds cell).bind fun rule => enter heeds cell rule text start

theorem continueWith (scope : Scope) (expression : Expression) (text : Text) (start : Int) :
    (runner.continueWith scope expression text start).Heeds := by
  refine (Expression.evaluate_heeds scope expression).bind fun operand => ?_
  cases operand with
  | raw value => exact .fail _
  | grammar next => exact .owning heeds next.rule text start

/-- A placeholder asks whether its cell has an owner. -/
theorem placeholder (cell : CellId) (text : Text) (start : Int) : (runner.step (.placeholder cell) text start).Heeds := by
  intro store rules same
  have one := invoke heeds cell text start same
  cases owned : store.isOwned cell with
  | true =>
    have runs (other : Store) (is : other.isOwned cell = true) :
        (runner.step (.placeholder cell) text start).exec other = (runner.invoke cell text start).exec other := by
      rw [Runner.step, exec_bind_ok (exec_get other), if_pos is]
    rw [runs store owned, runs _ ((Store.isOwned_amid same cell).trans owned)]
    exact one
  | false =>
    have refused (other : Store) (is : other.isOwned cell = false) :
        (runner.step (.placeholder cell) text start).exec other =
          (.error (.fault (.outlived (other.cellAt cell).name)), other.record (.refused cell)) := by
      rw [Runner.step, exec_bind_ok (exec_get other), is]
      rfl
    rw [refused store owned, refused _ ((Store.isOwned_amid same cell).trans owned)]
    exact ⟨rfl, rfl⟩

/-- One level of a run. -/
theorem step : (Runner.step runner).Heeds := by
  intro rule text start
  have one (rule : Rule) (start : Int) : (runner rule text start).Heeds := heeds rule text start
  cases rule with
  | leaf recognise => exact .ofExcept _
  | object tag traced body =>
    refine (Action.Heeds.record _).bind fun _ => ?_
    refine .branch (.reading (fun _ _ => rfl) fun _ => ?_) (one body start)
    exact (Action.Heeds.record _).bind fun _ => one body start
  | sequence kind other first second =>
    exact onward_heeds (one first start) fun _ => (Action.Heeds.ofExcept _).bind fun stop =>
      onward_heeds (one second stop) fun _ => (Action.Heeds.ofExcept _).bind fun _ => .pure _
  | orElse first second =>
    refine (one first start).bind fun answer => ?_
    cases answer with
    | none => exact one second start
    | some found => exact .pure _
  | either alternatives => exact firstOf_heeds (fun rule => one rule start) alternatives
  | optional kind operand =>
    refine (one operand start).bind fun answer => ?_
    cases answer <;> exact .pure _
  | many kind tag operand =>
    refine (repeatFrom_heeds (one operand) _ _ _ _ _).bind fun all => .reading (fun _ _ => rfl) fun store => ?_
    exact .branch ((Action.Heeds.record _).bind fun _ => .pure _) (.pure _)
  | oneOrMore kind operand =>
    refine onward_heeds (one operand start) fun _ => (Action.Heeds.ofExcept _).bind fun stop => .branch (.pure _) ?_
    exact (repeatFrom_heeds (one operand) _ _ _ _ _).bind fun _ => .pure _
  | times kind count operand =>
    refine (repeatTimes_heeds (one operand) _ _ _ _ _).bind fun answer => ?_
    cases answer <;> exact .pure _
  | separated kind first rest =>
    exact onward_heeds (one first start) fun _ => (Action.Heeds.ofExcept _).bind fun stop =>
      (repeatFrom_heeds (one rest) _ _ _ _ _).bind fun _ => .pure _
  | captured kind operand =>
    exact onward_heeds (one operand start) fun _ => (Action.Heeds.ofExcept _).bind fun _ => .pure _
  | valued value operand => exact onward_heeds (one operand start) fun _ => .pure _
  | erased operand =>
    exact onward_heeds (one operand start) fun _ => (Action.Heeds.ofExcept _).bind fun _ => .pure _
  | map transform operand =>
    exact onward_heeds (one operand start) fun _ => (Action.Heeds.ofExcept _).bind fun _ =>
      (Action.Heeds.ofExcept _).bind fun _ => .pure _
  | filter accept operand =>
    exact onward_heeds (one operand start) fun _ => (Action.Heeds.ofExcept _).bind fun _ =>
      (Action.Heeds.ofExcept _).bind fun _ => .pure _
  | bind scope continuation operand =>
    exact onward_heeds (one operand start) fun _ => (Action.Heeds.ofExcept _).bind fun _ => continueWith heeds _ _ text _
  | retaining held operand => exact one operand start
  | recursive cell => exact invoke heeds cell text start
  | placeholder cell => exact placeholder heeds cell text start

end Heeds

/-- However many levels a run has, it heeds nothing else. -/
theorem heeds_run (fuel : Nat) : Heeds (Rule.run fuel) := by
  induction fuel with
  | zero => exact fun _ _ _ => .halt _
  | succ fuel ih => exact ih.step

end Runner

end TextGrammar
