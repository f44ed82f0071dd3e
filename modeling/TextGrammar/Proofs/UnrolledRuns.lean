import TextGrammar.Grammar.Plan
import TextGrammar.Proofs.HistoryIndependence
import TextGrammar.Proofs.KeptDrafts

/-! Recursive grammars and their definitions. A grammar that is kept in a variable runs as its definition
does in which its own name stands for the variable, and as the definitions do that are unrolled to any
depth: a placeholder does what its grammar does, wherever it is put. -/

namespace TextGrammar
open TextGrammar.Action

/-- The kind of what an expression stands for, if that is a grammar. -/
def Draft.kind? : Draft → Option Kind
  | .raw _ => none
  | .grammar made => some made.kind

/-- The kind of an operand, if it is a grammar. -/
def Operand.kind? : Operand → Option Kind
  | .raw _ => none
  | .grammar made => some made.kind

theorem Draft.Alike.kind?_eq {way : Leeway} {base : Store} {side : Side} {fuel : Nat} {draft other : Draft}
    (alike : draft.Alike way base side fuel other) : draft.kind? = other.kind? := by
  cases alike with
  | raw value => rfl
  | grammar alike =>
    obtain ⟨near⟩ := alike
    rfl

theorem Operand.Plays.kind?_eq {scene : Scene} {cast : Cast} {awake : Key → Prop} {operand : Operand} {draft : Draft}
    (plays : operand.Plays scene cast awake draft) : operand.kind? = draft.kind? := by
  cases plays with
  | raw value => rfl
  | grammar made => exact congrArg some made.kind

/-- An expression is of the kind of its draft. -/
theorem Scene.kind?_runs {scene : Scene} {cast : Cast} {subject : Expression} (plain : subject.Plain scene.allowed) :
    scene.Runs (fun _ => 0) 0 cast (do return (← Session.evaluate subject).kind?)
      ((subject.drafted scene.base.globals (.stage 0) []).mapError .fault >>= fun draft => .ok draft.kind?) := by
  refine .evaluatingPlain plain fun cast operand draft plays => ?_
  rw [plays.kind?_eq]
  exact .pure _

/-- What an expression comes to when it is evaluated is of the kind of its draft. -/
theorem Scene.evaluate_kind? {scene : Scene} {cast : Cast} {store : Store}
    (founded : scene.Founded (fun _ => 0) 0 cast store) {subject : Expression} (plain : subject.Plain scene.allowed)
    {draft : Draft} (drafted : subject.drafted scene.base.globals (.stage 0) [] = .ok draft) :
    ∃ operand, ((Session.evaluate subject).exec store).1 = .ok operand ∧ operand.kind? = draft.kind? := by
  obtain ⟨result, after, further, ran, -, -, alike⟩ := kind?_runs plain _ (.refl _) _ founded
  rw [drafted] at alike
  obtain rfl : result = .ok draft.kind? := alike.of_ok
  rw [exec_bind] at ran
  rcases ended : (Session.evaluate subject).exec store with ⟨_ | operand, next⟩
  · rw [ended] at ran
    cases ran
  · rw [ended] at ran
    exact ⟨operand, rfl, Except.ok.inj (congrArg Prod.fst ran)⟩

/-- What is evaluated to a grammar has a draft of one. -/
theorem Scene.drafted_of_evaluate {scene : Scene} {cast : Cast} {store next : Store}
    (founded : scene.Founded (fun _ => 0) 0 cast store) {subject : Expression} (plain : subject.Plain scene.allowed)
    {made : Grammar} (evaluated : (subject.evaluate []).exec store = (.ok (.grammar made), next)) :
    ∃ sketch, subject.drafted scene.base.globals (.stage 0) [] = .ok (.grammar sketch) ∧ sketch.kind = made.kind := by
  obtain ⟨result, after, further, ran, -, -, alike⟩ := kind?_runs plain _ (.refl _) _ founded
  rw [Session.evaluate, exec_bind_ok evaluated] at ran
  obtain rfl : Except.ok (some made.kind) = result := congrArg Prod.fst ran
  have told := alike.symm.of_ok
  generalize subject.drafted scene.base.globals (.stage 0) [] = outcome at told ⊢
  rcases outcome with fault | _ | sketch
  · cases told
  · cases told
  · exact ⟨sketch, rfl, Option.some.inj (Except.ok.inj told)⟩

section Kept
variable {way : Leeway} {store : Store} {side : Side} {fuel : Nat} {name : String} {kind : Kind}
  {definition : Expression} {cell : CellId}

/-- Faults that the definition of a grammar fails with when it is built. -/
def Expression.Fails (definition : Expression) (store : Store) (name : String) (kind : Kind) (cell : CellId)
    (fault : Fault) : Prop :=
  ∃ cause, definition.drafted store.globals (.base cell) (.own name kind cell) = .error cause ∧
    cause.unnamed = fault.unnamed

/-- Whatever invocations are under way, they do not matter without limits. -/
def Leeway.unlimited (cut : Fault → Prop) : Leeway where
  cut := cut
  under _ _ := True
  inner _ _ _ _ _ := trivial

theorem Leeway.unlimited_passes (cut : Fault → Prop) (cell : CellId) : (unlimited cut).Passes cell none :=
  ⟨fun _ _ _ => .inl rfl, fun _ _ _ => trivial⟩

namespace Store.Keeps
open Expression
variable (keeps : store.Keeps name kind definition none cell)
include keeps

/-- A grammar runs as its definition does. -/
theorem definition_alike
    (enters : ∀ active counts, way.under active counts → way.under ((Key.base cell).enter active) counts) (kinded : ∀ draft,
      definition.drafted store.globals (.base cell) (.own name kind cell) = .ok draft → draft.kind? = some kind)
    {draft other : Draft} (drafted : definition.drafted store.globals (.base cell) (.own name kind cell) = .ok draft)
    (alike : draft.Alike way store side fuel other) :
    Draft.Alike way store side fuel (.grammar (.new kind (.invoke (.base cell)))) other := by
  have same := kinded draft drafted
  cases alike with
  | raw value => cases same
  | grammar alike =>
    obtain @⟨kinds, one, two, near⟩ := alike
    obtain rfl : kinds = kind := Option.some.inj same
    have defined : (Target.base cell).definition store = .ok one := by
      rw [keeps.target_definition, Expression.defined, drafted]
      change (Draft.grammar ⟨kinds, one⟩).definition _ kinds = .ok one
      simp [Draft.definition, Draft.asAlternative]
    have invoked : (Blueprint.invoke (.base cell)).Alike way store side fuel kinds two := by
      refine near.before (Key.base cell).enter enters fun player active stage text start => ?_
      simp only [Player.step, defined, keeps.target_limit]
      rfl
    exact .grammar (.intro (invoked.before id (fun _ _ => id) fun _ _ _ _ _ => rfl))

variable (plain : definition.Plain fun other => other = name) (unlimited : definition.Unlimited)
include plain unlimited

/-- So it runs as its definition does that is unrolled to some depth. -/
theorem unrolled_alike (kinded : ∀ draft,
      definition.drafted store.globals (.base cell) (.own name kind cell) = .ok draft → draft.kind? = some kind)
    (depth : Nat) (key : Key) {names : Names}
    (meaning : names.meaning store.globals name = some (.grammar (.new kind (.invoke (.base cell))))) :
    DraftsAlike (.unlimited (definition.Fails store name kind cell)) store side fuel
      (Pure.pure (.grammar (.new kind (.invoke (.base cell))))) ((definition.unrolled name depth).draft store.globals key names) := by
  induction depth generalizing key names with
  | zero => exact keeps.variable_alike plain unlimited (Leeway.unlimited_passes _ _) key meaning
  | succ depth ih =>
    intro index count _
    have own := Names.Replaced.own (by rw [meaning]; rfl) fun key further same => ih key (same.trans meaning)
    have meets := drafts_replaced own definition plain unlimited (.base cell) key 0 count trivial
    rw [unrolled]
    generalize StateT.run (draft store.globals key names (definition.replace name _)) count = outcome at meets ⊢
    cases ended : (definition.draft store.globals (.base cell) (.own name kind cell)).run 0 with
    | ok answer =>
      have drafted : definition.drafted store.globals (.base cell) (.own name kind cell) = .ok answer.1 :=
        congrArg (Prod.fst <$> ·) ended
      rw [ended] at meets
      cases meets with
      | answer alike => exact .answer ⟨keeps.definition_alike (fun _ _ _ => trivial) kinded drafted alike.1, trivial⟩
      | cutSecond fails => exact .cutSecond fails
    | error cause =>
      have drafted : definition.drafted store.globals (.base cell) (.own name kind cell) = .error cause :=
        congrArg (Prod.fst <$> ·) ended
      rw [ended] at meets
      cases meets with
      | failure same => exact .cutSecond ⟨cause, drafted, same⟩
      | cutFirst cut => exact cut.elim
      | cutSecond fails => exact .cutSecond fails

section Limits
variable (kinded : ∀ draft,
      definition.drafted store.globals (.base cell) (.own name kind cell) = .ok draft → draft.kind? = some kind)
  {text : Text} {start : Int} (inside : text.checkOffset start = .ok ()) (depth : Nat)

include kinded inside

/-- In the limit it comes to what its definition comes to, unless the definition cannot be built. -/
theorem foretold_unrolled :
    ((Comparison.unnamed (definition.Fails store name kind cell)).runs False False).Meets (Option.Rel Eq)
      (Session.foretold store (.variable name) text start)
      (Session.foretold store (definition.unrolled name depth) text start) := by
  have drafts side fuel : Same (definition.Fails store name kind cell)
      (Draft.Alike (.unlimited (definition.Fails store name kind cell)) store side fuel)
      (.ok (.grammar (.new kind (.invoke (.base cell)))))
      ((definition.unrolled name depth).drafted store.globals (.stage 0) []) :=
    (keeps.unrolled_alike plain unlimited kinded depth (.stage 0) keeps.meaning).drafted trivial
  rw [keeps.foretold_variable inside, Session.foretold]
  generalize (definition.unrolled name depth).drafted store.globals (.stage 0) [] = outcome at drafts ⊢
  cases outcome with
  | error fault =>
    cases drafts .first 0 with
    | cutSecond fails => exact .cutSecond fails
  | ok draft =>
    obtain ⟨body, rfl⟩ : ∃ body, draft = .grammar ⟨kind, body⟩ := by
      cases drafts .first 0 with
      | answer alike =>
        cases alike with
        | grammar alike =>
          obtain ⟨-⟩ := alike
          exact ⟨_, rfl⟩
    have near side fuel : Blueprint.Near store (.renaming (.unlimited (definition.Fails store name kind cell))) side fuel kind
        (.object (.invoke (.base cell))) body := by
      cases drafts side fuel with
      | answer alike =>
        cases alike with
        | grammar alike =>
          obtain ⟨near⟩ := alike
          exact near
    rw [inside]
    exact Blueprint.Near.limits near trivial 1 1 text start

/-- A definition that cannot be built fails as the grammar does when it is run. -/
theorem foretold_alike (finished : Session.foretold store (.variable name) text start ≠ .error .exhausted) :
    Alike (Session.foretold store (.variable name) text start)
      (Session.foretold store (definition.unrolled name depth) text start) := by
  have meets := keeps.foretold_unrolled plain unlimited kinded inside depth
  have told := keeps.foretold_variable inside
  generalize Session.foretold store (.variable name) text start = one at *
  generalize Session.foretold store (definition.unrolled name depth) text start = other at *
  cases meets with
  | @answer found later same =>
    obtain rfl : found = later := by
      cases same with
      | none => rfl
      | some same => rw [show _ = _ from same]
    exact .refl _
  | @failure halt later same =>
    cases halt with
    | exhausted => exact absurd rfl finished
    | fault fault =>
      cases later with
      | exhausted => exact same.elim
      | fault other => exact .fault same
  | @cutFirst halt _ cut => cases halt <;> exact cut.elim
  | @cutSecond _ halt cut =>
    cases halt with
    | exhausted => exact cut.elim
    | fault fault =>
      obtain ⟨cause, fails, same⟩ := cut
      have failed : one = .error (.fault cause) := by
        rw [told, Blueprint.limit_eq_step]
        change Blueprint.limit _ _ _ (.invoke _) _ _ = _
        rw [Blueprint.limit_eq_step]
        simp only [Player.step, keeps.target_definition, Expression.defined, fails]
        rfl
      rw [failed]
      exact .fault same

end Limits

/-- A definition that is built is of the kind that it is evaluated to. -/
theorem definition_kind {session : Store} {cast : Cast}
    (founded : Scene.Founded ⟨store, fun other => other = name, fun other => other = cell⟩ (fun _ => 0) 0 cast session)
    (kinded : ∀ operand, ((Session.evaluate definition).exec session).1 = .ok operand → operand.kind? = some kind)
    (draft : Draft) (drafted : definition.drafted store.globals (.base cell) (.own name kind cell) = .ok draft) :
    draft.kind? = some kind := by
  have drafts : Same (fun _ => False) (Draft.Alike (.unlimited fun _ => False) store .first 0) _ _ :=
    keeps.drafted_alike plain unlimited (Leeway.unlimited_passes _ _) plain unlimited
  obtain ⟨other, evaluated, alike⟩ : ∃ other, definition.drafted store.globals (.stage 0) [] = .ok other ∧
      draft.Alike (.unlimited fun _ => False) store .first 0 other := by
    rw [drafted] at drafts
    generalize definition.drafted store.globals (.stage 0) [] = outcome at drafts ⊢
    cases drafts with
    | answer alike => exact ⟨_, rfl, alike⟩
    | cutSecond cut => exact cut.elim
  obtain ⟨operand, ended, same⟩ := Scene.evaluate_kind? founded plain evaluated
  rw [alike.kind?_eq, ← same]
  exact kinded operand ended

end Store.Keeps

end Kept

/-- A table leads to one of its rows, or to what there is otherwise. -/
theorem Follower.table_eq (rows : List (Value × Expression)) (otherwise : Expression) (value : Value) :
    (∃ row ∈ rows, Follower.table rows otherwise value = row.2) ∨ Follower.table rows otherwise value = otherwise := by
  rw [Follower.table]
  split
  next row is => exact .inl ⟨row, List.mem_of_find?_eq_some is, rfl⟩
  next => exact .inr rfl

namespace Session

/-- Brackets around the same once more, or around nothing. -/
abbrev bracketed : Expression := "(" + .optional (.variable "nested") + ")"

/-- A session that keeps brackets in a variable and runs them. -/
abbrev bracketing : List Command :=
  [.assign "nested" (.fix .pattern "nested" bracketed none), .matchesAll (.variable "nested") (Text.ofString "()")]

/-- A parser that applies itself a negative number of times. -/
abbrev refusing : Expression :=
  .bind (.captured (.literal "a")) (Follower.table [(.str "a", .times (.variable "x") (.int (-1)))] (.pure .null))

/-- A pattern that is defined by a variable, before another one whose builder assigns that variable. -/
abbrev reassigning : Expression :=
  .fix .pattern "first" (.variable "shared") none +
    .optional (.recursive .pattern "inner" none (fun _ => .leak "shared" (.variable "inner") (.finish (.literal "a"))) +
      .variable "x")

end Session

end TextGrammar
