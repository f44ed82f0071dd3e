import TextGrammar.Proofs.AlignedRuns

/-! Recursive grammars in aligned runs. Both runs call the same builders at the same moments, and
so come to the same definitions; a builder that runs a grammar does so on a text of its own. -/

namespace TextGrammar.Alignment
open TextGrammar.Action

variable {pair : Alignment}

/-- Two runners that stay aligned on all that grammars may be put together from. -/
structure Runs (pair : Alignment) (runner other : Runner) : Prop where
  aligned : ∀ {rule : Rule}, rule.BuiltFrom pair.parts → ∀ {first second}, pair.place first second →
    pair.Aligned pair.Outcomes (runner rule pair.text first) (other rule pair.other second)
  aside : ∀ {rest}, pair.parts.goesOn rest → ∀ text {rule : Rule}, rule.BuiltFrom pair.parts →
    ∀ start, (pair.aside text).Aligned (pair.aside text).Outcomes (runner rule text start)
      (other rule text start)
  keeps : ∀ rule text start, pair.Keeps (other rule text start)

theorem Runs.turnAside {runner other : Runner} (runs : pair.Runs runner other)
    {rest : Except Fault (Option Match) → Script} (goesOn : pair.parts.goesOn rest) (text : Text) :
    (pair.aside text).Runs runner other where
  aligned := by
    rintro rule built first _ rfl
    exact runs.aside goesOn text built first
  aside := fun goesOn text _ built start => runs.aside goesOn text built start
  keeps := runs.keeps

namespace Lawful
variable (lawful : pair.Lawful) {runner other : Runner} (runs : pair.Runs runner other)
include lawful runs

theorem matchFrom {operand : Operand} (built : operand.BuiltFrom pair.parts) {first second : Int}
    (checked : pair.text.checkOffset first = pair.other.checkOffset second)
    (related : pair.place first second) :
    pair.Aligned pair.Outcomes (runner.matchFrom operand pair.text first)
      (other.matchFrom operand pair.other second) := by
  refine (lawful.makes_asGrammar _ built).thenAligned fun made built => ?_
  have checks : pair.Makes (fun _ => True) (ofExcept (pair.other.checkOffset second)) :=
    lawful.makes_ofExcept _ fun _ _ => trivial
  rw [checked]
  exact checks.thenAligned fun _ _ => lawful.owning (runs.aligned built related)

/-- A builder that runs a grammar goes on with what came of it. If the first run gave up there, its
builder passes that on. -/
theorem attempt {action second : Action (Option Match)}
    {rest : Except Fault (Option Match) → Script} (goesOn : pair.parts.goesOn rest) {text : Text}
    {scope : Scope}
    (aligned : (pair.aside text).Aligned (pair.aside text).Outcomes action second)
    (goes : ∀ outcome, pair.Aligned (fun made same => made = same ∧ made.BuiltFrom pair.parts)
      (runner.perform scope (rest outcome)) (other.perform scope (rest outcome))) :
    pair.Aligned (fun made same => made = same ∧ made.BuiltFrom pair.parts)
      (attempt action >>= fun outcome => runner.perform scope (rest outcome))
      (attempt second >>= fun outcome => other.perform scope (rest outcome)) := by
  intro before after stores
  have ends := aligned (stores_aside.mpr stores)
  rcases one : action.exec before with ⟨answer, last⟩
  rcases two : second.exec after with ⟨outcome, final⟩
  rw [one, two] at ends
  rw [exec_bind, exec_attempt, one]
  cases ends with
  | answer same next =>
    obtain rfl := twin_outcomes same
    rw [exec_bind, exec_attempt, two]
    exact goes _ (stores_aside.mp next)
  | @halt halt _ _ _ same next =>
    obtain rfl : halt = _ := same
    rw [exec_bind, exec_attempt, two]
    cases halt with
    | fault fault => exact goes _ (stores_aside.mp next)
    | exhausted => exact .halt (lawful.halts _) (stores_aside.mp next)
  | @behind halt _ _ _ gaveUp passed =>
    have grows := attempt_bind_grows second (fun outcome => Runner.perform_grows
      (fun rule text start => runs.keeps rule text start ⟨_, gaveUp⟩) scope (rest outcome)) after
    rw [two] at grows
    cases halt with
    | exhausted => exact .behind gaveUp (lawful.passed passed grows)
    | fault fault =>
      dsimp only
      rw [lawful.passesOn goesOn gaveUp]
      exact .behind gaveUp (lawful.passed passed grows)

theorem perform (scope : Scope) : (script : Script) → script.BuiltFrom pair.parts →
    pair.Aligned (fun made same => made = same ∧ made.BuiltFrom pair.parts)
      (runner.perform scope script) (other.perform scope script)
  | .finish definition, built => (lawful.makes_evaluate scope definition built).aligned
  | .tally label rest, built => by
    have tallies : pair.Makes (fun _ => True)
        (modify fun store => { store with tallies := label :: store.tallies } : Action PUnit) := by
      refine lawful.makes_modify (fun same => ?_) (fun stored => ⟨stored.assigned, stored.cells⟩)
        fun _ => .of_cells rfl rfl
      rw [same.agree.tallies]
      exact same.agree.withTallies _
    exact tallies.thenAligned fun _ _ => perform scope rest built
  | .leak name subject rest, built => by
    refine (lawful.makes_evaluate scope subject built.1).thenAligned fun operand made => ?_
    have assigns : pair.Makes (fun _ => True) (modify (Store.assign name operand) : Action PUnit) :=
      lawful.makes_modify (fun same => same.agree.assign name operand)
        (fun stored => stored.assign name made) fun _ => .of_cells rfl rfl
    exact assigns.thenAligned fun _ _ => perform scope rest built.2
  | .attempt subject text start rest, built => by
    have aside := lawful.aside built.1 text
    have evaluates := aside.makes_evaluate scope subject built.2.1
    exact lawful.attempt runs built.1 (evaluates.thenAligned fun operand made =>
        aside.matchFrom (runs.turnAside built.1 text) made rfl rfl)
      fun outcome => perform scope (rest outcome) (built.2.2 outcome)

omit lawful runs in
theorem parallel_cellAt (cell : CellId) :
    pair.Parallel (fun slot other => slot.Alike (pair.guarded ≠ some cell) other ∧
      slot.BuiltFrom pair.parts) (cellAt cell) (cellAt cell) :=
  fun _ _ stores => .inl ⟨_, _, _, _, rfl, rfl, ⟨stores.agree.cells cell, stores.built.cellAt cell⟩,
    stores⟩

omit runs in
/-- A change of a cell that its guard has nothing to do with. -/
theorem makes_updateCell (cell : CellId) {change : Cell → Cell}
    (respects : ∀ {slot other : Cell}, slot.Alike (pair.guarded ≠ some cell) other →
      (change slot).Alike (pair.guarded ≠ some cell) (change other))
    (built : ∀ {slot : Cell}, slot.BuiltFrom pair.parts → (change slot).BuiltFrom pair.parts)
    (still : pair.guarded = some cell →
      ∀ slot, (change slot).limit = slot.limit ∧ (change slot).active = slot.active) :
    pair.Makes (fun _ => True) (updateCell cell change) :=
  fun _ _ stores => .inl ⟨_, _, _, _, rfl, rfl, ⟨rfl, trivial⟩,
    lawful.stores_updateCell stores cell respects built still⟩

theorem build (cell : CellId) {builder : Builder} (built : builder.BuiltFrom pair.parts) :
    pair.Aligned (fun rule same => rule = same ∧ rule.BuiltFrom pair.parts)
      (runner.build cell builder) (other.build cell builder) := by
  have starts : pair.Makes (fun _ => True)
      (updateCell cell fun slot => { slot with building := true, calls := slot.calls + 1 }) := by
    refine lawful.makes_updateCell cell ?_ (fun stored => ⟨stored.builder, stored.definition⟩)
      fun _ _ => ⟨rfl, rfl⟩
    rintro _ _ ⟨name, kind, held, definition, -, active, calls, limit⟩
    exact ⟨name, kind, held, definition, rfl, active, congrArg (· + 1) calls, limit⟩
  refine starts.thenAligned fun _ _ => (parallel_cellAt cell).andThen fun slot same alike => ?_
  refine lawful.ensuring ?_ (fun stores => ?_) fun _ => List.suffix_refl _
  · rw [← alike.1.calls]
    refine lawful.bind (lawful.perform runs _ _ (built _)) (fun definition _ equal => ?_) ?_
    · obtain ⟨rfl, made⟩ := equal
      exact (lawful.makes_definitionRule alike.1.name alike.1.kind made).aligned
    · exact fun definition _ => Runner.definitionRule_grows _ definition
  · refine lawful.stores_updateCell stores cell ?_
      (fun stored => ⟨stored.builder, stored.definition⟩) fun _ _ => ⟨rfl, rfl⟩
    rintro _ _ ⟨name, kind, held, definition, -, active, calls, limit⟩
    exact ⟨name, kind, held, definition, rfl, active, calls, limit⟩

theorem resolve (cell : CellId) :
    pair.Aligned (fun rule same => rule = same ∧ rule.BuiltFrom pair.parts)
      (runner.resolve cell) (other.resolve cell) := by
  refine (parallel_cellAt cell).andThen fun slot same alike => ?_
  obtain ⟨name, kind, limit, builder, definition, building, active, calls⟩ := slot
  obtain ⟨name', kind', limit', builder', definition', building', active', calls'⟩ := same
  obtain ⟨⟨rfl, rfl, rfl, rfl, rfl, -, -, -⟩, stored⟩ := alike
  cases definition with
  | some rule => exact (Makes.pure (stored.definition rule rfl)).aligned
  | none =>
    cases building with
    | true =>
      simp only [↓reduceIte]
      exact (Parallel.fail_bind (lawful.halts _) _ _).aligned
    | false =>
      simp only [Bool.false_eq_true, ↓reduceIte]
      cases builder with
      | none => exact (lawful.makes_fail _).aligned
      | some builder =>
        refine lawful.bind (lawful.build runs cell (stored.builder builder rfl))
          (fun rule _ equal => ?_) fun rule _ => ?_
        · obtain ⟨rfl, built⟩ := equal
          have keeps : pair.Makes (fun _ => True) (updateCell cell fun slot =>
              { slot with definition := some rule, builder := none }) := by
            refine lawful.makes_updateCell cell ?_ (fun _ => ⟨by simp, ?_⟩) fun _ _ => ⟨rfl, rfl⟩
            · rintro _ _ ⟨name, kind, -, -, building, active, calls, limit⟩
              exact ⟨name, kind, rfl, rfl, building, active, calls, limit⟩
            · rintro _ ⟨⟩
              exact built
          exact (keeps.andThen fun _ => (lawful.makes_record (.resolved cell name)).andThen fun _ =>
            .pure built).aligned
        · exact Grows.bind (.updateCell _ _) fun _ => Grows.bind (.record _) fun _ => .pure _

/-- An invocation of a cell that is not guarded. -/
theorem enter {cell : CellId} (free : pair.guarded ≠ some cell) {rule : Rule}
    (built : rule.BuiltFrom pair.parts) {first second : Int} (related : pair.place first second) :
    pair.Aligned pair.Outcomes (runner.enter cell rule pair.text first)
      (other.enter cell rule pair.other second) := by
  have counts (change : Nat → Nat) {before after : Store} (stores : pair.Stores before after) :
      pair.Stores (before.updateCell cell fun slot => { slot with active := change slot.active })
        (after.updateCell cell fun slot => { slot with active := change slot.active }) := by
    refine lawful.stores_updateCell stores cell ?_ (fun stored => ⟨stored.builder, stored.definition⟩)
      fun guarded => absurd guarded free
    rintro _ _ ⟨name, kind, held, definition, building, active, calls, limit⟩
    exact ⟨name, kind, held, definition, building, congrArg change active, calls, limit⟩
  have begins : pair.Makes (fun _ => True)
      (updateCell cell fun slot => { slot with active := slot.active + 1 }) :=
    fun _ _ stores => .inl ⟨_, _, _, _, rfl, rfl, ⟨rfl, trivial⟩, counts (· + 1) stores⟩
  have runs : pair.Aligned pair.Outcomes
      (do updateCell cell fun slot => { slot with active := slot.active + 1 }
          record (.entered cell)
          Action.ensuring (runner rule pair.text first) fun store =>
            (store.updateCell cell fun slot => { slot with active := slot.active - 1 }).record
              (.left cell))
      (do updateCell cell fun slot => { slot with active := slot.active + 1 }
          record (.entered cell)
          Action.ensuring (other rule pair.other second) fun store =>
            (store.updateCell cell fun slot => { slot with active := slot.active - 1 }).record
              (.left cell)) := by
    refine begins.thenAligned fun _ _ => (lawful.makes_record (.entered free)).thenAligned fun _ _ => ?_
    exact lawful.ensuring (runs.aligned built related)
      (fun stores => lawful.stores_record (counts (· - 1) stores) (.left free))
      fun _ => List.suffix_cons _ _
  refine (parallel_cellAt cell).andThen fun slot same alike => ?_
  rw [alike.1.limit free, alike.1.active, alike.1.name]
  cases same.limit with
  | none => exact runs
  | some limit =>
    by_cases deep : limit ≤ same.active
    · simp only [if_pos deep]
      exact (Parallel.fail_bind (lawful.tooDeep _ _ related) _ _).aligned
    · simp only [if_neg deep]
      exact runs

theorem continueWith (scope : Scope) {expression : Expression}
    (built : expression.BuiltFrom pair.parts) {first second : Int}
    (related : pair.place first second) :
    pair.Aligned pair.Outcomes (runner.continueWith scope expression pair.text first)
      (other.continueWith scope expression pair.other second) := by
  refine (lawful.makes_evaluate scope expression built).thenAligned fun operand made => ?_
  cases operand with
  | raw value => exact (Parallel.throw (lawful.halts _)).aligned
  | grammar next => exact lawful.owning (runs.aligned made related)

end Lawful

end TextGrammar.Alignment
