import TextGrammar.Proofs.Invocations
import TextGrammar.Proofs.Recognition

/-! Grammars that are defined in terms of themselves. While an invocation of a grammar is under way,
its placeholder reads what the definition reads, so that what is known of the definition for longer
texts is known of the placeholder for all of them. A grammar that has been made but not run builds its
definition first. -/

namespace TextGrammar
open TextGrammar.Action

namespace Store
variable {store : Store} {cell : CellId} {rule : Rule}

/-- A store that has the definition of a cell without a limit. -/
structure Defines (store : Store) (cell : CellId) (rule : Rule) : Prop where
  inside : cell < store.cells.size
  definition : (store.cellAt cell).definition = some rule
  unlimited : (store.cellAt cell).limit = none

theorem cellAt_updateCell_self (inside : cell < store.cells.size) (change : Cell → Cell) :
    (store.updateCell cell change).cellAt cell = change (store.cellAt cell) := by
  rw [cellAt_updateCell, if_pos ⟨rfl, inside⟩]

/-- A cell that is given its definition. -/
theorem defines_updateCell (inside : cell < store.cells.size)
    (unlimited : (store.cellAt cell).limit = none) (builder : Option Builder) :
    (store.updateCell cell fun slot => { slot with definition := some rule, builder }).Defines cell rule where
  inside := by
    rw [size_updateCell]
    exact inside
  definition := by rw [cellAt_updateCell_self inside]
  unlimited := by rw [cellAt_updateCell_self inside, unlimited]

theorem Defines.updated (defines : store.Defines cell rule) (change : Cell → Cell)
    (definition : ∀ old : Cell, (change old).definition = old.definition)
    (limit : ∀ old : Cell, (change old).limit = old.limit) :
    (store.updateCell cell change).Defines cell rule where
  inside := by
    rw [size_updateCell]
    exact defines.inside
  definition := by rw [cellAt_updateCell_self defines.inside, definition, defines.definition]
  unlimited := by rw [cellAt_updateCell_self defines.inside, limit, defines.unlimited]

theorem Defines.enter (defines : store.Defines cell rule) : (store.enter cell).Defines cell rule := by
  have counted := defines.updated (fun slot => { slot with active := slot.active + 1 }) (fun _ => rfl)
    fun _ => rfl
  exact ⟨counted.inside, counted.definition, counted.unlimited⟩

theorem Defines.enter_active (defines : store.Defines cell rule) :
    0 < ((store.enter cell).cellAt cell).active := by
  have entered : (store.enter cell).cellAt cell = _ := cellAt_updateCell_self defines.inside _
  rw [entered]
  exact Nat.succ_pos _

end Store

namespace Runner
variable {runner : Runner} {cell : CellId} {store : Store} {rule : Rule} {text : Text} {start : Int}

theorem exec_enter_defined (defines : store.Defines cell rule) :
    (runner.enter cell rule text start).exec store =
      (((runner rule text start).exec (store.enter cell)).1,
        ((runner rule text start).exec (store.enter cell)).2.leave cell) := by
  apply exec_enter
  intro limit limited
  rw [defines.unlimited] at limited
  cases limited

end Runner

/-- While an invocation of a defined cell is under way. -/
def Moment.within (cell : CellId) (rule : Rule) : Moment where
  holds store := store.Defines cell rule ∧ 0 < (store.cellAt cell).active
  moves store next := ∃ trace, next = { store with trace }
  traced trace _ := ⟨trace, rfl⟩
  kept holds moved := by
    obtain ⟨trace, rfl⟩ := moved
    exact ⟨⟨holds.1.inside, holds.1.definition, holds.1.unlimited⟩, holds.2⟩
  trans one two := by
    obtain ⟨_, rfl⟩ := one
    obtain ⟨trace, rfl⟩ := two
    exact ⟨trace, rfl⟩

namespace Setting
variable {text : Text} {cell : CellId} {rule : Rule} {rest : List Char} {reading : Reading}

/-- An invocation of a definition reads what the definition reads. -/
theorem exec_enter_reads (reads : (⟨text, .within cell rule⟩ : Setting).Reads rule rest reading) :
    ∃ enough, ∀ fuel, enough ≤ fuel → ∀ store : Store, store.Defines cell rule →
      ∃ trace, (Runner.enter (Rule.run fuel) cell rule text (text.offsetOf rest)).exec store =
        (outcomeOf ⟨text, .within cell rule⟩ reading, { store with trace }) := by
  obtain ⟨enough, settles⟩ := reads
  refine ⟨enough, fun fuel least store defines => ?_⟩
  obtain ⟨_, run, trace, rfl⟩ := settles fuel least _ ⟨defines.enter, defines.enter_active⟩
  rw [Runner.exec_enter_defined defines, run, Store.leave_enter]
  exact ⟨_, rfl⟩

/-- The placeholder reads what the definition reads. -/
theorem Reads.placeholder (reads : (⟨text, .within cell rule⟩ : Setting).Reads rule rest reading) :
    (⟨text, .within cell rule⟩ : Setting).Reads (.placeholder cell) rest reading := by
  obtain ⟨enough, entered⟩ := exec_enter_reads reads
  refine .of_step ⟨enough, fun fuel least store holds => ?_⟩
  obtain ⟨trace, run⟩ := entered fuel least store holds.1
  have owned : store.isOwned cell = true := by
    rw [Store.isOwned, Cell.inUse, decide_eq_true holds.2, Bool.or_true, Bool.true_or]
  refine ⟨_, (exec_bind_ok (exec_get store)).trans ?_, trace, rfl⟩
  rw [if_pos owned, Runner.invoke, exec_bind_ok (Runner.exec_resolve holds.1.definition), run]

end Setting

/-- A store with a cell that has been given its builder, and that has not been run. -/
structure Store.Fresh (store : Store) (cell : CellId) (kind : Kind) (scope : Scope)
    (definition : Expression) : Prop where
  inside : cell < store.cells.size
  kind : (store.cellAt cell).kind = kind
  undefined : (store.cellAt cell).definition = none
  idle : (store.cellAt cell).building = false
  builder : (store.cellAt cell).builder = some ⟨fun _ => .finish definition, scope⟩
  unlimited : (store.cellAt cell).limit = none

/-- A definition that comes to a grammar with a rule, wherever the names are the given ones. -/
def Expression.Comes (scope : Scope) (definition : Expression) (verbose : Bool) (names : Array String)
    (kind : Kind) (rule : Rule) : Prop :=
  ∃ tag named, ∀ store : Store, store.verbose = verbose → store.names = names →
    (definition.evaluate scope).exec store =
      (.ok (.grammar ⟨kind, tag, rule⟩), { store with names := named })

section Fresh
variable {cell : CellId} {kind : Kind} {scope : Scope} {definition : Expression} {verbose : Bool}
  {names : Array String} {rule : Rule}

theorem Runner.exec_resolve_fresh {store : Store} (fresh : store.Fresh cell kind scope definition)
    (comes : definition.Comes scope store.verbose store.names kind rule) (runner : Runner) :
    ∃ next, (runner.resolve cell).exec store = (.ok rule, next) ∧ next.Defines cell rule := by
  obtain ⟨tag, named, evaluates⟩ := comes
  let busy := store.updateCell cell fun slot => { slot with building := true, calls := slot.calls + 1 }
  have slot : busy.cellAt cell = _ := Store.cellAt_updateCell_self fresh.inside _
  have answered : (runner.perform scope (.finish definition) >>=
      definitionRule (busy.cellAt cell)).exec busy = (.ok rule, { busy with names := named }) := by
    have evaluated : (runner.perform scope (.finish definition)).exec busy = _ := evaluates busy rfl rfl
    rw [exec_bind_ok evaluated, slot, definitionRule, Grammar.asAlternative, fresh.kind, if_pos rfl]
    rfl
  have built : (runner.build cell ⟨fun _ => .finish definition, scope⟩).exec store =
      (.ok rule, Store.updateCell cell (fun slot => { slot with building := false })
        { busy with names := named }) := by
    rw [build, exec_bind_ok (exec_updateCell cell _ store), exec_bind_ok (exec_cellAt cell busy),
      exec_ensuring, answered]
  rw [resolve, exec_bind_ok (exec_cellAt cell store)]
  simp only [fresh.undefined, fresh.idle, fresh.builder, Bool.false_eq_true, ↓reduceIte]
  refine ⟨_, exec_bind_ok built, ?_⟩
  let calm := Store.updateCell cell (fun slot => { slot with building := false }) { busy with names := named }
  have held : cell < busy.cells.size := by
    rw [Store.size_updateCell]
    exact fresh.inside
  have inside : cell < calm.cells.size := by
    rw [Store.size_updateCell]
    exact held
  have unlimited : (calm.cellAt cell).limit = none := by
    have after : calm.cellAt cell = _ := Store.cellAt_updateCell_self held _
    rw [after]
    change (busy.cellAt cell).limit = none
    rw [slot, fresh.unlimited]
  have defines : Store.Defines _ cell rule := Store.defines_updateCell inside unlimited none
  exact ⟨defines.inside, defines.definition, defines.unlimited⟩

/-- Before and after a grammar has been run for the first time. -/
def Moment.prepared (cell : CellId) (kind : Kind) (scope : Scope) (definition : Expression)
    (verbose : Bool) (names : Array String) (rule : Rule) : Moment where
  holds store := store.Defines cell rule ∨
    store.Fresh cell kind scope definition ∧ store.verbose = verbose ∧ store.names = names
  moves _ next := next.Defines cell rule ∨
    next.Fresh cell kind scope definition ∧ next.verbose = verbose ∧ next.names = names
  traced _ holds := by
    obtain defines | ⟨fresh, same⟩ := holds
    · exact .inl ⟨defines.inside, defines.definition, defines.unlimited⟩
    · exact .inr ⟨⟨fresh.inside, fresh.kind, fresh.undefined, fresh.idle, fresh.builder,
        fresh.unlimited⟩, same⟩
  kept _ moved := moved
  trans _ moved := moved

/-- What a definition makes is what it comes to. -/
theorem Expression.Makes.comes {property : Rule → Prop} (makes : definition.Makes scope kind property)
    (verbose : Bool) (names : Array String) :
    ∃ rule, definition.Comes scope verbose names kind rule ∧ property rule := by
  obtain ⟨_, named, ⟨made, rfl, rfl, holds⟩, evaluates⟩ := makes verbose names
  exact ⟨made.rule, ⟨made.tag, named, evaluates⟩, holds⟩

/-- Making a grammar leaves a cell behind that has not been run. -/
theorem Expression.exec_fix (kind : Kind) (binder : String) (definition : Expression) (scope : Scope)
    (store : Store) :
    ∃ (placeholder : Placeholder) (made : Grammar) (next : Store),
      ((fix kind binder definition none).evaluate scope).exec store = (.ok (.grammar made), next) ∧
      placeholder.kind = kind ∧ placeholder.cell = store.cells.size ∧ placeholder.captured = false ∧
      made.Is kind (∃ tag traced, · = .object tag traced (.recursive store.cells.size)) ∧
      next.Fresh store.cells.size kind ((binder, placeholder) :: scope) definition := by
  let placeholder : Placeholder := ⟨kind, store.names.size, store.verbose, store.cells.size, false⟩
  have evaluated : ∃ made next,
      ((fix kind binder definition none).evaluate scope).exec store = (.ok (.grammar made), next) ∧
      made.Is kind (∃ tag traced, · = .object tag traced (.recursive store.cells.size)) ∧
      next.cells = (store.cells.push { name := s!"recursive {kind.noun}", kind, limit := none }).modify
        store.cells.size fun old =>
          { old with builder := some ⟨fun _ => .finish definition, (binder, placeholder) :: scope⟩ } := by
    simp only [fix, evaluate]
    exact ⟨_, _, rfl, ⟨rfl, _, _, rfl⟩, rfl⟩
  obtain ⟨made, next, evaluated, is, cells⟩ := evaluated
  have slot : next.cellAt store.cells.size =
      { name := s!"recursive {kind.noun}", kind, limit := none
        builder := some ⟨fun _ => .finish definition, (binder, placeholder) :: scope⟩ } := by
    simp [Store.cellAt, cells, Array.getElem_modify]
  refine ⟨placeholder, made, next, evaluated, rfl, rfl, rfl, is, ?_⟩
  constructor
  · simp [cells]
  all_goals rw [slot]

variable {text : Text} {rest : List Char} {reading : Reading}

/-- A recursive grammar reads what its definition reads. -/
theorem Setting.Reads.recursive (comes : definition.Comes scope verbose names kind rule)
    (reads : (⟨text, .within cell rule⟩ : Setting).Reads rule rest reading) :
    (⟨text, .prepared cell kind scope definition verbose names rule⟩ : Setting).Reads
      (.recursive cell) rest reading := by
  obtain ⟨enough, entered⟩ := exec_enter_reads reads
  refine .of_step ⟨enough, fun fuel least store holds => ?_⟩
  have resolved : ∃ next, (Runner.resolve (Rule.run fuel) cell).exec store = (.ok rule, next) ∧
      next.Defines cell rule := by
    obtain defines | ⟨fresh, rfl, rfl⟩ := holds
    · exact ⟨store, Runner.exec_resolve defines.definition, defines⟩
    · exact Runner.exec_resolve_fresh fresh comes _
  obtain ⟨next, resolves, defines⟩ := resolved
  obtain ⟨trace, run⟩ := entered fuel least next defines
  exact ⟨_, (exec_bind_ok resolves).trans run,
    .inl ⟨defines.inside, defines.definition, defines.unlimited⟩⟩

end Fresh

end TextGrammar
