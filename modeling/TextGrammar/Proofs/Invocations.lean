import TextGrammar.Proofs.Agreement
import TextGrammar.Proofs.Execution

/-! Invocations of a recursive grammar: what their beginning and their end do to the store, and what
the call of a builder comes to, if there is one. -/

namespace TextGrammar
open TextGrammar.Action

namespace Store

/-- A store in which an invocation of a cell has begun. -/
def enter (store : Store) (cell : CellId) : Store :=
  (store.updateCell cell fun slot => { slot with active := slot.active + 1 }).record (.entered cell)

/-- A store in which an invocation of a cell has ended. -/
def leave (store : Store) (cell : CellId) : Store :=
  (store.updateCell cell fun slot => { slot with active := slot.active - 1 }).record (.left cell)

/-- A store in which the call of a builder has begun. -/
def beginBuild (store : Store) (cell : CellId) : Store :=
  store.updateCell cell fun slot => { slot with building := true, calls := slot.calls + 1 }

/-- A store in which the call of a builder has ended. -/
def endBuild (store : Store) (cell : CellId) : Store :=
  store.updateCell cell fun slot => { slot with building := false }

/-- A store in which the call of a builder has ended with a definition. -/
def settle (store : Store) (cell : CellId) (name : String) (rule : Rule) : Store :=
  ((store.endBuild cell).updateCell cell
    fun slot => { slot with definition := some rule, builder := none }).record (.resolved cell name)

/-- What is left of an invocation is its trace. -/
theorem leave_enter (store : Store) (cell : CellId) (trace : List Event) :
    leave { store.enter cell with trace } cell = { store with trace := .left cell :: trace } := by
  have cells : (store.cells.modify cell fun slot => { slot with active := slot.active + 1 }).modify cell
      (fun slot => { slot with active := slot.active - 1 }) = store.cells := by
    apply Array.ext
    · simp
    · intro index _ _
      simp only [Array.getElem_modify]
      split <;> simp
  simp only [leave, enter, updateCell, record, cells]

end Store

namespace Runner
variable {runner : Runner} {cell : CellId} {store : Store} {rule : Rule} {text : Text} {start : Int}

theorem exec_enter
    (below : ∀ limit, (store.cellAt cell).limit = some limit → (store.cellAt cell).active < limit) :
    (runner.enter cell rule text start).exec store =
      (((runner rule text start).exec (store.enter cell)).1,
        ((runner rule text start).exec (store.enter cell)).2.leave cell) := by
  rw [enter, exec_bind_ok (exec_cellAt cell store)]
  cases limited : (store.cellAt cell).limit with
  | none => rfl
  | some limit =>
    have free := Nat.not_le.mpr (below limit limited)
    simp only [if_neg free]
    rfl

theorem exec_enter_deep {limit : Nat} (limited : (store.cellAt cell).limit = some limit)
    (deep : limit ≤ (store.cellAt cell).active) :
    (runner.enter cell rule text start).exec store =
      (.error (.fault (.tooDeep (store.cellAt cell).name limit start)), store) := by
  rw [enter, exec_bind_ok (exec_cellAt cell store)]
  simp only [limited, if_pos deep]
  rfl

/-- What has been built before need not be built. -/
theorem exec_resolve (resolved : (store.cellAt cell).definition = some rule) :
    (runner.resolve cell).exec store = (.ok rule, store) := by
  rw [resolve, exec_bind_ok (exec_cellAt cell store)]
  simp only [resolved]
  rfl

/-- A call that comes back to a grammar whose builder is being called. -/
theorem exec_resolve_building (undefined : (store.cellAt cell).definition = none)
    (building : (store.cellAt cell).building = true) :
    (runner.resolve cell).exec store = (.error (.fault (.reentered (store.cellAt cell).name)), store) := by
  rw [resolve, exec_bind_ok (exec_cellAt cell store)]
  simp only [undefined, building]
  rfl

theorem exec_resolve_unbound (undefined : (store.cellAt cell).definition = none)
    (idle : (store.cellAt cell).building = false) (unbound : (store.cellAt cell).builder = none) :
    (runner.resolve cell).exec store = (.error (.fault (.noBuilder (store.cellAt cell).name)), store) := by
  rw [resolve, exec_bind_ok (exec_cellAt cell store)]
  simp only [undefined, idle, unbound]
  rfl

/-- What is done while the builder of a cell is called. -/
def calling (runner : Runner) (slot : Cell) (builder : Builder) : Action Rule := do
  definitionRule slot (← runner.perform builder.scope (builder.script slot.calls))

/-- A builder is called with its cell marked. If that comes to a definition, it is kept. -/
theorem exec_resolve_unbuilt {builder : Builder} (undefined : (store.cellAt cell).definition = none)
    (idle : (store.cellAt cell).building = false) (bound : (store.cellAt cell).builder = some builder) :
    (runner.resolve cell).exec store =
      match (runner.calling ((store.beginBuild cell).cellAt cell) builder).exec (store.beginBuild cell) with
      | (.ok rule, after) => (.ok rule, after.settle cell (store.cellAt cell).name rule)
      | (.error halt, after) => (.error halt, after.endBuild cell) := by
  have builds : (runner.build cell builder).exec store =
    (((runner.calling ((store.beginBuild cell).cellAt cell) builder).exec (store.beginBuild cell)).1,
      ((runner.calling ((store.beginBuild cell).cellAt cell) builder).exec
        (store.beginBuild cell)).2.endBuild cell) := rfl
  rw [resolve, exec_bind_ok (exec_cellAt cell store)]
  simp only [undefined, idle, bound, Bool.false_eq_true, if_false]
  rw [exec_bind, builds]
  rcases (runner.calling ((store.beginBuild cell).cellAt cell) builder).exec (store.beginBuild cell) with
    ⟨halt | rule, after⟩
  · rfl
  · rfl

end Runner

end TextGrammar
