import TextGrammar.Proofs.CellChanges

/-! How often builders are called. However calls of builders are nested and whatever comes of them, a
cell gets at most one definition, which then stays and is what every later use of the cell runs; a
call that fails leaves the cell as it was, ready for another one. -/

namespace TextGrammar
open TextGrammar.Action

/-- Whether an event tells that the definition of a cell was built. -/
def Event.resolves (cell : CellId) : Event → Bool
  | .resolved other _ => other == cell
  | _ => false

/-- How often the log says that the definition of a cell was built. -/
def Store.records (store : Store) (cell : CellId) : Nat := store.trace.countP (·.resolves cell)

/-- The definitions of a cell, of which there is one at most. -/
def Cell.definitions (slot : Cell) : Nat := slot.definition.isSome.toNat

theorem Cell.definitions_none {slot : Cell} (undefined : slot.definition = none) : slot.definitions = 0 := by
  simp [definitions, undefined]

theorem Cell.definitions_some {slot : Cell} {rule : Rule} (defined : slot.definition = some rule) :
    slot.definitions = 1 := by
  simp [definitions, defined]

/-- What may become of a cell while its builder may be called: nothing, where that is being done
already or is no longer needed, and else any number of calls, of which only the last one comes to a
definition. -/
structure Cell.Tended (before after : Cell) : Prop where
  name : after.name = before.name
  building : after.building = before.building
  calls : before.calls ≤ after.calls
  kept : before.definition.isSome ∨ before.building →
    after.definition = before.definition ∧ after.builder = before.builder ∧ after.calls = before.calls
  unresolved : after.definition = none → after.builder = before.builder
  resolved : before.definition = none → after.definition.isSome →
    after.builder = none ∧ before.calls < after.calls

namespace Cell.Tended
variable {first second third : Cell}

theorem refl (slot : Cell) : slot.Tended slot where
  name := rfl
  building := rfl
  calls := Nat.le_refl _
  kept _ := ⟨rfl, rfl, rfl⟩
  unresolved _ := rfl
  resolved undefined defined := by simp [undefined] at defined

/-- A definition stays. -/
theorem defined (tended : first.Tended second) {rule : Rule} (is : first.definition = some rule) :
    second.definition = some rule :=
  (tended.kept (.inl (by simp [is]))).1.trans is

theorem trans (one : first.Tended second) (two : second.Tended third) : first.Tended third where
  name := two.name.trans one.name
  building := two.building.trans one.building
  calls := Nat.le_trans one.calls two.calls
  kept was := by
    obtain ⟨definition, builder, calls⟩ := one.kept was
    obtain ⟨definition', builder', calls'⟩ := two.kept (by rwa [definition, one.building])
    exact ⟨definition'.trans definition, builder'.trans builder, calls'.trans calls⟩
  unresolved none := by
    cases between : second.definition with
    | none => exact (two.unresolved none).trans (one.unresolved between)
    | some rule => simp [two.defined between] at none
  resolved none some := by
    cases between : second.definition with
    | none =>
      obtain ⟨builder, calls⟩ := two.resolved between some
      exact ⟨builder, Nat.lt_of_le_of_lt one.calls calls⟩
    | some rule =>
      obtain ⟨builder, calls⟩ := one.resolved none (by simp [between])
      obtain ⟨-, same, fixed⟩ := two.kept (.inl (by simp [between]))
      exact ⟨same.trans builder, fixed ▸ calls⟩

end Cell.Tended

/-- A store whose cells have been tended, with a record for each new definition. -/
structure Store.Tended (before after : Store) : Prop where
  size : before.cells.size ≤ after.cells.size
  cells : ∀ cell < before.cells.size, (before.cellAt cell).Tended (after.cellAt cell)
  idle : ∀ cell, before.cells.size ≤ cell → (after.cellAt cell).building = false
  records : ∀ cell, after.records cell + (before.cellAt cell).definitions =
    before.records cell + (after.cellAt cell).definitions

namespace Store.Tended
variable {first second third : Store}

theorem of_same (same : second.cells = first.cells) (trace : ∀ cell, second.records cell = first.records cell) :
    first.Tended second where
  size := Nat.le_of_eq (congrArg Array.size same).symm
  cells cell _ := by
    rw [show second.cellAt cell = first.cellAt cell by rw [Store.cellAt, same, Store.cellAt]]
    exact .refl _
  idle cell outside := (rests_outside (same ▸ outside)).building
  records cell := by
    rw [trace, show second.cellAt cell = first.cellAt cell by rw [Store.cellAt, same, Store.cellAt]]

theorem refl (store : Store) : store.Tended store := of_same rfl fun _ => rfl

theorem trans (one : first.Tended second) (two : second.Tended third) : first.Tended third where
  size := Nat.le_trans one.size two.size
  cells cell inside := (one.cells cell inside).trans (two.cells cell (Nat.lt_of_lt_of_le inside one.size))
  idle cell outside := by
    rcases Nat.lt_or_ge cell second.cells.size with inside | beyond
    · exact (two.cells cell inside).building.trans (one.idle cell outside)
    · exact two.idle cell beyond
  records cell := by
    have before := one.records cell
    have after := two.records cell
    omega

theorem withCell (store : Store) {slot : Cell} (idle : slot.building = false) (undefined : slot.definition = none) :
    store.Tended (store.withCell slot) where
  size := by simp [Store.withCell]
  cells cell inside := by
    rw [cellAt_withCell, if_neg (Nat.ne_of_lt inside)]
    exact .refl _
  idle cell outside := by
    rw [cellAt_withCell]
    split
    · exact idle
    · exact (rests_outside outside).building
  records cell := by
    rw [cellAt_withCell]
    split
    next new => simp [Cell.definitions, undefined, cellAt_of_size_le (Nat.le_of_eq new.symm), Store.records,
      Store.withCell]
    · rfl

/-- A change to a cell that has nothing to do with its definition is taken back. -/
theorem around {store mid : Store} {cell : CellId} {opens : Cell → Cell}
    (tended : (store.updateCell cell opens).Tended mid) (closes : Cell → Cell)
    (opened : ∀ slot, (opens slot).definition = slot.definition)
    (closed : ∀ slot, (closes slot).definition = slot.definition)
    (idle : ∀ slot : Cell, slot.building = false → (closes slot).building = false)
    (fits : ∀ slot, (opens (store.cellAt cell)).Tended slot → (store.cellAt cell).Tended (closes slot)) :
    store.Tended (mid.updateCell cell closes) where
  size := by simpa using tended.size
  cells := cells_around (by simpa using tended.size) (by simpa using tended.cells) closes fits
  idle other outside := by
    have after := tended.idle other (by simpa using outside)
    rw [cellAt_updateCell]
    split
    · exact idle _ after
    · exact after
  records other := by
    have kept := tended.records other
    have before : ((store.updateCell cell opens).cellAt other).definitions = (store.cellAt other).definitions := by
      rw [cellAt_updateCell]
      split
      · simp only [Cell.definitions, opened]
      · rfl
    have after : ((mid.updateCell cell closes).cellAt other).definitions = (mid.cellAt other).definitions := by
      rw [cellAt_updateCell]
      split
      · simp only [Cell.definitions, closed]
      · rfl
    rw [after, ← before]
    exact kept

/-- A definition that was not there, after a call of the builder. -/
theorem settled {store mid : Store} (tended : store.Tended mid) {cell : CellId} (name : String) (rule : Rule)
    (inside : cell < store.cells.size) (undefined : (store.cellAt cell).definition = none)
    (idle : (store.cellAt cell).building = false) (pending : (mid.cellAt cell).definition = none)
    (called : (store.cellAt cell).calls < (mid.cellAt cell).calls) :
    store.Tended ((mid.updateCell cell ({ · with definition := some rule, builder := none })).record
      (.resolved cell name)) := by
  have later : cell < mid.cells.size := Nat.lt_of_lt_of_le inside tended.size
  have slot (other : CellId) : ((mid.updateCell cell ({ · with definition := some rule, builder := none })).record
      (.resolved cell name)).cellAt other =
      if cell = other then { mid.cellAt other with definition := some rule, builder := none }
      else mid.cellAt other := by
    change (mid.updateCell cell _).cellAt other = _
    rw [cellAt_updateCell]
    by_cases same : cell = other
    · subst same
      rw [if_pos ⟨rfl, later⟩, if_pos rfl]
    · rw [if_neg fun is => same is.1, if_neg same]
  have before := tended.cells cell inside
  constructor
  case size => simpa [Store.record] using tended.size
  case cells =>
    intro other within
    rw [slot]
    split
    next same =>
      subst same
      refine ⟨before.name, before.building, before.calls, fun was => ?_, fun none => ?_, fun _ _ => ?_⟩
      · simp [undefined, idle] at was
      · cases none
      · exact ⟨rfl, called⟩
    · exact tended.cells other within
  case idle =>
    intro other outside
    rw [slot]
    split
    next same =>
      subst same
      exact absurd inside (Nat.not_lt.mpr outside)
    · exact tended.idle other outside
  case records =>
    intro other
    have kept := tended.records other
    have count : Store.records ((mid.updateCell cell ({ · with definition := some rule, builder := none })).record
        (.resolved cell name)) other = mid.records other + if cell = other then 1 else 0 := by
      simp only [Store.records, Store.record, List.countP_cons, Event.resolves, Store.updateCell, beq_iff_eq]
    rw [count, slot]
    split
    next same =>
      subst same
      rw [Cell.definitions_none undefined, Cell.definitions_none pending] at kept
      rw [Cell.definitions_none undefined, Cell.definitions_some rfl]
      omega
    · exact kept

end Store.Tended

/-- The slot of a cell whose builder is called, at the end of the call. -/
theorem Store.Tended.called {store after : Store} {cell : CellId} (inside : cell < store.cells.size)
    (tended : (store.beginBuild cell).Tended after) :
    (after.cellAt cell).definition = (store.cellAt cell).definition ∧
      (after.cellAt cell).builder = (store.cellAt cell).builder ∧
      (after.cellAt cell).calls = (store.cellAt cell).calls + 1 := by
  have kept := (tended.cells cell (by simpa [Store.beginBuild] using inside)).kept
  have slot : (store.beginBuild cell).cellAt cell =
      { store.cellAt cell with building := true, calls := (store.cellAt cell).calls + 1 } := by
    rw [Store.beginBuild, Store.cellAt_updateCell, if_pos ⟨rfl, inside⟩]
  rw [slot] at kept
  exact kept (.inr rfl)

theorem Store.inside_of_builder {store : Store} {cell : CellId} (bound : (store.cellAt cell).builder.isSome) :
    cell < store.cells.size := by
  rcases Nat.lt_or_ge cell store.cells.size with inside | outside
  · exact inside
  · simp [Store.cellAt_of_size_le outside] at bound

namespace Conduct

/-- Cells are tended. -/
def tending : Conduct where
  free _ := True
  sound _ := True
  leads := Store.Tended

theorem tending_allows {before after : Store} (tended : before.Tended after) : tending.Allows before after :=
  ⟨trivial, tended⟩

theorem tending_lawful : tending.Lawful where
  refl := .refl
  trans := .trans
  aside _ same := tending_allows (.of_same same.cells fun _ => by rw [Store.records, same.trace, Store.records])
  record := by
    intro store event _ passing
    refine tending_allows (.of_same rfl fun cell => ?_)
    cases event <;> first | rfl | cases passing
  refuse _ _ := tending_allows (.of_same rfl fun _ => rfl)
  assigned _ _ _ _ := trivial
  defined _ _ _ _ _ := trivial
  bound _ _ _ _ _ := trivial
  owned _ _ := trivial
  make name kind limit builder _ _ := ⟨trivial, tending_allows (.withCell _ rfl rfl)⟩
  assign _ _ _ _ := tending_allows (.of_same rfl fun _ => rfl)
  forget _ _ := tending_allows (.of_same rfl fun _ => rfl)
  hold := by
    intro store rule _ _
    refine ⟨trivial, fun {after} allowed => tending_allows ?_⟩
    have tended : (store.hold rule).Tended after := allowed.leads
    have begun : store.Tended (store.hold rule) := .of_same rfl fun _ => rfl
    exact begun.trans (tended.trans (.of_same rfl fun _ => rfl))
  build := by
    intro store cell _ _ undefined idle bound
    refine ⟨trivial, fun {after} allowed => ?_⟩
    have inside := Store.inside_of_builder bound
    have tended : (store.beginBuild cell).Tended after := allowed.leads
    obtain ⟨same, -, calls⟩ := tended.called inside
    have ended : store.Tended (after.endBuild cell) := by
      refine Store.Tended.around tended _ (fun _ => rfl) (fun _ => rfl) (fun _ _ => rfl) fun slot fits => ?_
      obtain ⟨none, builder, calls⟩ := fits.kept (.inr rfl)
      refine ⟨fits.name, idle.symm, by simp [calls], fun was => ?_, fun _ => builder, fun _ some => ?_⟩
      · simp [undefined, idle] at was
      · simp [none, undefined] at some
    have later : cell < after.cells.size := Nat.lt_of_lt_of_le inside (by simpa [Store.beginBuild] using tended.size)
    have slot : (after.endBuild cell).cellAt cell = { after.cellAt cell with building := false } := by
      rw [Store.endBuild, Store.cellAt_updateCell, if_pos ⟨rfl, later⟩]
    refine ⟨tending_allows ended, fun {rule} _ => tending_allows ?_⟩
    refine ended.settled _ rule inside undefined idle ?_ ?_
    · rw [slot]
      exact same.trans undefined
    · rw [slot]
      exact Nat.lt_of_lt_of_eq (Nat.lt_succ_self _) calls.symm
  enter := by
    intro store cell _ _
    refine ⟨trivial, fun {after} allowed => tending_allows ?_⟩
    have tended : (store.enter cell).Tended after := allowed.leads
    have begun : (store.updateCell cell fun slot => { slot with active := slot.active + 1 }).Tended
        (store.enter cell) := .of_same rfl fun _ => rfl
    have left := (begun.trans tended).around (fun slot => { slot with active := slot.active - 1 })
      (fun _ => rfl) (fun _ => rfl) (fun _ => id) fun slot fits =>
        ⟨fits.name, fits.building, fits.calls, fits.kept, fits.unresolved, fits.resolved⟩
    exact left.trans (.of_same rfl fun _ => rfl)

end Conduct

/-- A cell with a builder that has not come to a definition and is not being called. -/
structure Cell.Pending (slot : Cell) (builder : Builder) : Prop where
  undefined : slot.definition = none
  idle : slot.building = false
  bound : slot.builder = some builder

/-- What a caller may ask of a cell. -/
inductive CellCall
  | resolve (cell : CellId)
  | invoke (cell : CellId) (text : Text) (start : Int)

def CellCall.perform (runner : Runner) : CellCall → Action Unit
  | .resolve cell => do let _ ← runner.resolve cell
  | .invoke cell text start => do let _ ← runner.invoke cell text start

/-- The store after some calls, each of which may end in any way. -/
def Runner.afterCalls (runner : Runner) (calls : List CellCall) (store : Store) : Store :=
  calls.foldl (fun store call => ((call.perform runner).exec store).2) store

/-- How the cells of a session come to their definitions, at whatever moment and for whatever builders:
a moment may be one at which other builders are being called, or the same one. -/
structure Runner.ResolvesOnce (runner : Runner) : Prop where
  /-- A definition that is there is what a cell answers with, and nothing else happens. -/
  defined : ∀ {store cell rule}, (store.cellAt cell).definition = some rule →
    (runner.resolve cell).exec store = (.ok rule, store)
  /-- A cell whose builder is being called is refused, without another call. -/
  reentered : ∀ {store cell}, (store.cellAt cell).definition = none → (store.cellAt cell).building = true →
    (runner.resolve cell).exec store = (.error (.fault (.reentered (store.cellAt cell).name)), store) ∧
      ∀ text start, (runner.invoke cell text start).exec store =
        (.error (.fault (.reentered (store.cellAt cell).name)), store)
  /-- The call of a builder begins with its cell marked, and whatever it has done, the mark is there. -/
  marked : ∀ {store : Store} {cell builder}, (store.cellAt cell).Pending builder → ∀ scope script,
    (((runner.perform scope script).exec (store.beginBuild cell)).2.cellAt cell).building = true
  /-- A builder that succeeds is called once for it, and dropped, and the log says so once. -/
  succeeded : ∀ {store cell builder rule after}, (store.cellAt cell).Pending builder →
    (runner.resolve cell).exec store = (.ok rule, after) →
    (after.cellAt cell).definition = some rule ∧ (after.cellAt cell).builder = none ∧
      (after.cellAt cell).building = false ∧ (after.cellAt cell).calls = (store.cellAt cell).calls + 1 ∧
      after.records cell = store.records cell + 1
  /-- A builder that fails was called once, and the cell is as it was, for another call. -/
  failed : ∀ {store cell builder halt after}, (store.cellAt cell).Pending builder →
    (runner.resolve cell).exec store = (.error halt, after) →
    (after.cellAt cell).Pending builder ∧ (after.cellAt cell).calls = (store.cellAt cell).calls + 1 ∧
      after.records cell = store.records cell ∧
      ∀ text start, (runner.invoke cell text start).exec store = (.error halt, after)
  /-- Whatever a builder does, and whatever runs, takes care of all cells. -/
  performs : ∀ scope script (store : Store), store.Tended ((runner.perform scope script).exec store).2
  runs : ∀ rule text start (store : Store), store.Tended ((runner rule text start).exec store).2
  /-- So does any number of calls. -/
  calls : ∀ calls (store : Store), store.Tended (runner.afterCalls calls store)
  /-- A cell that has answered once gives the same answer ever after. -/
  stays : ∀ {store cell rule after}, (runner.resolve cell).exec store = (.ok rule, after) →
    ∀ calls, (runner.resolve cell).exec (runner.afterCalls calls after) =
      (.ok rule, runner.afterCalls calls after)
  /-- No cell is marked after calls that began when none was. -/
  idle : ∀ {store : Store}, (∀ cell, (store.cellAt cell).building = false) →
    ∀ calls cell, ((runner.afterCalls calls store).cellAt cell).building = false

namespace Runner
variable {runner : Runner} (runs : Conduct.tending.Runs runner)
include runs

theorem afterCalls_tended (calls : List CellCall) (store : Store) : store.Tended (runner.afterCalls calls store) := by
  have lawful := Conduct.tending_lawful
  have performs (call : CellCall) : Conduct.tending.Keeps (fun _ => True) (call.perform runner) := by
    cases call with
    | resolve cell => exact lawful.bind (lawful.resolve runs trivial) fun _ _ => lawful.pure trivial
    | invoke cell text start => exact lawful.bind (lawful.invoke runs trivial text start) fun _ _ => lawful.pure trivial
  induction calls generalizing store with
  | nil => exact .refl store
  | cons call rest ih =>
    have first : store.Tended ((call.perform runner).exec store).2 := (performs call store trivial).1.leads
    exact first.trans (ih _)

/-- The slot of a pending cell at the end of a call of its builder, however that has come about. -/
theorem slot_of_calling {store : Store} {cell : CellId} {builder : Builder}
    (pending : (store.cellAt cell).Pending builder) {outcome : Except Halt Rule} {last : Store}
    (called : (runner.calling ((store.beginBuild cell).cellAt cell) builder).exec (store.beginBuild cell) =
      (outcome, last)) :
    cell < last.cells.size ∧ (last.cellAt cell).definition = none ∧
      (last.cellAt cell).builder = some builder ∧
      (last.cellAt cell).calls = (store.cellAt cell).calls + 1 := by
  have inside := Store.inside_of_builder (by simp [pending.bound] : (store.cellAt cell).builder.isSome)
  have tended : (store.beginBuild cell).Tended last := by
    have owns : builder.scope.OwnsOnly Conduct.tending.free := fun _ _ => trivial
    have kept := (Conduct.tending_lawful.calling runs ((store.beginBuild cell).cellAt cell) owns
      (store.beginBuild cell) trivial).1.leads
    rwa [called] at kept
  obtain ⟨definition, bound, calls⟩ := tended.called inside
  have later : cell < last.cells.size :=
    Nat.lt_of_lt_of_le inside (by simpa [Store.beginBuild] using tended.size)
  exact ⟨later, definition.trans pending.undefined, bound.trans pending.bound, calls⟩

/-- A builder that succeeds is called once. -/
theorem resolve_succeeded {store after : Store} {cell : CellId} {builder : Builder} {rule : Rule}
    (pending : (store.cellAt cell).Pending builder)
    (answered : (runner.resolve cell).exec store = (.ok rule, after)) :
    cell < after.cells.size ∧ (after.cellAt cell).definition = some rule ∧
      (after.cellAt cell).builder = none ∧ (after.cellAt cell).building = false ∧
      (after.cellAt cell).calls = (store.cellAt cell).calls + 1 := by
  rw [exec_resolve_unbuilt pending.undefined pending.idle pending.bound] at answered
  rcases called : (runner.calling ((store.beginBuild cell).cellAt cell) builder).exec
    (store.beginBuild cell) with ⟨halt | made, last⟩ <;> rw [called] at answered
  · cases answered
  · obtain ⟨later, -, -, calls⟩ := slot_of_calling runs pending called
    cases answered
    have slot : (last.settle cell (store.cellAt cell).name rule).cellAt cell =
        { last.cellAt cell with building := false, definition := some rule, builder := none } := by
      change (Store.updateCell _ _ (last.updateCell _ _)).cellAt cell = _
      rw [Store.cellAt_updateCell, if_pos ⟨rfl, by simpa using later⟩, Store.cellAt_updateCell,
        if_pos ⟨rfl, later⟩]
    refine ⟨by simpa [Store.settle, Store.endBuild, Store.record] using later, ?_⟩
    rw [slot]
    exact ⟨rfl, rfl, rfl, calls⟩

/-- So is one that fails, and may be called again. -/
theorem resolve_failed {store after : Store} {cell : CellId} {builder : Builder} {halt : Halt}
    (pending : (store.cellAt cell).Pending builder)
    (failed : (runner.resolve cell).exec store = (.error halt, after)) :
    (after.cellAt cell).Pending builder ∧ (after.cellAt cell).calls = (store.cellAt cell).calls + 1 := by
  rw [exec_resolve_unbuilt pending.undefined pending.idle pending.bound] at failed
  rcases called : (runner.calling ((store.beginBuild cell).cellAt cell) builder).exec
    (store.beginBuild cell) with ⟨cause | made, last⟩ <;> rw [called] at failed
  · obtain ⟨later, undefined, bound, calls⟩ := slot_of_calling runs pending called
    cases failed
    have slot : (last.endBuild cell).cellAt cell = { last.cellAt cell with building := false } := by
      rw [Store.endBuild, Store.cellAt_updateCell, if_pos ⟨rfl, later⟩]
    rw [slot]
    exact ⟨⟨undefined, rfl, bound⟩, calls⟩
  · cases failed

/-- What a cell has answered with is its definition. -/
theorem definition_of_resolve {store after : Store} {cell : CellId} {rule : Rule}
    (answered : (runner.resolve cell).exec store = (.ok rule, after)) :
    cell < after.cells.size ∧ (after.cellAt cell).definition = some rule := by
  cases defined : (store.cellAt cell).definition with
  | some other =>
    rw [exec_resolve defined] at answered
    cases answered
    refine ⟨?_, defined⟩
    rcases Nat.lt_or_ge cell store.cells.size with inside | outside
    · exact inside
    · simp [Store.cellAt_of_size_le outside] at defined
  | none =>
    cases idle : (store.cellAt cell).building with
    | true =>
      rw [exec_resolve_building defined idle] at answered
      cases answered
    | false =>
      cases bound : (store.cellAt cell).builder with
      | none =>
        rw [exec_resolve_unbound defined idle bound] at answered
        cases answered
      | some builder =>
        obtain ⟨inside, definition, -⟩ := resolve_succeeded runs ⟨defined, idle, bound⟩ answered
        exact ⟨inside, definition⟩

/-- Cells come to one definition each, whatever is run and however it ends. -/
theorem resolvesOnce_of_runs : ResolvesOnce runner where
  defined := exec_resolve
  reentered undefined building :=
    ⟨exec_resolve_building undefined building, fun _ _ =>
      exec_bind_error (exec_resolve_building undefined building)⟩
  marked := by
    intro store cell builder pending scope script
    have inside := Store.inside_of_builder (by simp [pending.bound] : (store.cellAt cell).builder.isSome)
    have tended : (store.beginBuild cell).Tended ((runner.perform scope script).exec (store.beginBuild cell)).2 :=
      (Conduct.tending_lawful.perform runs (fun _ _ => trivial) script _ trivial).1.leads
    rw [(tended.cells cell (by simpa [Store.beginBuild] using inside)).building, Store.beginBuild,
      Store.cellAt_updateCell, if_pos ⟨rfl, inside⟩]
  succeeded := by
    intro store cell builder rule after pending answered
    obtain ⟨-, definition, dropped, idle, calls⟩ := resolve_succeeded runs pending answered
    have tended : store.Tended ((runner.resolve cell).exec store).2 :=
      (Conduct.tending_lawful.resolve runs trivial store trivial).1.leads
    have records := tended.records cell
    rw [answered, Cell.definitions_none pending.undefined, Cell.definitions_some definition] at records
    exact ⟨definition, dropped, idle, calls, records⟩
  failed := by
    intro store cell builder halt after pending failed
    obtain ⟨still, calls⟩ := resolve_failed runs pending failed
    have tended : store.Tended ((runner.resolve cell).exec store).2 :=
      (Conduct.tending_lawful.resolve runs trivial store trivial).1.leads
    have records := tended.records cell
    rw [failed, Cell.definitions_none pending.undefined, Cell.definitions_none still.undefined] at records
    exact ⟨still, calls, records, fun _ _ => exec_bind_error failed⟩
  performs scope script store := (Conduct.tending_lawful.perform runs (fun _ _ => trivial) script store trivial).1.leads
  runs rule text start store := (runs rule text start (fun _ _ => trivial) store trivial).1.leads
  calls := afterCalls_tended runs
  stays := by
    intro store cell rule after answered calls
    obtain ⟨inside, defined⟩ := definition_of_resolve runs answered
    exact exec_resolve (((afterCalls_tended runs calls after).cells cell inside).defined defined)
  idle := by
    intro store none calls cell
    have tended := afterCalls_tended runs calls store
    rcases Nat.lt_or_ge cell store.cells.size with inside | outside
    · exact (tended.cells cell inside).building.trans (none cell)
    · exact tended.idle cell outside

end Runner

/-- In every session a builder comes to a definition at most once, and a call that fails leaves
everything ready for the next one. -/
theorem Rule.run_resolvesOnce (fuel : Nat) : Runner.ResolvesOnce (Rule.run fuel) :=
  Runner.resolvesOnce_of_runs (Conduct.tending_lawful.run fuel)

end TextGrammar
