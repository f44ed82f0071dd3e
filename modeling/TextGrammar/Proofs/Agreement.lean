import TextGrammar.Proofs.Composition

/-! Stores that agree in all that a run can depend on. Their traces may differ, since no run reads
what happened before; so may the nesting limit of one cell, which is read at one place only. -/

namespace TextGrammar

/-- Cells that differ in their limits at most, and in those only if they need not be the same. -/
structure Cell.Alike (sameLimit : Prop) (first second : Cell) : Prop where
  name : first.name = second.name
  kind : first.kind = second.kind
  builder : first.builder = second.builder
  definition : first.definition = second.definition
  building : first.building = second.building
  active : first.active = second.active
  calls : first.calls = second.calls
  limit : sameLimit → first.limit = second.limit

theorem Cell.Alike.refl (sameLimit : Prop) (cell : Cell) : cell.Alike sameLimit cell :=
  ⟨rfl, rfl, rfl, rfl, rfl, rfl, rfl, fun _ => rfl⟩

namespace Store

theorem cellAt_updateCell (store : Store) (cell other : CellId) (change : Cell → Cell) :
    (store.updateCell cell change).cellAt other =
      if cell = other ∧ other < store.cells.size then change (store.cellAt other)
      else store.cellAt other := by
  simp only [cellAt, updateCell, Array.getD_eq_getD_getElem?, Array.getElem?_modify]
  by_cases same : cell = other
  · subst other
    by_cases inside : cell < store.cells.size <;> simp [inside]
  · simp [same]

theorem cellAt_push (store : Store) (cell : Cell) (names : Array String) (other : CellId) :
    Store.cellAt { store with names, cells := store.cells.push cell } other =
      if other = store.cells.size then cell else store.cellAt other := by
  simp only [cellAt, Array.getD_eq_getD_getElem?, Array.getElem?_push]
  split <;> simp

@[simp] theorem size_updateCell (store : Store) (cell : CellId) (change : Cell → Cell) :
    (store.updateCell cell change).cells.size = store.cells.size := by
  simp [updateCell]

theorem updateCell_updateCell (store : Store) (cell : CellId) (first second : Cell → Cell) :
    (store.updateCell cell first).updateCell cell second =
      store.updateCell cell fun slot => second (first slot) := by
  simp only [updateCell]
  congr 1
  refine Array.ext (by simp) fun index _ _ => ?_
  simp only [Array.getElem_modify]
  split <;> rfl

theorem cellAt_mem {store : Store} {cell : CellId} (inside : cell < store.cells.size) :
    store.cellAt cell ∈ store.cells := by
  simp [cellAt, inside]

theorem cellAt_of_size_le {store : Store} {cell : CellId} (outside : store.cells.size ≤ cell) :
    store.cellAt cell = { name := "", kind := .pattern, limit := none } := by
  simp [cellAt, Nat.not_lt.mpr outside]

namespace BuiltFrom
variable {parts : Parts} {store : Store}

theorem cellAt (built : store.BuiltFrom parts) (cell : CellId) :
    (store.cellAt cell).BuiltFrom parts := by
  rcases Nat.lt_or_ge cell store.cells.size with inside | outside
  · exact built.cells _ (cellAt_mem inside)
  · rw [cellAt_of_size_le outside]
    exact ⟨by simp, by simp⟩

theorem assigned? (built : store.BuiltFrom parts) {name : String} {operand : Operand}
    (found : store.assigned? name = some operand) : operand.BuiltFrom parts := by
  obtain ⟨newer, older, parted, -⟩ := List.lookup_eq_some_iff.mp found
  exact built.assigned (name, operand) (by simp [parted])

theorem assign (built : store.BuiltFrom parts) (name : String) {operand : Operand}
    (held : operand.BuiltFrom parts) : (store.assign name operand).BuiltFrom parts := by
  refine ⟨fun entry member => ?_, built.cells⟩
  rcases List.mem_cons.mp member with rfl | member
  · exact held
  · exact built.assigned entry (List.mem_filter.mp member).1

theorem forget (built : store.BuiltFrom parts) (name : String) :
    (store.forget name).BuiltFrom parts :=
  ⟨fun entry member => built.assigned entry (List.mem_filter.mp member).1, built.cells⟩

theorem pushCell (built : store.BuiltFrom parts) {cell : Cell} (made : cell.BuiltFrom parts) :
    BuiltFrom parts { store with cells := store.cells.push cell } := by
  refine ⟨built.assigned, fun other member => ?_⟩
  rcases Array.mem_push.mp member with member | rfl
  · exact built.cells other member
  · exact made

theorem updateCell (built : store.BuiltFrom parts) (cell : CellId) {change : Cell → Cell}
    (keeps : (change (store.cellAt cell)).BuiltFrom parts) :
    (store.updateCell cell change).BuiltFrom parts := by
  refine ⟨built.assigned, fun other member => ?_⟩
  obtain ⟨index, inside, rfl⟩ := Array.mem_iff_getElem.mp member
  have present : index < store.cells.size := by simpa using inside
  have found : store.cellAt index = store.cells[index] := by simp [Store.cellAt, present]
  simp only [Store.updateCell, Array.getElem_modify]
  split
  next chosen =>
    subst chosen
    rw [← found]
    exact keeps
  next => exact built.cells _ (Array.getElem_mem present)

end BuiltFrom

theorem follow_congr {first second : Store} (owned : ∀ cell, first.heldByCell cell = second.heldByCell cell)
    (unseen pending : List CellId) : first.follow unseen pending = second.follow unseen pending := by
  fun_induction Store.follow first unseen pending with
  | case1 unseen => simp [Store.follow]
  | case2 unseen cell rest member ih =>
    rw [Store.follow, if_pos member, ← owned cell, ih]
  | case3 unseen cell rest absent ih =>
    rw [Store.follow, if_neg absent, ih]

/-- What the ownership of cells depends on. -/
theorem isOwned_congr {first second : Store} (size : first.cells.size = second.cells.size)
    (owned : ∀ cell, first.heldByCell cell = second.heldByCell cell)
    (used : ∀ cell, (first.cellAt cell).inUse = (second.cellAt cell).inUse)
    (direct : first.assigned.flatMap (fun entry => entry.2.owned) ++ first.running.flatMap Rule.owned =
      second.assigned.flatMap (fun entry => entry.2.owned) ++ second.running.flatMap Rule.owned)
    (cell : CellId) : first.isOwned cell = second.isOwned cell := by
  have roots : first.roots = second.roots := by
    simp only [Store.roots, cellsInUse, direct, size, used]
  simp only [Store.isOwned, ownedCells, follow_congr owned, size, roots, used]

/-- Stores with the same names, variables and running grammars, and with cells that are alike. Only
a guarded cell may have another limit. -/
structure Agree (guarded : Option CellId) (first second : Store) : Prop where
  verbose : first.verbose = second.verbose
  names : first.names = second.names
  assigned : first.assigned = second.assigned
  tallies : first.tallies = second.tallies
  running : first.running = second.running
  size : first.cells.size = second.cells.size
  cells : ∀ cell, (first.cellAt cell).Alike (guarded ≠ some cell) (second.cellAt cell)

namespace Agree
variable {guarded : Option CellId} {first second : Store}

theorem refl (guarded : Option CellId) (store : Store) : store.Agree guarded store :=
  ⟨rfl, rfl, rfl, rfl, rfl, rfl, fun _ => .refl _ _⟩

theorem nameOf (agree : Agree guarded first second) (tag : Tag) :
    first.nameOf tag = second.nameOf tag := by
  simp only [Store.nameOf, agree.names]

theorem record (agree : Agree guarded first second) (event other : Event) :
    Agree guarded (first.record event) (second.record other) := by
  obtain ⟨verbose, names, assigned, tallies, running, size, cells⟩ := agree
  exact ⟨verbose, names, assigned, tallies, running, size, cells⟩

theorem withNames (agree : Agree guarded first second) (names : Array String) :
    Agree guarded { first with names } { second with names } := by
  obtain ⟨verbose, _, assigned, tallies, running, size, cells⟩ := agree
  exact ⟨verbose, rfl, assigned, tallies, running, size, cells⟩

theorem withRunning (agree : Agree guarded first second) (running : List Rule) :
    Agree guarded { first with running } { second with running } := by
  obtain ⟨verbose, names, assigned, tallies, _, size, cells⟩ := agree
  exact ⟨verbose, names, assigned, tallies, rfl, size, cells⟩

theorem withTallies (agree : Agree guarded first second) (tallies : List String) :
    Agree guarded { first with tallies } { second with tallies } := by
  obtain ⟨verbose, names, assigned, _, running, size, cells⟩ := agree
  exact ⟨verbose, names, assigned, rfl, running, size, cells⟩

theorem assign (agree : Agree guarded first second) (name : String) (operand : Operand) :
    Agree guarded (first.assign name operand) (second.assign name operand) := by
  obtain ⟨verbose, names, assigned, tallies, running, size, cells⟩ := agree
  exact ⟨verbose, names, by simp [Store.assign, Store.forget, assigned], tallies, running, size, cells⟩

theorem pushCell (agree : Agree guarded first second) (cell : Cell) :
    Agree guarded { first with cells := first.cells.push cell }
      { second with cells := second.cells.push cell } := by
  refine ⟨agree.verbose, agree.names, agree.assigned, agree.tallies, agree.running,
    by simp [agree.size], fun other => ?_⟩
  rw [cellAt_push first cell first.names, cellAt_push second cell second.names, agree.size]
  split
  · exact .refl _ _
  · exact agree.cells other

theorem updateCell (agree : Agree guarded first second) (cell : CellId) (change : Cell → Cell)
    (respects : ∀ old other, old.Alike (guarded ≠ some cell) other →
      (change old).Alike (guarded ≠ some cell) (change other)) :
    Agree guarded (first.updateCell cell change) (second.updateCell cell change) := by
  refine ⟨agree.verbose, agree.names, agree.assigned, agree.tallies, agree.running,
    by simp [agree.size], fun other => ?_⟩
  rw [cellAt_updateCell, cellAt_updateCell, agree.size]
  split
  next chosen =>
    obtain ⟨rfl, -⟩ := chosen
    exact respects _ _ (agree.cells cell)
  next => exact agree.cells other

/-- Ownership depends on nothing that agreeing stores may differ in. -/
theorem isOwned (agree : Agree guarded first second) (cell : CellId) :
    first.isOwned cell = second.isOwned cell := by
  refine isOwned_congr agree.size (fun other => ?_) (fun other => ?_) ?_ cell
  · simp only [heldByCell, ownedByCell, (agree.cells other).definition, (agree.cells other).builder]
  · simp only [Cell.inUse, (agree.cells other).building, (agree.cells other).active]
  · simp only [agree.assigned, agree.running]

end Agree

end Store

end TextGrammar
