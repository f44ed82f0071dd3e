import TextGrammar.Proofs.Agreement

/-! What owns the cells of a store. Following ownership from some cells comes to all the cells that
they lead to, in whatever order the cells are met. -/

namespace TextGrammar.Store
variable {store : Store}

/-- The cells that some cells lead to, themselves included, if each cell owns these others. -/
inductive Follows (owns : CellId → List CellId) (pending : List CellId) : CellId → Prop
  | here {cell : CellId} : cell ∈ pending → Follows owns pending cell
  | further {outer cell : CellId} : Follows owns pending outer → cell ∈ owns outer → Follows owns pending cell

/-- The cells that some cells lead to through definitions, which never change once they are there. -/
abbrev Leads (store : Store) (pending : List CellId) : CellId → Prop := Follows store.ownedByCell pending

/-- The cells that some cells lead to at the moment, be it through builders that are yet to be called. -/
abbrev Reaches (store : Store) (pending : List CellId) : CellId → Prop := Follows store.heldByCell pending

/-- What is followed is met, and what is owned by what is met. -/
theorem follow_meets (store : Store) (unseen pending : List CellId) :
    (∀ cell ∈ pending, cell ∈ unseen → cell ∈ store.follow unseen pending) ∧
      ∀ outer ∈ store.follow unseen pending, ∀ cell ∈ store.heldByCell outer, cell ∈ unseen →
        cell ∈ store.follow unseen pending := by
  fun_induction Store.follow store unseen pending with
  | case1 unseen => simp
  | case2 unseen cell rest member ih =>
    obtain ⟨follows, closed⟩ := ih
    have erased {other : CellId} (inside : other ∈ unseen) (apart : other ≠ cell) :
        other ∈ unseen.erase cell := (List.mem_erase_of_ne apart).mpr inside
    constructor
    · intro other pending inside
      by_cases same : other = cell
      · simp [same]
      · have later : other ∈ rest := (List.mem_cons.mp pending).resolve_left same
        exact List.mem_cons_of_mem _ (follows other (by simp [later]) (erased inside same))
    · intro outer met other owned inside
      by_cases same : other = cell
      · simp [same]
      · refine List.mem_cons_of_mem _ ?_
        obtain rfl | met := List.mem_cons.mp met
        · exact follows other (by simp [owned]) (erased inside same)
        · exact closed outer met other owned (erased inside same)
  | case3 unseen cell rest absent ih =>
    refine ⟨fun other pending inside => ?_, ih.2⟩
    obtain rfl | later := List.mem_cons.mp pending
    · exact absurd inside absent
    · exact ih.1 other later inside

theorem lt_size_of_owned {outer cell : CellId} (owned : cell ∈ store.ownedByCell outer) :
    outer < store.cells.size := by
  rcases Nat.lt_or_ge outer store.cells.size with inside | outside
  · exact inside
  · simp [ownedByCell, cellAt_of_size_le outside] at owned

theorem lt_size_of_held {outer cell : CellId} (held : cell ∈ store.heldByCell outer) : outer < store.cells.size := by
  rcases Nat.lt_or_ge outer store.cells.size with inside | outside
  · exact inside
  · simp [heldByCell, ownedByCell, cellAt_of_size_le outside] at held

theorem ownedByCell_subset_heldByCell (store : Store) (outer : CellId) : store.ownedByCell outer ⊆ store.heldByCell outer :=
  List.subset_append_left _ _

/-- Every cell has an owner that the roots lead to. -/
theorem mem_ownedCells {cell : CellId} (leads : store.Reaches store.roots cell)
    (inside : cell < store.cells.size) : cell ∈ store.ownedCells := by
  obtain ⟨follows, closed⟩ := follow_meets store (List.range store.cells.size) store.roots
  induction leads with
  | here member => exact follows _ member (List.mem_range.mpr inside)
  | further _ owned ih =>
    exact closed _ (ih (lt_size_of_held owned)) _ owned (List.mem_range.mpr inside)

/-- What is closed under ownership is not left. -/
theorem Follows.closed {owns : CellId → List CellId} {pending : List CellId} {within : CellId → Prop} {cell : CellId}
    (follows : Follows owns pending cell) (starts : ∀ cell ∈ pending, within cell)
    (closes : ∀ outer, within outer → ∀ cell ∈ owns outer, within cell) : within cell := by
  induction follows with
  | here member => exact starts _ member
  | further _ owned ih => exact closes _ ih _ owned

/-- Where at least as much is owned. -/
theorem Follows.mono {owns owning : CellId → List CellId} {pending more : List CellId} {cell : CellId}
    (follows : Follows owns pending cell) (wider : ∀ cell ∈ pending, Follows owning more cell)
    (kept : ∀ outer, ∀ cell ∈ owns outer, cell ∈ owning outer) : Follows owning more cell := by
  induction follows with
  | here member => exact wider _ member
  | further _ owned ih => exact .further ih (kept _ _ owned)

theorem Leads.reaches {pending : List CellId} {cell : CellId} (leads : store.Leads pending cell) :
    store.Reaches pending cell :=
  leads.mono (fun _ => .here) store.ownedByCell_subset_heldByCell

/-- Nothing else is met. -/
theorem reaches_of_follow {unseen pending : List CellId} {cell : CellId}
    (met : cell ∈ store.follow unseen pending) : cell ∈ unseen ∧ store.Reaches pending cell := by
  fun_induction Store.follow store unseen pending with
  | case1 unseen => cases met
  | case2 unseen outer rest member ih =>
    obtain rfl | met := List.mem_cons.mp met
    · exact ⟨member, .here List.mem_cons_self⟩
    · obtain ⟨inside, leads⟩ := ih met
      refine ⟨List.mem_of_mem_erase inside, leads.mono (fun other pending => ?_) fun _ _ => id⟩
      obtain owned | later := List.mem_append.mp pending
      · exact .further (.here List.mem_cons_self) owned
      · exact .here (List.mem_cons_of_mem _ later)
  | case3 unseen outer rest absent ih =>
    obtain ⟨inside, leads⟩ := ih met
    exact ⟨inside, leads.mono (fun _ pending => .here (List.mem_cons_of_mem _ pending)) fun _ _ => id⟩

theorem mem_cellsInUse {cell : CellId} :
    cell ∈ store.cellsInUse ↔ cell < store.cells.size ∧ (store.cellAt cell).inUse = true := by
  simp [cellsInUse]

theorem lt_size_of_inUse {cell : CellId} (used : (store.cellAt cell).inUse = true) :
    cell < store.cells.size := by
  rcases Nat.lt_or_ge cell store.cells.size with inside | outside
  · exact inside
  · simp [cellAt_of_size_le outside, Cell.inUse] at used

/-- A cell has an owner if and only if it is there and the roots lead to it. -/
theorem isOwned_iff {cell : CellId} :
    store.isOwned cell = true ↔ cell < store.cells.size ∧ store.Reaches store.roots cell := by
  rw [isOwned, Bool.or_eq_true, List.contains_iff_mem]
  constructor
  · intro owned
    obtain used | met := owned
    · have inside := lt_size_of_inUse used
      exact ⟨inside, .here (List.mem_append_right _ (mem_cellsInUse.mpr ⟨inside, used⟩))⟩
    · obtain ⟨inside, leads⟩ := reaches_of_follow met
      exact ⟨List.mem_range.mp inside, leads⟩
  · rintro ⟨inside, leads⟩
    exact .inr (mem_ownedCells leads inside)

end TextGrammar.Store
