import TextGrammar.Proofs.CellChanges

/-! Cells without owners. Nothing leads to such a cell but placeholders, and these are refused, so
nothing will ever lead to it again: a grammar that has been let go is gone for good. -/

namespace TextGrammar
open TextGrammar.Action

/-- Nothing that may run owns any of these cells, and none of them is in use. -/
structure Store.Spares (gone : CellId → Prop) (store : Store) : Prop where
  made : ∀ cell, gone cell → cell < store.cells.size
  assigned : ∀ entry ∈ store.assigned, entry.2.OwnsOnly fun cell => ¬ gone cell
  running : ∀ rule ∈ store.running, rule.OwnsOnly fun cell => ¬ gone cell
  defined : ∀ {cell rule}, ¬ gone cell → (store.cellAt cell).definition = some rule →
    rule.OwnsOnly fun cell => ¬ gone cell
  bound : ∀ {cell builder}, ¬ gone cell → (store.cellAt cell).builder = some builder →
    builder.scope.OwnsOnly fun cell => ¬ gone cell
  unused : ∀ cell, gone cell → (store.cellAt cell).inUse = false

/-- Whether a cell was made that has no owner any more. -/
def Store.Gone (store : Store) (cell : CellId) : Prop :=
  cell < store.cells.size ∧ ¬ store.Reaches store.roots cell

namespace Store.Spares
variable {gone : CellId → Prop} {store after : Store}

/-- What is spared has no owner. -/
theorem not_reaches (spares : store.Spares gone) {cell : CellId} (is : gone cell) :
    ¬ store.Reaches store.roots cell := by
  intro reaches
  induction reaches with
  | @here cell member =>
    simp only [roots, List.mem_append, List.mem_flatMap] at member
    obtain (⟨entry, present, owned⟩ | ⟨rule, present, owned⟩) | used := member
    · exact spares.assigned entry present cell owned is
    · exact spares.running rule present cell owned is
    · have free := spares.unused cell is
      rw [(mem_cellsInUse.mp used).2] at free
      cases free
  | @further outer cell _ held ih =>
    obtain owned | captured := List.mem_append.mp held
    · cases defined : (store.cellAt outer).definition with
      | none => simp [ownedByCell, defined] at owned
      | some rule =>
        rw [ownedByCell, defined] at owned
        exact spares.defined ih defined cell owned is
    · cases bound : (store.cellAt outer).builder with
      | none => simp [bound] at captured
      | some builder =>
        rw [bound] at captured
        exact spares.bound ih bound cell captured is

/-- Something without an owner is owned by nothing that has one. -/
theorem kept_of_held {outer cell : CellId} (inside : outer < store.cells.size) (kept : ¬ store.Gone outer)
    (held : cell ∈ store.heldByCell outer) : ¬ store.Gone cell := by
  intro gone
  have reaches : store.Reaches store.roots outer := by
    by_contra none
    exact kept ⟨inside, none⟩
  exact gone.2 (reaches.further held)

/-- All that is without an owner is spared. -/
theorem of_gone (store : Store) : store.Spares store.Gone where
  made _ is := is.1
  assigned entry member cell owned is := by
    apply is.2
    apply Follows.here
    exact List.mem_append_left _ (List.mem_append_left _ (List.mem_flatMap.mpr ⟨entry, member, owned⟩))
  running rule member cell owned is := by
    apply is.2
    apply Follows.here
    exact List.mem_append_left _ (List.mem_append_right _ (List.mem_flatMap.mpr ⟨rule, member, owned⟩))
  defined := by
    intro outer rule kept is cell owned
    have held : cell ∈ store.heldByCell outer := by
      apply ownedByCell_subset_heldByCell
      rw [ownedByCell, is]
      exact owned
    exact kept_of_held (lt_size_of_held held) kept held
  bound := by
    intro outer builder kept is cell owned
    have held : cell ∈ store.heldByCell outer := by
      rw [heldByCell, is]
      exact List.mem_append_right _ owned
    exact kept_of_held (lt_size_of_held held) kept held
  unused cell is := by
    by_contra used
    rw [Bool.not_eq_false] at used
    exact is.2 (.here (List.mem_append_right _ (mem_cellsInUse.mpr ⟨is.1, used⟩)))

theorem of_same (spares : store.Spares gone) (cells : after.cells = store.cells)
    (assigned : ∀ entry ∈ after.assigned, entry.2.OwnsOnly fun cell => ¬ gone cell)
    (running : ∀ rule ∈ after.running, rule.OwnsOnly fun cell => ¬ gone cell) : after.Spares gone := by
  have same (cell : CellId) : after.cellAt cell = store.cellAt cell := by
    rw [cellAt, cells, cellAt]
  refine ⟨?_, assigned, running, ?_, ?_, ?_⟩
  · rw [cells]
    exact spares.made
  · intro cell rule
    rw [same]
    exact spares.defined
  · intro cell builder
    rw [same]
    exact spares.bound
  · intro cell
    rw [same]
    exact spares.unused cell

/-- Of the other cells definitions and builders may change, to such as own none of these either. -/
theorem updateCell (spares : store.Spares gone) {cell : CellId} (kept : ¬ gone cell) (change : Cell → Cell)
    (owns : ∀ rule, (change (store.cellAt cell)).definition = some rule →
      rule.OwnsOnly fun cell => ¬ gone cell)
    (captures : ∀ builder, (change (store.cellAt cell)).builder = some builder →
      builder.scope.OwnsOnly fun cell => ¬ gone cell) : (store.updateCell cell change).Spares gone where
  made other is := by simpa using spares.made other is
  assigned := spares.assigned
  running := spares.running
  defined := by
    intro other rule free is
    rw [cellAt_updateCell] at is
    split at is
    next same =>
      obtain ⟨rfl, -⟩ := same
      exact owns rule is
    · exact spares.defined free is
  bound := by
    intro other builder free is
    rw [cellAt_updateCell] at is
    split at is
    next same =>
      obtain ⟨rfl, -⟩ := same
      exact captures builder is
    · exact spares.bound free is
  unused other is := by
    rw [cellAt_updateCell, if_neg]
    · exact spares.unused other is
    · intro same
      exact kept (same.1 ▸ is)

theorem withCell (spares : store.Spares gone) {slot : Cell} (undefined : slot.definition = none)
    (captures : ∀ builder, slot.builder = some builder → builder.scope.OwnsOnly fun cell => ¬ gone cell) :
    (store.withCell slot).Spares gone where
  made cell is := by
    have inside := spares.made cell is
    simpa [Store.withCell] using Nat.lt_succ_of_lt inside
  assigned := spares.assigned
  running := spares.running
  defined := by
    intro cell rule free is
    rw [cellAt_withCell] at is
    split at is
    · rw [undefined] at is
      cases is
    · exact spares.defined free is
  bound := by
    intro cell builder free is
    rw [cellAt_withCell] at is
    split at is
    · exact captures builder is
    · exact spares.bound free is
  unused cell is := by
    rw [cellAt_withCell, if_neg (Nat.ne_of_lt (spares.made cell is))]
    exact spares.unused cell is

end Store.Spares

namespace Conduct

/-- Cells without owners are spared. -/
def sparing (gone : CellId → Prop) : Conduct where
  free cell := ¬ gone cell
  sound := Store.Spares gone
  leads _ _ := True

theorem sparing_lawful (gone : CellId → Prop) : (sparing gone).Lawful where
  refl _ := trivial
  trans _ _ := trivial
  aside spares same :=
    ⟨spares.of_same same.cells (same.assigned ▸ spares.assigned) (same.running ▸ spares.running), trivial⟩
  record spares _ := ⟨spares.of_same rfl spares.assigned spares.running, trivial⟩
  refuse spares _ := ⟨spares.of_same rfl spares.assigned spares.running, trivial⟩
  assigned := by
    intro store name operand spares known
    obtain ⟨newer, older, parted, -⟩ := List.lookup_eq_some_iff.mp known
    exact spares.assigned (name, operand) (by simp [parted])
  defined spares := spares.defined
  bound spares := spares.bound
  owned spares owned is := spares.not_reaches is (Store.isOwned_iff.mp owned).2
  make := by
    intro store name kind limit builder spares owns
    refine ⟨fun is => Nat.lt_irrefl _ (spares.made _ is), spares.withCell rfl fun other is => ?_, trivial⟩
    cases is
    exact owns
  assign := by
    intro store name operand spares owns
    refine ⟨spares.of_same rfl (fun entry member => ?_) spares.running, trivial⟩
    obtain rfl | member := List.mem_cons.mp member
    · exact owns
    · exact spares.assigned entry (List.mem_filter.mp member).1
  forget name spares :=
    ⟨spares.of_same rfl (fun entry member => spares.assigned entry (List.mem_filter.mp member).1)
      spares.running, trivial⟩
  hold := by
    intro store rule spares owns
    refine ⟨spares.of_same rfl spares.assigned fun other member => ?_, fun {after} allowed => ?_⟩
    · obtain rfl | member := List.mem_cons.mp member
      · exact owns
      · exact spares.running other member
    · have kept : after.Spares gone := allowed.sound
      exact ⟨kept.of_same rfl kept.assigned fun other member =>
        kept.running other (List.mem_of_mem_tail member), trivial⟩
  build := by
    intro store cell spares free undefined _ _
    refine ⟨spares.updateCell free _ (fun rule is => spares.defined free is) fun builder is => spares.bound free is,
      fun {after} allowed => ?_⟩
    have kept : after.Spares gone := allowed.sound
    have ended : (after.endBuild cell).Spares gone :=
      kept.updateCell free _ (fun rule is => kept.defined free is) fun builder is => kept.bound free is
    refine ⟨⟨ended, trivial⟩, fun {rule} owns => ⟨?_, trivial⟩⟩
    have settled : (Store.updateCell cell ({ · with definition := some rule, builder := none })
        (after.endBuild cell)).Spares gone := by
      refine ended.updateCell free _ (fun other is => ?_) fun other is => ?_
      · cases is
        exact owns
      · cases is
    exact settled.of_same rfl settled.assigned settled.running
  enter := by
    intro store cell spares free
    have entered := spares.updateCell free (fun slot => { slot with active := slot.active + 1 })
      (fun rule is => spares.defined free is) fun builder is => spares.bound free is
    refine ⟨entered.of_same rfl entered.assigned entered.running, fun {after} allowed => ?_⟩
    have kept : after.Spares gone := allowed.sound
    have left := kept.updateCell free (fun slot => { slot with active := slot.active - 1 })
      (fun rule is => kept.defined free is) fun builder is => kept.bound free is
    exact ⟨left.of_same rfl left.assigned left.running, trivial⟩

end Conduct

end TextGrammar
