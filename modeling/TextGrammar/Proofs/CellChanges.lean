import TextGrammar.Proofs.DraftedEvaluation
import TextGrammar.Proofs.Conduct

/-! What a session changes about its cells. Whatever is evaluated or run, and however that ends, the
only lasting change to a cell is that its definition is there: invocations that began have ended,
and no builder is being called any more. -/

namespace TextGrammar
open TextGrammar.Action

theorem Store.Grown.withCell {store : Store} {slot : Cell} (rests : slot.Rests) :
    store.Grown (store.withCell slot) where
  assigned := rfl
  size := by simp [Store.withCell]
  cells cell inside := by rw [cellAt_withCell, if_neg (Nat.ne_of_lt inside)]
  rests cell outside := by
    rw [cellAt_withCell]
    split
    · exact rests
    · exact rests_outside outside

/-- A cell that is as it was, or that has been resolved. -/
structure Cell.Moved (before after : Cell) : Prop where
  name : after.name = before.name
  kind : after.kind = before.kind
  limit : after.limit = before.limit
  building : after.building = before.building
  active : after.active = before.active
  resolved : (after.definition = before.definition ∧ after.builder = before.builder) ∨
    (before.definition = none ∧ after.definition.isSome ∧ after.builder = none)

namespace Cell.Moved
variable {first second third : Cell}

theorem refl (cell : Cell) : cell.Moved cell := ⟨rfl, rfl, rfl, rfl, rfl, .inl ⟨rfl, rfl⟩⟩

theorem trans (one : first.Moved second) (two : second.Moved third) : first.Moved third where
  name := two.name.trans one.name
  kind := two.kind.trans one.kind
  limit := two.limit.trans one.limit
  building := two.building.trans one.building
  active := two.active.trans one.active
  resolved := by
    obtain ⟨same, builder⟩ | ⟨none, some, gone⟩ := two.resolved
    · rw [same, builder]
      exact one.resolved
    · obtain ⟨same, -⟩ | ⟨-, found, -⟩ := one.resolved
      · exact .inr ⟨same.symm.trans none, some, gone⟩
      · simp [none] at found

end Cell.Moved

/-- What relates all cells before a change to one of them, with something in between, and after
another change to that one. -/
theorem Store.cells_around {related : Cell → Cell → Prop} {store mid : Store} {cell : CellId}
    {opens : Cell → Cell} (size : store.cells.size ≤ mid.cells.size)
    (cells : ∀ other < store.cells.size, related ((store.updateCell cell opens).cellAt other) (mid.cellAt other))
    (closes : Cell → Cell)
    (fits : ∀ slot, related (opens (store.cellAt cell)) slot → related (store.cellAt cell) (closes slot)) :
    ∀ other < store.cells.size, related (store.cellAt other) ((mid.updateCell cell closes).cellAt other) := by
  intro other inside
  have before := cells other inside
  rw [cellAt_updateCell] at before ⊢
  by_cases same : cell = other
  · subst same
    rw [if_pos ⟨rfl, inside⟩] at before
    rw [if_pos ⟨rfl, Nat.lt_of_lt_of_le inside size⟩]
    exact fits _ before
  · rw [if_neg fun is => same is.1] at before ⊢
    exact before

/-- A store whose cells have moved, and whose new cells are at rest. -/
structure Store.Moved (before after : Store) : Prop where
  size : before.cells.size ≤ after.cells.size
  cells : ∀ cell < before.cells.size, (before.cellAt cell).Moved (after.cellAt cell)
  rests : ∀ cell, before.cells.size ≤ cell → (after.cellAt cell).Rests

namespace Store.Moved
variable {first second third : Store}

theorem of_grown (grown : first.Grown second) : first.Moved second where
  size := grown.size
  cells cell inside := by
    rw [grown.cells cell inside]
    exact .refl _
  rests := grown.rests

theorem of_same (same : second.cells = first.cells) : first.Moved second where
  size := Nat.le_of_eq (congrArg Array.size same).symm
  cells cell _ := by
    rw [show second.cellAt cell = first.cellAt cell by rw [Store.cellAt, same, Store.cellAt]]
    exact .refl _
  rests cell outside := rests_outside (same ▸ outside)

theorem refl (store : Store) : store.Moved store := of_same rfl

theorem trans (one : first.Moved second) (two : second.Moved third) : first.Moved third where
  size := Nat.le_trans one.size two.size
  cells cell inside := (one.cells cell inside).trans (two.cells cell (Nat.lt_of_lt_of_le inside one.size))
  rests cell outside := by
    rcases Nat.lt_or_ge cell second.cells.size with inside | beyond
    · have moved := two.cells cell inside
      have rests := one.rests cell outside
      exact ⟨moved.active.trans rests.active, moved.building.trans rests.building⟩
    · exact two.rests cell beyond

/-- A change to a cell that is taken back, with a move in between. -/
theorem around {store mid : Store} {cell : CellId} {opens : Cell → Cell}
    (moved : (store.updateCell cell opens).Moved mid) (closes : Cell → Cell)
    (fits : ∀ slot, (opens (store.cellAt cell)).Moved slot → (store.cellAt cell).Moved (closes slot))
    (rests : ∀ slot : Cell, slot.Rests → (closes slot).Rests) : store.Moved (mid.updateCell cell closes) where
  size := by simpa using moved.size
  cells := cells_around (by simpa using moved.size) (by simpa using moved.cells) closes fits
  rests other outside := by
    have after := moved.rests other (by simpa using outside)
    rw [cellAt_updateCell]
    split
    · exact rests _ after
    · exact after

/-- A definition that was not there. -/
theorem resolve {store after : Store} (moved : store.Moved after) {cell : CellId}
    (rule : Rule) (undefined : (store.cellAt cell).definition = none) :
    store.Moved (after.updateCell cell ({ · with definition := some rule, builder := none })) where
  size := by simpa using moved.size
  cells other inside := by
    have before := moved.cells other inside
    rw [cellAt_updateCell]
    by_cases same : cell = other
    · subst same
      rw [if_pos ⟨rfl, Nat.lt_of_lt_of_le inside moved.size⟩]
      exact ⟨before.name, before.kind, before.limit, before.building, before.active,
        .inr ⟨undefined, rfl, rfl⟩⟩
    · rw [if_neg fun is => same is.1]
      exact before
  rests other outside := by
    have after := moved.rests other outside
    rw [cellAt_updateCell]
    split
    · exact ⟨after.active, after.building⟩
    · exact after

end Store.Moved

namespace Conduct

/-- Cells are left alone, apart from resolving them. -/
def moving : Conduct where
  free _ := True
  sound _ := True
  leads := Store.Moved

theorem moving_allows {before after : Store} (moved : before.Moved after) : moving.Allows before after :=
  ⟨trivial, moved⟩

theorem moving_lawful : moving.Lawful where
  refl := .refl
  trans := .trans
  aside _ same := moving_allows (.of_same same.cells)
  record _ _ := moving_allows (.of_same rfl)
  refuse _ _ := moving_allows (.of_same rfl)
  assigned _ _ _ _ := trivial
  defined _ _ _ _ _ := trivial
  owned _ _ := trivial
  bound _ _ _ _ _ := trivial
  make name kind limit builder _ _ := by
    exact ⟨trivial, moving_allows (.of_grown (.withCell ⟨rfl, rfl⟩))⟩
  assign _ _ _ _ := moving_allows (.of_same rfl)
  forget _ _ := moving_allows (.of_same rfl)
  hold := by
    intro store rule _ _
    refine ⟨trivial, fun {after} allowed => moving_allows ?_⟩
    have moved : (store.hold rule).Moved after := allowed.leads
    have begun : store.Moved (store.hold rule) := .of_same rfl
    exact begun.trans (moved.trans (.of_same rfl))
  build := by
    intro store cell _ _ undefined idle _
    refine ⟨trivial, fun allowed => ?_⟩
    have ended := allowed.leads.around (fun slot => { slot with building := false })
      (fun slot moved => ⟨moved.name, moved.kind, moved.limit, idle.symm, moved.active, moved.resolved⟩)
      fun slot rests => ⟨rests.active, rfl⟩
    refine ⟨moving_allows ended, fun {rule} _ => moving_allows ?_⟩
    exact (ended.resolve rule undefined).trans (.of_same rfl)
  enter := by
    intro store cell _ _
    refine ⟨trivial, fun {after} allowed => moving_allows ?_⟩
    have moved : (store.enter cell).Moved after := allowed.leads
    have begun : (store.updateCell cell fun slot => { slot with active := slot.active + 1 }).Moved
        (store.enter cell) := .of_same rfl
    have left := (begun.trans moved).around (fun slot => { slot with active := slot.active - 1 })
      (fun slot moved => ⟨moved.name, moved.kind, moved.limit, moved.building,
        by simp [moved.active], moved.resolved⟩)
      fun slot rests => ⟨by simp [rests.active], rests.building⟩
    exact left.trans (.of_same rfl)

end Conduct

theorem Command.performAll_moved (commands : List Command) (store : Store) :
    store.Moved ((performAll commands).run store).2 :=
  (Conduct.moving_lawful.commands (fun _ _ => Conduct.moving_allows (.of_same rfl)) commands store trivial).leads

end TextGrammar
