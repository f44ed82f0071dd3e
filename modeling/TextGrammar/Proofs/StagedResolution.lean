import TextGrammar.Proofs.DraftedEvaluation
import TextGrammar.Proofs.Invocations

/-! Resolving the definition of a cell that has been cast. Its builder is called unless the
definition is there, and comes to what its part says. -/

namespace TextGrammar
open TextGrammar.Action

variable {scene : Scene} {active : Key → Nat} {stage : Nat} {cast further : Cast}
  {store next after : Store} {cell : CellId} {target : Target}

/-- A builder that only puts a grammar together evaluates one expression, whatever it counts. -/
theorem Runner.exec_perform_plain (runner : Runner) (scope : Scope) {known : String → Prop}
    (script : Script) (plain : script.Plain known) (store : Store) :
    ∃ definition tallies, script.definition? = some definition ∧ definition.Plain known ∧
      (runner.perform scope script).exec store = (definition.evaluate scope).exec { store with tallies } := by
  cases script with
  | finish definition => exact ⟨definition, store.tallies, rfl, plain, rfl⟩
  | tally label rest =>
    exact Runner.exec_perform_plain runner scope rest plain
      { store with tallies := label :: store.tallies }
  | leak => exact plain.elim
  | attempt => exact plain.elim

/-- A definition is accepted if it is of the right kind. -/
theorem Operand.Plays.definition {awake : Key → Prop} {operand : Operand} {draft : Draft}
    (plays : operand.Plays scene cast awake draft) (slot : Cell) :
    (Runner.definitionRule slot operand).Drafts (draft.definition slot.name slot.kind)
      (Rule.Plays scene.allowed cast awake) := by
  unfold Runner.definitionRule Draft.definition
  refine (plays.asAlternative slot.kind).andThen fun made same => ?_
  generalize draft.asAlternative slot.kind = drafted at same
  cases same with
  | some made => exact .pure made.body
  | none =>
    cases plays with
    | raw value => exact .fail rfl
    | grammar made => exact .nameOf fun _ => .fail rfl

namespace Scene.Founded

/-- What the builder of a cell that has been cast is called in. -/
theorem building (founded : scene.Founded active stage cast store) (known : cast cell = some target)
    (undefined : (store.cellAt cell).definition = none) (tallies : List String) :
    Workshop.Ready ⟨scene, active, stage, target.key⟩ cast 0
      { store.updateCell cell (fun slot => { slot with building := true, calls := slot.calls + 1 })
        with tallies } where
  toStaged := by
    have begun : scene.Staged active stage cast
        (store.updateCell cell fun slot => { slot with building := true, calls := slot.calls + 1 }) :=
      founded.toStaged.updateCell known ((founded.performs known).congr rfl rfl rfl rfl rfl)
        (founded.counted known) (fun _ _ => rfl) (fun _ => .inr rfl) fun _ => id
    exact begun.congr rfl rfl
  below := by
    intro other part index taken same
    obtain ⟨depth, same⟩ | ⟨owner, outer, held, same, built⟩ := founded.parent taken same
    · exact absurd same (founded.keyed known depth)
    · obtain rfl := founded.apart held known same
      rw [undefined, founded.idle] at built
      simp at built
  low := founded.level known
  root := by
    refine .inr ⟨cell, target, known, rfl, .inr ?_⟩
    change ((store.updateCell cell _).cellAt cell).building = true
    rw [Store.cellAt_updateCell, if_pos ⟨rfl, founded.inside known⟩]

/-- What comes of calling the builder, before it is kept. -/
theorem build (founded : scene.Founded active stage cast store) (known : cast cell = some target)
    (undefined : (store.cellAt cell).definition = none) {builder : Builder}
    (performs : builder.Performs scene (cast.upTo target.key.level) target) (runner : Runner) :
    ∃ tallies, let begun : Store :=
        { store.updateCell cell (fun slot => { slot with building := true, calls := slot.calls + 1 })
          with tallies }
      match target.definition scene.base with
      | .error fault => ∃ cause mid, (runner.build cell builder).exec store =
          (.error (.fault cause), mid.updateCell cell ({ · with building := false })) ∧
            begun.Grown mid ∧ cause.unnamed = fault.unnamed
      | .ok body => ∃ rule mid further later, (runner.build cell builder).exec store =
          (.ok rule, mid.updateCell cell ({ · with building := false })) ∧ begun.Grown mid ∧
            further.Extends cast ∧
            Workshop.Ready ⟨scene, active, stage, target.key⟩ further later mid ∧
            rule.Plays scene.allowed (further.upTo target.key.level)
              (target.names scene.base).Awake body := by
  let begun := store.updateCell cell fun slot => { slot with building := true, calls := slot.calls + 1 }
  have slot := founded.performs known
  have slotted : (begun.cellAt cell).name = target.title scene.base ∧
      (begun.cellAt cell).kind = target.kind scene.base := by
    rw [Store.cellAt_updateCell, if_pos ⟨rfl, founded.inside known⟩]
    exact ⟨slot.title, slot.kind⟩
  obtain ⟨definition, tallies, is, plain, performed⟩ := runner.exec_perform_plain builder.scope
    (builder.script (begun.cellAt cell).calls) (performs.plain _) begun
  obtain ⟨common, always, drafted⟩ := performs.definition
  obtain rfl : common = definition := Option.some.inj ((always _).symm.trans is)
  refine ⟨tallies, ?_⟩
  have ready := founded.building known undefined tallies
  have stands : Workshop.Stands ⟨scene, active, stage, target.key⟩ cast
      (target.names scene.base).Awake builder.scope (target.names scene.base) :=
    ⟨performs.scope, Names.stay_awake _, slot.nested⟩
  have evaluates := Workshop.follows_evaluate stands common plain cast (.refl _) _ 0 ready
  have builds : (runner.build cell builder).exec store =
      ((do Runner.definitionRule (begun.cellAt cell) (← runner.perform builder.scope
        (builder.script (begun.cellAt cell).calls))).exec begun).map id
        (Store.updateCell cell ({ · with building := false })) := rfl
  rw [builds, drafted, Expression.defined, Expression.drafted, StateT.run'_eq]
  rcases planned : (common.draft scene.base.globals target.key (target.names scene.base)).run 0 with
    fault | ⟨draft, later⟩ <;> rw [planned] at evaluates
  · obtain ⟨cause, mid, failed, grown, same⟩ := evaluates
    rw [exec_bind_error (performed.trans failed)]
    exact ⟨cause, mid, rfl, grown, same⟩
  · obtain ⟨operand, mid, further, evaluated, grown, more, ready, plays⟩ := evaluates
    obtain ⟨names, accepted⟩ := plays.definition (begun.cellAt cell) mid
    rw [exec_bind_ok (performed.trans evaluated)]
    rw [slotted.1, slotted.2] at accepted
    have renamed : mid.Grown { mid with names } := .of_same rfl rfl
    rw [show (do
      let drafted ← (fun pair => pair.1) <$> (Except.ok (draft, later) : Except Fault (Draft × Nat))
      drafted.definition (target.title scene.base) (target.kind scene.base)) =
        draft.definition (target.title scene.base) (target.kind scene.base) from rfl]
    rcases found : draft.definition (target.title scene.base) (target.kind scene.base) with fault | body <;>
      rw [found] at accepted
    · obtain ⟨cause, failed, same⟩ := accepted
      rw [failed]
      exact ⟨cause, _, rfl, grown.trans renamed, same⟩
    · obtain ⟨rule, answered, plays⟩ := accepted
      rw [answered]
      exact ⟨rule, _, further, later, rfl, grown.trans renamed, more, ready.grown renamed, plays⟩

section Ended
variable (founded : scene.Founded active stage cast store) (known : cast cell = some target)
  {tallies : List String} (undefined : (store.cellAt cell).definition = none)
  (grown : Store.Grown { store.updateCell cell
    (fun slot => { slot with building := true, calls := slot.calls + 1 }) with tallies } next)
include founded known undefined grown

omit undefined in
theorem cellAt_begun : next.cellAt cell =
    { store.cellAt cell with building := true, calls := (store.cellAt cell).calls + 1 } := by
  have inside := founded.inside known
  rw [grown.cells cell (by simpa using inside)]
  change (store.updateCell cell _).cellAt cell = _
  rw [Store.cellAt_updateCell, if_pos ⟨rfl, inside⟩]

omit undefined known founded in
theorem cellAt_beside {other : CellId} (inside : other < store.cells.size) (apart : cell ≠ other) :
    next.cellAt other = store.cellAt other := by
  rw [grown.cells other (by simpa using inside)]
  change (store.updateCell cell _).cellAt other = _
  rw [Store.cellAt_updateCell, if_neg fun same => apart same.1]

omit undefined known in
theorem idle_beside {other : CellId} (apart : cell ≠ other) :
    (next.cellAt other).building = false := by
  rcases Nat.lt_or_ge other store.cells.size with inside | outside
  · rw [cellAt_beside grown inside apart]
    exact founded.idle other
  · exact (grown.rests other (by simpa using outside)).building

/-- A build that failed leaves everything as it was. -/
theorem unbuilt :
    scene.Founded active stage cast (next.updateCell cell ({ · with building := false })) := by
  have inside : cell < next.cells.size :=
    Nat.lt_of_lt_of_le (founded.inside known) (by simpa using grown.size)
  have same : (next.updateCell cell ({ · with building := false })).cellAt cell =
      { store.cellAt cell with building := false, calls := (store.cellAt cell).calls + 1 } := by
    rw [Store.cellAt_updateCell, if_pos ⟨rfl, inside⟩, founded.cellAt_begun known grown]
  have beside {other : CellId} (within : other < store.cells.size) (apart : cell ≠ other) :
      (next.updateCell cell ({ · with building := false })).cellAt other = store.cellAt other := by
    rw [Store.cellAt_updateCell, if_neg fun same => apart same.1, cellAt_beside grown within apart]
  refine ⟨founded.toStaged.onward ?_ grown.assigned ?_ ?_ founded.silent ?_ ?_, ?_⟩
  · simpa using grown.size
  · intro other part held
    by_cases is : cell = other
    · subst is
      rw [same]
      exact (founded.performs held).congr rfl rfl rfl rfl rfl
    · rw [beside (founded.inside held) is]
      exact founded.performs held
  · intro other part held
    by_cases is : cell = other
    · subst is
      rw [same]
      exact founded.counted held
    · rw [beside (founded.inside held) is]
      exact founded.counted held
  · intro other part held ready
    by_cases is : cell = other
    · subst is
      simp [undefined, founded.idle] at ready
    · rwa [beside (founded.inside held) is]
  · intro outer inner owned
    have within := Store.lt_size_of_owned owned
    by_cases is : cell = outer
    · subst is
      simp [Store.ownedByCell, undefined] at owned
    · rwa [Store.ownedByCell, beside within is]
  · intro other
    by_cases is : cell = other
    · subst is
      rw [same]
    · rw [Store.cellAt_updateCell, if_neg fun same => is same.1]
      exact founded.idle_beside grown is

/-- A build that succeeded leaves the definition behind, and the cells that were made for it. -/
theorem built {later : Nat} (more : further.Extends cast)
    (ready : Workshop.Ready ⟨scene, active, stage, target.key⟩ further later next) {rule : Rule}
    {body : Blueprint} (drafted : target.definition scene.base = .ok body)
    (plays : rule.Plays scene.allowed (further.upTo target.key.level)
      (target.names scene.base).Awake body) :
    scene.Founded active stage further ((next.updateCell cell ({ · with building := false })).updateCell
      cell ({ · with definition := some rule, builder := none })) := by
  have begun := founded.cellAt_begun known grown
  have slot := ready.performs (more known)
  rw [Store.updateCell_updateCell]
  constructor
  · refine ready.toStaged.updateCell (more known) ⟨slot.kind, slot.title, slot.limit, slot.nested, ?_, nofun⟩
      (ready.counted (more known)) (fun _ _ => rfl) (fun _ => .inl rfl) ?_
    · rintro _ ⟨⟩
      exact ⟨body, drafted, plays⟩
    · intro rule is
      rw [begun, undefined] at is
      cases is
  · intro other
    rw [Store.cellAt_updateCell]
    by_cases is : cell = other
    · subst is
      rw [if_pos ⟨rfl, ready.inside (more known)⟩]
    · rw [if_neg fun same => is same.1]
      exact founded.idle_beside grown is

end Ended

/-- A cell that has been cast resolves to what its part says. -/
theorem resolve (founded : scene.Founded active stage cast store) (known : cast cell = some target)
    (runner : Runner) :
    match target.definition scene.base with
    | .error fault => ∃ cause after, (runner.resolve cell).exec store = (.error (.fault cause), after) ∧
        scene.Founded active stage cast after ∧ cause.unnamed = fault.unnamed
    | .ok body => ∃ rule after further, (runner.resolve cell).exec store = (.ok rule, after) ∧
        further.Extends cast ∧ scene.Founded active stage further after ∧
          rule.Plays scene.allowed further (target.names scene.base).Awake body := by
  have slot := founded.performs known
  cases defined : (store.cellAt cell).definition with
  | some rule =>
    obtain ⟨body, drafted, plays⟩ := slot.built rule defined
    rw [drafted]
    exact ⟨rule, store, cast, Runner.exec_resolve defined, .refl _, founded,
      plays.mono (Cast.extends_upTo _ _) fun _ => id⟩
  | none =>
    obtain ⟨builder, is, performs⟩ := slot.pending defined
    obtain ⟨tallies, builds⟩ := founded.build known defined performs runner
    have resolves : (runner.resolve cell).exec store = ((do
        let rule ← runner.build cell builder
        updateCell cell ({ · with definition := some rule, builder := none })
        record (.resolved cell (store.cellAt cell).name)
        return rule) : Action Rule).exec store := by
      rw [Runner.resolve, exec_bind_ok (exec_cellAt cell store), defined]
      simp only [founded.idle, is]
      rfl
    rw [resolves]
    dsimp only at builds
    rcases drafted : target.definition scene.base with fault | body <;> rw [drafted] at builds
    · obtain ⟨cause, mid, failed, grown, same⟩ := builds
      exact ⟨cause, _, exec_bind_error failed, founded.unbuilt known defined grown, same⟩
    · obtain ⟨rule, mid, further, later, built, grown, more, ready, plays⟩ := builds
      refine ⟨rule, _, further, (exec_bind_ok built).trans rfl, more,
        (founded.built known defined grown more ready drafted plays).congr rfl rfl,
        plays.mono (Cast.extends_upTo _ _) fun _ => id⟩

end Scene.Founded

end TextGrammar
