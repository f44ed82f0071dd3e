import TextGrammar.Proofs.Casting
import TextGrammar.Proofs.Ownership

/-! Stores that are cast for what is to be run. Every cell of a part has its definition, or a builder
that leads to it, and counts the invocations that are under way. What is owned by the variables of
the session stays owned, so that its placeholders may run. -/

namespace TextGrammar
open TextGrammar.Action

/-- What runs are told from: a store, the variables that may be named, and the cells of the store
that may be run. -/
structure Scene where
  base : Store
  allowed : String → Prop
  live : CellId → Prop

variable (scene : Scene)

/-- A builder that answers with the definition of a part. -/
structure Builder.Performs (cast : Cast) (builder : Builder) (target : Target) : Prop where
  scope : builder.scope.Plays cast (target.names scene.base)
  plain : ∀ call, (builder.script call).Plain ((target.names scene.base).Knows scene.allowed)
  definition : ∃ definition, (∀ call, (builder.script call).definition? = some definition) ∧
    target.definition scene.base = definition.defined scene.base.globals target.key
      (target.names scene.base) (target.title scene.base) (target.kind scene.base)

/-- A cell that holds the grammar of a part, whether it is built or not. -/
structure Cell.Performs (cast : Cast) (slot : Cell) (target : Target) : Prop where
  kind : slot.kind = target.kind scene.base
  title : slot.name = target.title scene.base
  limit : slot.limit = target.limit scene.base
  nested : (target.names scene.base).Nested
  built : ∀ rule, slot.definition = some rule → ∃ body, target.definition scene.base = .ok body ∧
    rule.Plays scene.allowed cast (target.names scene.base).Awake body
  pending : slot.definition = none → ∃ builder, slot.builder = some builder ∧
    builder.Performs scene cast target

/-- A grammar that a sketch says the same of. -/
structure Grammar.Plays (cast : Cast) (awake : Key → Prop) (made : Grammar) (sketch : Sketch) :
    Prop where
  kind : made.kind = sketch.kind
  body : made.rule.Plays scene.allowed cast awake sketch.body

/-- An operand that a draft says the same of. -/
inductive Operand.Plays (cast : Cast) (awake : Key → Prop) : Operand → Draft → Prop
  | raw (value : Value) : Plays cast awake (.raw value) (.raw value)
  | grammar {made : Grammar} {sketch : Sketch} : made.Plays scene cast awake sketch →
      Plays cast awake (.grammar made) (.grammar sketch)

section Operands
variable {scene} {cast : Cast} {awake : Key → Prop} {operand : Operand} {draft : Draft}

/-- What stands for an operand in a scope stands for its draft among names. -/
theorem Operand.Plays.placeholder? (plays : operand.Plays scene cast awake draft) :
    Option.Rel (fun placeholder (entry : Kind × Target) =>
      placeholder.kind = entry.1 ∧ cast placeholder.cell = some entry.2) operand.placeholder? draft.target? := by
  cases plays with
  | raw value => exact .none
  | @grammar made sketch plays =>
    obtain ⟨kind, tag, rule⟩ := made
    obtain ⟨_, body⟩ := sketch
    obtain ⟨rfl, plays⟩ := plays
    cases plays with
    | object tag traced body =>
      cases body with
      | recursive known | placeholder known => exact .some ⟨rfl, known⟩
      | _ => exact .none
    | _ => exact .none

theorem Operand.Plays.retaining (plays : operand.Plays scene cast awake draft) (held : List CellId) :
    (operand.retaining held).Plays scene cast awake draft.retaining := by
  cases plays with
  | raw value => exact .raw value
  | grammar made => exact .grammar ⟨made.kind, .retaining held made.body⟩

end Operands

namespace Scene

/-- A store in which the parts of a cast can be run. -/
structure Staged (active : Key → Nat) (stage : Nat) (cast : Cast) (store : Store) : Prop where
  inside : ∀ {cell target}, cast cell = some target → cell < store.cells.size
  performs : ∀ {cell target}, cast cell = some target →
    (store.cellAt cell).Performs scene (cast.upTo target.key.level) target
  counted : ∀ {cell target}, cast cell = some target → (store.cellAt cell).active = active target.key
  apart : ∀ {cell other target part}, cast cell = some target → cast other = some part →
    target.key = part.key → cell = other
  silent : ∀ key, (∀ cell target, cast cell = some target → target.key ≠ key) → active key = 0
  keyed : ∀ {cell target}, cast cell = some target → ∀ depth, target.key ≠ .stage depth
  level : ∀ {cell target}, cast cell = some target → target.key.level ≤ stage
  parent : ∀ {cell target outer index}, cast cell = some target → target.key = .within outer index →
    (∃ depth, outer = .stage depth) ∨ ∃ other part, cast other = some part ∧ part.key = outer ∧
      ((store.cellAt other).definition.isSome ∨ (store.cellAt other).building)
  assigned : store.assigned = scene.base.assigned
  named : ∀ {name operand}, scene.allowed name → scene.base.assigned? name = some operand →
    operand.Plays scene (cast.upTo 0) (fun _ => False) operand.draft
  based : ∀ {cell other}, cast cell = some (.base other) → cell = other ∧ scene.live other
  live : ∀ {cell}, scene.live cell → cast cell = some (.base cell)
  owned : ∀ {cell}, scene.live cell → store.Leads (store.assigned.flatMap fun entry => entry.2.owned) cell

/-- The same where no builder is being called. -/
structure Founded (active : Key → Nat) (stage : Nat) (cast : Cast) (store : Store) : Prop extends
    Staged scene active stage cast store where
  idle : ∀ cell, (store.cellAt cell).building = false

end Scene

section Mono
variable {scene} {cast further : Cast} {awake wider : Key → Prop}

theorem Builder.Performs.mono {builder : Builder} {target : Target}
    (performs : builder.Performs scene cast target) (more : further.Extends cast) :
    builder.Performs scene further target :=
  ⟨performs.scope.mono more, performs.plain, performs.definition⟩

theorem Cell.Performs.mono {slot : Cell} {target : Target} (performs : slot.Performs scene cast target)
    (more : further.Extends cast) : slot.Performs scene further target where
  kind := performs.kind
  title := performs.title
  limit := performs.limit
  nested := performs.nested
  built rule is := by
    obtain ⟨body, drafted, plays⟩ := performs.built rule is
    exact ⟨body, drafted, plays.mono more fun _ => id⟩
  pending none := by
    obtain ⟨builder, is, leads⟩ := performs.pending none
    exact ⟨builder, is, leads.mono more⟩

/-- Only the name, the limit, the definition and the builder of a cell matter. -/
theorem Cell.Performs.congr {slot other : Cell} {target : Target}
    (performs : slot.Performs scene cast target) (kind : other.kind = slot.kind)
    (title : other.name = slot.name) (limit : other.limit = slot.limit) (definition : other.definition = slot.definition)
    (builder : other.builder = slot.builder) : other.Performs scene cast target where
  kind := kind.trans performs.kind
  title := title.trans performs.title
  limit := limit.trans performs.limit
  nested := performs.nested
  built := by
    rw [definition]
    exact performs.built
  pending := by
    rw [definition, builder]
    exact performs.pending

theorem Grammar.Plays.mono {made : Grammar} {sketch : Sketch}
    (plays : made.Plays scene cast awake sketch) (more : further.Extends cast)
    (wakes : ∀ key, awake key → wider key) : made.Plays scene further wider sketch :=
  ⟨plays.kind, plays.body.mono more wakes⟩

theorem Operand.Plays.mono {operand : Operand} {draft : Draft}
    (plays : operand.Plays scene cast awake draft) (more : further.Extends cast)
    (wakes : ∀ key, awake key → wider key) : operand.Plays scene further wider draft := by
  cases plays with
  | raw value => exact .raw value
  | grammar made => exact .grammar (made.mono more wakes)

end Mono

namespace Scene.Staged
variable {scene} {active counts : Key → Nat} {stage : Nat} {cast : Cast} {store next : Store}

/-- What follows for a store whose cells have changed. -/
theorem onward (staged : scene.Staged active stage cast store)
    (size : store.cells.size ≤ next.cells.size) (assigned : next.assigned = store.assigned)
    (performs : ∀ {cell target}, cast cell = some target →
      (next.cellAt cell).Performs scene (cast.upTo target.key.level) target)
    (counted : ∀ {cell target}, cast cell = some target → (next.cellAt cell).active = counts target.key)
    (silent : ∀ key, (∀ cell target, cast cell = some target → target.key ≠ key) → counts key = 0)
    (built : ∀ {cell target}, cast cell = some target →
      (store.cellAt cell).definition.isSome ∨ (store.cellAt cell).building →
        (next.cellAt cell).definition.isSome ∨ (next.cellAt cell).building)
    (kept : ∀ outer, ∀ cell ∈ store.ownedByCell outer, cell ∈ next.ownedByCell outer) :
    scene.Staged counts stage cast next where
  inside known := Nat.lt_of_lt_of_le (staged.inside known) size
  performs := performs
  counted := counted
  apart := staged.apart
  silent := silent
  keyed := staged.keyed
  level := staged.level
  parent known is := by
    obtain stage | ⟨other, part, cast, same, ready⟩ := staged.parent known is
    · exact .inl stage
    · exact .inr ⟨other, part, cast, same, built cast ready⟩
  assigned := assigned.trans staged.assigned
  named := staged.named
  based := staged.based
  live := staged.live
  owned live := by
    rw [assigned]
    exact (staged.owned live).mono (fun _ member => .here member) kept

/-- A change to one cell, which keeps the part of that cell. -/
theorem updateCell (staged : scene.Staged active stage cast store) {cell : CellId} {target : Target}
    (known : cast cell = some target) {change : Cell → Cell}
    (performs : (change (store.cellAt cell)).Performs scene (cast.upTo target.key.level) target)
    (counted : (change (store.cellAt cell)).active = counts target.key)
    (others : ∀ key, key ≠ target.key → counts key = active key)
    (built : (store.cellAt cell).definition.isSome ∨ (store.cellAt cell).building →
      (change (store.cellAt cell)).definition.isSome ∨ (change (store.cellAt cell)).building)
    (kept : ∀ rule, (store.cellAt cell).definition = some rule →
      (change (store.cellAt cell)).definition = some rule) :
    scene.Staged counts stage cast (store.updateCell cell change) := by
  have same : (store.updateCell cell change).cellAt cell = change (store.cellAt cell) := by
    rw [Store.cellAt_updateCell, if_pos ⟨rfl, staged.inside known⟩]
  have apart {other : CellId} (apart : cell ≠ other) :
      (store.updateCell cell change).cellAt other = store.cellAt other := by
    rw [Store.cellAt_updateCell, if_neg fun same => apart same.1]
  refine staged.onward (Nat.le_of_eq (Store.size_updateCell ..).symm) rfl ?_ ?_ ?_ ?_ ?_
  · intro other part held
    by_cases is : cell = other
    · subst is
      obtain rfl := Option.some.inj (known.symm.trans held)
      rwa [same]
    · rw [apart is]
      exact staged.performs held
  · intro other part held
    by_cases is : cell = other
    · subst is
      obtain rfl := Option.some.inj (known.symm.trans held)
      rw [same, counted]
    · rw [apart is, others _ fun same => is (staged.apart known held same.symm)]
      exact staged.counted held
  · intro key none
    rw [others key fun same => none cell target known same.symm]
    exact staged.silent key none
  · intro other part held
    by_cases is : cell = other
    · subst is
      rwa [same]
    · rw [apart is]
      exact id
  · intro outer inner owned
    by_cases is : cell = outer
    · subst is
      rw [Store.ownedByCell] at owned ⊢
      cases definition : (store.cellAt cell).definition with
      | none => simp [definition] at owned
      | some rule =>
        rw [same, kept rule definition]
        rwa [definition] at owned
    · rwa [Store.ownedByCell, apart is]

/-- Names, tallies, traces and running grammars do not matter. -/
theorem congr (staged : scene.Staged active stage cast store) (cells : next.cells = store.cells)
    (assigned : next.assigned = store.assigned) : scene.Staged active stage cast next := by
  have same cell : next.cellAt cell = store.cellAt cell := by rw [Store.cellAt, cells, Store.cellAt]
  refine staged.onward (Nat.le_of_eq (congrArg Array.size cells).symm) assigned ?_ ?_ staged.silent ?_ ?_
  · intro cell target known
    rw [same]
    exact staged.performs known
  · intro cell target known
    rw [same]
    exact staged.counted known
  · intro cell target known
    rw [same]
    exact id
  · intro outer cell
    rw [Store.ownedByCell, Store.ownedByCell, same]
    exact id

/-- A part that has an owner may run its placeholder. -/
theorem isOwned (staged : scene.Staged active stage cast store) {cell : CellId} {target : Target}
    (known : cast cell = some target) (stays : target.Stays fun key => 0 < active key) :
    store.isOwned cell = true := by
  rw [Store.isOwned, Bool.or_eq_true]
  cases target with
  | base other =>
    obtain ⟨rfl, live⟩ := staged.based known
    right
    rw [List.contains_iff_mem]
    refine Store.mem_ownedCells ((staged.owned live).mono (fun other member => .here ?_) fun outer =>
      store.ownedByCell_subset_heldByCell outer) (staged.inside known)
    simp [Store.roots, List.mem_flatMap.mp member]
  | inner key =>
    left
    rw [Cell.inUse, Bool.or_eq_true, decide_eq_true_iff, staged.counted known]
    exact .inr stays

end Scene.Staged

namespace Scene.Founded
variable {scene} {active : Key → Nat} {stage more : Nat} {cast : Cast} {store next : Store}

/-- A later stage. -/
theorem later (founded : scene.Founded active stage cast store) (least : stage ≤ more) :
    scene.Founded active more cast store :=
  { founded with level := fun known => Nat.le_trans (founded.level known) least }

/-- An earlier stage, without what is there only since. -/
theorem earlier (founded : scene.Founded active more cast store)
    (silent : ∀ key, stage < key.level → active key = 0) :
    scene.Founded active stage (cast.upTo stage) store where
  inside known := founded.inside (Cast.extends_upTo _ _ known)
  performs known := by
    obtain ⟨known, low⟩ := Cast.upTo_eq_some.mp known
    rw [Cast.upTo_upTo low]
    exact founded.performs known
  counted known := founded.counted (Cast.extends_upTo _ _ known)
  apart known other := founded.apart (Cast.extends_upTo _ _ known) (Cast.extends_upTo _ _ other)
  silent key none := by
    rcases Nat.lt_or_ge stage key.level with high | low
    · exact silent key high
    · refine founded.silent key fun cell target known same => ?_
      exact none cell target (Cast.upTo_eq_some.mpr ⟨known, same ▸ low⟩) same
  keyed known := founded.keyed (Cast.extends_upTo _ _ known)
  level known := (Cast.upTo_eq_some.mp known).2
  parent known is := by
    obtain ⟨known, low⟩ := Cast.upTo_eq_some.mp known
    obtain stage | ⟨other, part, cast, same, ready⟩ := founded.parent known is
    · exact .inl stage
    · refine .inr ⟨other, part, Cast.upTo_eq_some.mpr ⟨cast, ?_⟩, same, ready⟩
      rw [is, Key.level, ← same] at low
      exact low
  assigned := founded.assigned
  named granted is := by
    rw [Cast.upTo_upTo (Nat.zero_le _)]
    exact founded.named granted is
  based known := founded.based (Cast.extends_upTo _ _ known)
  live alive := Cast.upTo_eq_some.mpr ⟨founded.live alive, Nat.zero_le _⟩
  owned := founded.owned
  idle := founded.idle

/-- What is not there yet is not under way. -/
theorem silent_above (founded : scene.Founded active stage cast store) {key : Key}
    (high : stage < key.level) : active key = 0 := by
  refine founded.silent key fun cell target known same => ?_
  have low := founded.level known
  rw [same] at low
  omega

theorem congr (founded : scene.Founded active stage cast store) (cells : next.cells = store.cells)
    (assigned : next.assigned = store.assigned) : scene.Founded active stage cast next where
  toStaged := founded.toStaged.congr cells assigned
  idle cell := by
    rw [Store.cellAt, cells]
    exact founded.idle cell

end Scene.Founded

end TextGrammar
