import TextGrammar.Proofs.DraftedOperations

/-! Evaluation of expressions beside drafting them. An evaluation makes new cells, and they are cast
for the recursive grammars that the draft comes across, in the same order. -/

namespace TextGrammar
open TextGrammar.Action

/-- A cell whose builder is not being called, and whose definition is not being run. -/
structure Cell.Rests (slot : Cell) : Prop where
  active : slot.active = 0
  building : slot.building = false

theorem Store.rests_outside {store : Store} {cell : CellId} (outside : store.cells.size ≤ cell) :
    (store.cellAt cell).Rests := by
  rw [cellAt_of_size_le outside]
  exact ⟨rfl, rfl⟩

/-- A store with more cells, in which nothing that was there has changed. -/
structure Store.Grown (before after : Store) : Prop where
  assigned : after.assigned = before.assigned
  size : before.cells.size ≤ after.cells.size
  cells : ∀ cell < before.cells.size, after.cellAt cell = before.cellAt cell
  rests : ∀ cell, before.cells.size ≤ cell → (after.cellAt cell).Rests

namespace Store.Grown
variable {first second third : Store}

theorem refl (store : Store) : store.Grown store where
  assigned := rfl
  size := Nat.le_refl _
  cells _ _ := rfl
  rests _ := rests_outside

theorem trans (one : first.Grown second) (two : second.Grown third) : first.Grown third where
  assigned := two.assigned.trans one.assigned
  size := Nat.le_trans one.size two.size
  cells cell inside := (two.cells cell (Nat.lt_of_lt_of_le inside one.size)).trans (one.cells cell inside)
  rests cell outside := by
    rcases Nat.lt_or_ge cell second.cells.size with inside | beyond
    · rw [two.cells cell inside]
      exact one.rests cell outside
    · exact two.rests cell beyond

theorem of_same (assigned : second.assigned = first.assigned) (cells : second.cells = first.cells) :
    first.Grown second where
  assigned := assigned
  size := Nat.le_of_eq (congrArg Array.size cells).symm
  cells cell _ := by rw [Store.cellAt, cells, Store.cellAt]
  rests cell outside := by
    rw [Store.cellAt, cells]
    exact rests_outside outside

theorem owned (grown : first.Grown second) (outer : CellId) :
    ∀ cell ∈ first.ownedByCell outer, cell ∈ second.ownedByCell outer := by
  intro cell owned
  rwa [Store.ownedByCell, grown.cells outer (lt_size_of_owned owned)]

end Store.Grown

/-- What expressions are evaluated for: the invocations that are under way, the number of the parsed
values before, and the key under which recursive grammars are made. -/
structure Workshop extends Scene where
  active : Key → Nat
  stage : Nat
  key : Key

variable {shop : Workshop} {cast further : Cast} {store next : Store} {index : Nat}

/-- A cast with one more part. -/
def Cast.add (cast : Cast) (cell : CellId) (target : Target) : Cast :=
  fun other => if other = cell then some target else cast other

theorem Cast.add_extends {cell : CellId} {target : Target} (none : cast cell = none) :
    (cast.add cell target).Extends cast := by
  intro other part known
  have apart : other ≠ cell := by
    rintro rfl
    simp [none] at known
  rw [Cast.add, if_neg apart, known]

theorem Cast.add_eq_some {cell other : CellId} {target part : Target}
    (known : cast.add cell target other = some part) :
    (other = cell ∧ target = part) ∨ cast other = some part := by
  rw [Cast.add] at known
  split at known
  · exact .inl ⟨‹_›, Option.some.inj known⟩
  · exact .inr known

/-- What holds of the new part and of the others. -/
theorem Cast.add_forall {cell : CellId} {target : Target} {holds : CellId → Target → Prop} (here : holds cell target)
    (there : ∀ {other part}, cast other = some part → holds other part) {other : CellId} {part : Target}
    (known : cast.add cell target other = some part) : holds other part := by
  obtain ⟨rfl, rfl⟩ | known := add_eq_some known
  · exact here
  · exact there known

namespace Scene

theorem Staged.grown {scene : Scene} {active : Key → Nat} {stage : Nat}
    (staged : scene.Staged active stage cast store) (grown : store.Grown next) :
    scene.Staged active stage cast next := by
  refine staged.onward grown.size grown.assigned ?_ ?_ staged.silent ?_ grown.owned
  · intro cell target known
    rw [grown.cells cell (staged.inside known)]
    exact staged.performs known
  · intro cell target known
    rw [grown.cells cell (staged.inside known)]
    exact staged.counted known
  · intro cell target known
    rw [grown.cells cell (staged.inside known)]
    exact id

/-- One more part, in a cell that had none. -/
theorem Staged.add {scene : Scene} {active : Key → Nat} {stage : Nat} {cell : CellId} {target : Target}
    (staged : scene.Staged active stage cast store) (free : cast cell = none)
    (inside : cell < store.cells.size) (inner : ∀ other, target ≠ .base other)
    (fresh : ∀ {other part}, cast other = some part → part.key ≠ target.key)
    (performs : (store.cellAt cell).Performs scene ((cast.add cell target).upTo target.key.level) target)
    (sleeps : (store.cellAt cell).active = 0) (keyed : ∀ depth, target.key ≠ .stage depth)
    (low : target.key.level ≤ stage)
    (root : ∀ outer index, target.key = .within outer index → (∃ depth, outer = .stage depth) ∨
      ∃ other part, cast other = some part ∧ part.key = outer ∧
        ((store.cellAt other).definition.isSome ∨ (store.cellAt other).building)) :
    scene.Staged active stage (cast.add cell target) store := by
  have more : (cast.add cell target).Extends cast := Cast.add_extends free
  constructor
  case inside => exact Cast.add_forall inside staged.inside
  case performs =>
    exact Cast.add_forall performs fun known => (staged.performs known).mono (more.upTo (Nat.le_refl _))
  case counted =>
    intro other part known
    obtain ⟨rfl, rfl⟩ | known := Cast.add_eq_some known
    · rw [sleeps, staged.silent _ fun _ _ known => fresh known]
    · exact staged.counted known
  case apart =>
    intro first second one two known other same
    obtain ⟨rfl, rfl⟩ | before := Cast.add_eq_some known <;>
      obtain ⟨rfl, rfl⟩ | after := Cast.add_eq_some other
    · rfl
    · exact absurd same.symm (fresh after)
    · exact absurd same (fresh before)
    · exact staged.apart before after same
  case silent =>
    exact fun key none => staged.silent key fun _ _ known => none _ _ (more known)
  case keyed => exact Cast.add_forall keyed staged.keyed
  case level => exact Cast.add_forall low staged.level
  case parent =>
    intro other part outer index known is
    have parent : (∃ depth, outer = .stage depth) ∨ ∃ other part, cast other = some part ∧
        part.key = outer ∧ ((store.cellAt other).definition.isSome ∨ (store.cellAt other).building) := by
      obtain ⟨rfl, rfl⟩ | known := Cast.add_eq_some known
      · exact root outer index is
      · exact staged.parent known is
    obtain stage | ⟨other, part, known, rest⟩ := parent
    · exact .inl stage
    · exact .inr ⟨other, part, more known, rest⟩
  case assigned => exact staged.assigned
  case named =>
    exact fun granted is => (staged.named granted is).mono (more.upTo (Nat.le_refl _)) fun _ => id
  case based =>
    intro other base known
    obtain ⟨rfl, same⟩ | known := Cast.add_eq_some known
    · exact absurd same (inner base)
    · exact staged.based known
  case live => exact fun alive => more (staged.live alive)
  case owned => exact staged.owned

end Scene

namespace Grammar

/-- What making a recursive grammar does: there is one more cell, with its builder. -/
structure MadeIn (store after : Store) (cell : Cell) (made : Grammar) : Prop where
  grown : store.Grown after
  kind : made.kind = cell.kind
  rule : ∃ tag traced, made.rule = .object tag traced (.recursive store.cells.size)
  inside : store.cells.size < after.cells.size
  slot : after.cellAt store.cells.size = cell

theorem exec_newCell_granted (kind : Kind) (name : String) (limit : Option Depth.Request) (store : Store) :
    match Depth.granted limit with
    | .error fault => (newCell kind name limit).exec store = (.error (.fault fault), store)
    | .ok granted => ∃ trace, (newCell kind name limit).exec store = (.ok store.cells.size,
        { store with cells := store.cells.push { name, kind, limit := granted }, trace }) := by
  cases limit with
  | none => exact ⟨_, rfl⟩
  | some requested =>
    unfold newCell Depth.granted
    simp only [Option.mapM_some]
    rcases Depth.clamp requested Depth.reserve with fault | ⟨limit, _ | _⟩
    · rfl
    · exact ⟨_, rfl⟩
    · exact ⟨_, rfl⟩

theorem MadeIn.of_cells {store after : Store} {made : Grammar} (slot : Cell) {builder : Builder}
    (assigned : after.assigned = store.assigned) (rests : slot.Rests)
    (kind : made.kind = slot.kind)
    (rule : ∃ tag traced, made.rule = .object tag traced (.recursive store.cells.size))
    (cells : after.cells =
      (store.cells.push slot).modify store.cells.size ({ · with builder := some builder })) :
    MadeIn store after { slot with builder := some builder } made where
  grown := by
    refine ⟨assigned, by simp [cells], fun cell inside => ?_, fun cell outside => ?_⟩
    · have other : store.cells.size ≠ cell := by omega
      have within : cell < store.cells.size + 1 := by omega
      simp [Store.cellAt, cells, Array.getElem_modify, Array.getElem_push, inside, within, other]
    · rcases Nat.eq_or_lt_of_le outside with rfl | beyond
      · refine ⟨?_, ?_⟩ <;> simp [Store.cellAt, cells, Array.getElem_modify, rests.active, rests.building]
      · exact Store.rests_outside (by simpa [cells] using Nat.succ_le_of_lt beyond)
  kind := kind
  rule := rule
  inside := by simp [cells]
  slot := by simp [Store.cellAt, cells, Array.getElem_modify]

theorem exec_recursive (kind : Kind) (binder : String) {limit : Option Depth.Request} (script : Nat → Script)
    (scope : Scope) (store : Store) {granted : Option Nat} (grants : Depth.granted limit = .ok granted) :
    ∃ made after, ∃ placeholder : Placeholder,
      (recursive kind binder limit script scope).exec store = (.ok made, after) ∧
        placeholder.kind = kind ∧ placeholder.cell = store.cells.size ∧
        MadeIn store after
          { name := s!"recursive {kind.noun}", kind, limit := granted
            builder := some ⟨script, (binder, placeholder) :: scope⟩ } made := by
  have exec := exec_newCell_granted kind s!"recursive {kind.noun}" limit store
  rw [grants] at exec
  obtain ⟨trace, exec⟩ := exec
  let placeholder : Placeholder := ⟨kind, store.names.size, store.verbose, store.cells.size, false⟩
  refine ⟨_, _, placeholder, (exec_bind_ok exec).trans rfl, rfl, rfl, ?_⟩
  exact .of_cells { name := s!"recursive {kind.noun}", kind, limit := granted } rfl ⟨rfl, rfl⟩ rfl
    ⟨_, _, rfl⟩ rfl

end Grammar

namespace Workshop

/-- A store in which the next recursive grammar is made under an index that is not taken. -/
structure Ready (shop : Workshop) (cast : Cast) (index : Nat) (store : Store) : Prop extends
    shop.Staged shop.active shop.stage cast store where
  below : ∀ {cell target other}, cast cell = some target → target.key = .within shop.key other →
    other < index
  low : shop.key.level ≤ shop.stage
  root : (∃ depth, shop.key = .stage depth) ∨ ∃ other part, cast other = some part ∧
    part.key = shop.key ∧ ((store.cellAt other).definition.isSome ∨ (store.cellAt other).building)

theorem Ready.grown (ready : shop.Ready cast index store) (grown : store.Grown next) :
    shop.Ready cast index next where
  toStaged := ready.toStaged.grown grown
  below := ready.below
  low := ready.low
  root := by
    obtain stage | ⟨other, part, known, same, built⟩ := ready.root
    · exact .inl stage
    · refine .inr ⟨other, part, known, same, ?_⟩
      rwa [grown.cells other (ready.inside known)]

/-- What is there for the key of the shop. -/
abbrev known (shop : Workshop) (cast : Cast) : Cast := cast.upTo shop.key.level

/-- An action that makes what drafting says, and new cells for the recursive grammars there. -/
def Follows {α β : Type} (shop : Workshop) (cast : Cast) (action : Action α) (plan : Drafting β)
    (related : Cast → α → β → Prop) : Prop :=
  ∀ wider : Cast, wider.Extends cast → ∀ store index, shop.Ready wider index store →
    match plan.run index with
    | .ok (drafted, later) => ∃ made after further, action.exec store = (.ok made, after) ∧
      store.Grown after ∧ further.Extends wider ∧ shop.Ready further later after ∧
      related further made drafted
    | .error fault => ∃ cause after, action.exec store = (.error (.fault cause), after) ∧
      store.Grown after ∧ cause.unnamed = fault.unnamed

/-- A relation that is kept when more is cast. -/
def Lasts {α β : Type} (related : Cast → α → β → Prop) : Prop :=
  ∀ ⦃cast further made drafted⦄, further.Extends cast → related cast made drafted →
    related further made drafted

section Relations
variable (shop) (awake : Key → Prop)

abbrev Grammars (cast : Cast) : Grammar → Sketch → Prop :=
  Grammar.Plays shop.toScene (shop.known cast) awake

abbrev Operands (cast : Cast) : Operand → Draft → Prop :=
  Operand.Plays shop.toScene (shop.known cast) awake

theorem grammars_last : Lasts (shop.Grammars awake) :=
  fun _ _ _ _ more plays => plays.mono (more.upTo (Nat.le_refl _)) fun _ => id

theorem operands_last : Lasts (shop.Operands awake) :=
  fun _ _ _ _ more plays => plays.mono (more.upTo (Nat.le_refl _)) fun _ => id

end Relations

namespace Follows
variable {α β γ δ : Type} {action : Action α} {plan : Drafting β} {related : Cast → α → β → Prop}
  {result : Cast → γ → δ → Prop}

theorem imp {weaker : Cast → α → β → Prop} (follows : shop.Follows cast action plan related)
    (implies : ∀ cast made drafted, related cast made drafted → weaker cast made drafted) :
    shop.Follows cast action plan weaker := by
  intro wider more store index ready
  have done := follows wider more store index ready
  rcases planned : plan.run index with fault | ⟨drafted, later⟩ <;> rw [planned] at done
  · exact done
  · obtain ⟨made, after, further, answered, grown, extends_, ready, holds⟩ := done
    exact ⟨made, after, further, answered, grown, extends_, ready, implies _ _ _ holds⟩

theorem bind {next : α → Action γ} {later : β → Drafting δ}
    (first : shop.Follows cast action plan related)
    (rest : ∀ further made drafted, further.Extends cast → related further made drafted →
      shop.Follows further (next made) (later drafted) result) :
    shop.Follows cast (action >>= next) (plan >>= later) result := by
  intro wider more store index ready
  have done := first wider more store index ready
  rw [StateT.run_bind]
  rcases planned : plan.run index with fault | ⟨drafted, count⟩ <;> rw [planned] at done
  · obtain ⟨cause, after, failed, grown, same⟩ := done
    exact ⟨cause, after, exec_bind_error failed, grown, same⟩
  · obtain ⟨made, after, further, answered, grown, extends_, ready, holds⟩ := done
    have ended := rest further made drafted (extends_.trans more) holds further (.refl _) after count ready
    rw [show ((Except.ok (drafted, count) : Except Fault _) >>= fun pair => (later pair.1).run pair.2) =
      (later drafted).run count from rfl]
    rcases finished : (later drafted).run count with fault | ⟨result, count⟩ <;>
      rw [finished] at ended
    · obtain ⟨cause, last, failed, more, same⟩ := ended
      exact ⟨cause, last, (exec_bind_ok answered).trans failed, grown.trans more, same⟩
    · obtain ⟨made, last, wide, done, more, extend, ready, holds⟩ := ended
      exact ⟨made, last, wide, (exec_bind_ok answered).trans done, grown.trans more,
        extend.trans extends_, ready, holds⟩

theorem pure {made : α} {drafted : β} (lasts : Lasts related) (holds : related cast made drafted) :
    shop.Follows cast (pure made) (pure drafted) related :=
  fun wider more store _ ready =>
    ⟨made, store, wider, rfl, .refl _, .refl _, ready, lasts more holds⟩

theorem lift {outcome : Except Fault β} (lasts : Lasts related)
    (drafts : action.Drafts outcome (related cast)) :
    shop.Follows cast action (liftM outcome) related := by
  intro wider more store index ready
  obtain ⟨names, done⟩ := drafts store
  cases outcome with
  | error fault =>
    obtain ⟨cause, failed, same⟩ := done
    exact ⟨cause, _, failed, .of_same rfl rfl, same⟩
  | ok drafted =>
    obtain ⟨made, answered, holds⟩ := done
    have grown : store.Grown { store with names } := .of_same rfl rfl
    exact ⟨made, _, wider, answered, grown, .refl _, ready.grown grown, lasts more holds⟩

variable {awake : Key → Prop}

/-- What is made one after the other. -/
theorem mapM {γ : Type} {items : List γ} {make : γ → Action α} {makes : γ → Drafting β} (lasts : Lasts related)
    (each : ∀ item ∈ items, ∀ further : Cast, further.Extends cast → shop.Follows further (make item) (makes item) related) :
    shop.Follows cast (items.mapM make) (items.mapM makes) fun cast => List.Forall₂ (related cast) := by
  have last : Lasts fun cast => List.Forall₂ (related cast) := fun _ _ _ _ more all => all.imp fun _ _ => lasts more
  induction items generalizing cast with
  | nil => exact .pure last .nil
  | cons item rest ih =>
    rw [List.mapM_cons, List.mapM_cons]
    refine (each item List.mem_cons_self cast (.refl _)).bind fun further made drafted more one => ?_
    refine (ih fun other member wider further =>
      each other (List.mem_cons_of_mem _ member) wider (further.trans more)).bind fun _ _ _ further all => ?_
    exact .pure last (.cons (lasts further one) all)

/-- A grammar that is made without new cells. -/
theorem making {action : Action Grammar} {outcome : Except Fault Sketch}
    (drafts : action.Drafts outcome (shop.Grammars awake cast)) :
    shop.Follows cast (do return Operand.grammar (← action))
      (do return Draft.grammar (← (liftM outcome : Drafting Sketch))) (shop.Operands awake) :=
  (lift (shop.grammars_last awake) drafts).bind fun _ _ _ _ made =>
    .pure (shop.operands_last awake) (.grammar made)

/-- The same where it cannot be refused. -/
theorem sure {action : Action Grammar} {sketch : Sketch}
    (drafts : action.Drafts (.ok sketch) (shop.Grammars awake cast)) :
    shop.Follows cast (do return Operand.grammar (← action)) (do return Draft.grammar sketch)
      (shop.Operands awake) :=
  making drafts

/-- What is made of a grammar that an operand has to be. -/
theorem ofGrammar {operand : Action Operand} {draft : Drafting Draft} (member : String)
    (first : shop.Follows cast operand draft (shop.Operands awake)) {next : Grammar → Action α}
    {later : Sketch → Drafting β}
    (rest : ∀ further made sketch, further.Extends cast → shop.Grammars awake further made sketch →
      shop.Follows further (next made) (later sketch) related) :
    shop.Follows cast (do next (← (← operand).asGrammar member))
      (do later (← (liftM ((← draft).asGrammar member) : Drafting Sketch))) related :=
  first.bind fun _ _ _ more plays => (lift (shop.grammars_last awake) (plays.asGrammar member)).bind
    fun _ _ _ further made => rest _ _ _ (further.trans more) made

end Follows

section Recursive
variable {kind : Kind} {binder : String} {limit : Option Depth.Request} {script : Nat → Script} {scope : Scope}
  {names : Names}

/-- The part of a recursive grammar that is made next. -/
def nextTarget (shop : Workshop) (index : Nat) (kind : Kind) (granted : Option Nat) (binder : String)
    (script : Nat → Script) (names : Names) : Target :=
  .inner (.within shop.key index) kind granted binder (((script 0).definition?).getD (.raw .null)) names

theorem run_draft_recursive (globals : String → Option Draft) :
    ((Expression.recursive kind binder limit script).draft globals shop.key names).run index =
      match Depth.granted limit with
      | .error fault => .error fault
      | .ok granted => .ok (.grammar (.new kind (.invoke
          (shop.nextTarget index kind granted binder script names))), index + 1) := by
  rw [Expression.draft]
  cases Depth.granted limit <;> rfl

/-- What a builder knows. -/
theorem builder_performs {placeholder : Placeholder} {target : Target} {granted : Option Nat}
    (is : target = shop.nextTarget index kind granted binder script names)
    (stands : scope.Plays cast names) (same : placeholder.kind = kind)
    (known : cast placeholder.cell = some target)
    (steady : ∀ call, (script call).definition? = (script 0).definition?)
    (plain : ∀ call, (script call).Plain fun name => name = binder ∨ names.Knows shop.allowed name) :
    Builder.Performs shop.toScene cast ⟨script, (binder, placeholder) :: scope⟩ target := by
  subst is
  constructor
  · exact .cons ⟨rfl, same, known⟩ stands
  · intro call
    refine (plain call).mono fun name knows => ?_
    simp only [Names.Knows, nextTarget, Target.names, List.lookup_cons]
    obtain rfl | inner | granted := knows
    · simp
    · left
      split
      · rfl
      · exact inner
    · exact .inr granted
  · obtain ⟨definition, is, -⟩ := Script.Plain.definition _ (plain 0)
    refine ⟨definition, fun call => (steady call).trans is, ?_⟩
    simp only [nextTarget, Target.definition, Target.key, Target.kind, is, Option.getD_some]

theorem Ready.free (ready : shop.Ready cast index store) : cast store.cells.size = none := by
  cases is : cast store.cells.size with
  | none => rfl
  | some target => exact absurd (ready.inside is) (Nat.lt_irrefl _)

theorem nested_names {granted : Option Nat} (nested : names.Nested) :
    ((shop.nextTarget index kind granted binder script names).names shop.base).Nested := by
  intro entry member
  obtain rfl | inner := List.mem_cons.mp member
  · exact List.subset_cons_self _ _
  · exact List.Subset.trans (nested entry inner) (List.subset_cons_self _ _)

/-- One more cell for the recursive grammar that is made next. -/
theorem Ready.made (ready : shop.Ready cast index store) {granted : Option Nat} {slot : Cell}
    {made : Grammar} (one : Grammar.MadeIn store next slot made)
    (sleeps : slot.active = 0)
    (performs : slot.Performs shop.toScene
      (shop.known (cast.add store.cells.size (shop.nextTarget index kind granted binder script names)))
      (shop.nextTarget index kind granted binder script names)) :
    (cast.add store.cells.size (shop.nextTarget index kind granted binder script names)).Extends cast ∧
      shop.Ready (cast.add store.cells.size (shop.nextTarget index kind granted binder script names))
        (index + 1) next := by
  have more : (cast.add store.cells.size
      (shop.nextTarget index kind granted binder script names)).Extends cast :=
    Cast.add_extends ready.free
  have old := ready.grown one.grown
  have staged : shop.Staged shop.active shop.stage
      (cast.add store.cells.size (shop.nextTarget index kind granted binder script names)) next := by
    refine old.toStaged.add ready.free one.inside nofun
      (fun known same => Nat.lt_irrefl _ (ready.below known same)) ?_ ?_ nofun ready.low ?_
    · rw [one.slot]
      exact performs
    · rw [one.slot]
      exact sleeps
    · rintro _ _ ⟨⟩
      exact old.root
  refine ⟨more, staged, fun known same => ?_, ready.low, ?_⟩
  · obtain ⟨-, rfl⟩ | known := Cast.add_eq_some known
    · cases same
      exact Nat.lt_succ_self _
    · exact Nat.lt_succ_of_lt (ready.below known same)
  · obtain stage | ⟨other, part, known, same, built⟩ := old.root
    · exact .inl stage
    · exact .inr ⟨other, part, more known, same, built⟩

theorem Follows.recursive {awake : Key → Prop} (stands : scope.Plays (shop.known cast) names)
    (stay : names.Stay awake) (nested : names.Nested)
    (steady : ∀ call, (script call).definition? = (script 0).definition?)
    (plain : ∀ call, (script call).Plain fun name => name = binder ∨ names.Knows shop.allowed name) :
    shop.Follows cast (.grammar <$> Grammar.recursive kind binder limit script scope)
      ((Expression.recursive kind binder limit script).draft shop.base.globals shop.key names)
      (shop.Operands awake) := by
  intro wider more store index ready
  rw [run_draft_recursive]
  cases grants : Depth.granted limit with
  | error fault =>
    have failed := Grammar.exec_newCell_granted kind s!"recursive {kind.noun}" limit store
    rw [grants] at failed
    refine ⟨fault, store, ?_, .refl _, rfl⟩
    rw [map_eq_pure_bind]
    exact exec_bind_error (exec_bind_error failed)
  | ok granted =>
    obtain ⟨made, after, placeholder, exec, same, place, one⟩ := Grammar.exec_recursive kind binder
      script scope store grants
    let target := shop.nextTarget index kind granted binder script names
    let further := wider.add store.cells.size target
    have known : shop.known further store.cells.size = some target :=
      Cast.upTo_eq_some.mpr ⟨by simp [further, Cast.add], Nat.le_refl _⟩
    have wide : further.Extends cast := (Cast.add_extends ready.free).trans more
    have performs : Cell.Performs shop.toScene (shop.known further) { name := s!"recursive {kind.noun}", kind, limit := granted, builder := some ⟨script, (binder, placeholder) :: scope⟩ } target :=
      ⟨rfl, rfl, rfl, nested_names nested, nofun, fun _ => ⟨_, rfl, builder_performs rfl
        (stands.mono (wide.upTo (Nat.le_refl _))) same (by rw [place]; exact known) steady plain⟩⟩
    obtain ⟨wide, later⟩ := ready.made one rfl performs
    refine ⟨.grammar made, after, further, ?_, one.grown, wide, later, .grammar ⟨one.kind, ?_⟩⟩
    · rw [map_eq_pure_bind, exec_bind_ok exec]
      rfl
    · obtain ⟨tag, traced, rule⟩ := one.rule
      rw [rule]
      exact .object _ _ (.recursive known stay)

end Recursive

/-- A scope whose placeholders may run as the names say. -/
structure Stands (shop : Workshop) (cast : Cast) (awake : Key → Prop) (scope : Scope) (names : Names) :
    Prop where
  plays : scope.Plays (shop.known cast) names
  stay : names.Stay awake
  nested : names.Nested

section Evaluation
variable {awake : Key → Prop} {scope : Scope} {names : Names}

theorem Stands.mono (stands : shop.Stands cast awake scope names) (more : further.Extends cast) :
    shop.Stands further awake scope names :=
  { stands with plays := stands.plays.mono (more.upTo (Nat.le_refl _)) }

/-- What a name stands for: it may be captured wherever the names are known. -/
structure Takes (shop : Workshop) (awake : Key → Prop) (names : Names) (cast : Cast) (operand : Operand) (draft : Draft) :
    Prop where
  plays : shop.Operands awake cast operand draft
  stays : ∀ {kind target}, draft.target? = some (kind, target) → target.Stays awake ∧ target.outer ⊆ names

theorem takes_last (shop : Workshop) (awake : Key → Prop) (names : Names) : Lasts (shop.Takes awake names) :=
  fun _ _ _ _ more takes => ⟨shop.operands_last awake more takes.plays, takes.stays⟩

/-- What a name stands for, whether it is in scope or a variable of the session. -/
theorem Stands.lookUp (stands : shop.Stands cast awake scope names) {name : String}
    (knows : names.Knows shop.allowed name) :
    shop.Follows cast (lookUp scope name) (draftOf shop.base.globals names name) (shop.Takes awake names) := by
  have lasts := shop.takes_last awake names
  rw [TextGrammar.lookUp, draftOf]
  obtain ⟨outside, absent⟩ | ⟨placeholder, kind, target, inside, known, same, cast, member⟩ :=
    stands.plays.lookup name
  · have granted : shop.allowed name := knows.resolve_left (by simp [absent])
    have draft : (names.draft? name).or (shop.base.globals name) =
        (shop.base.assigned? name).map Operand.draft := by simp [Names.draft?, absent, Store.globals]
    rw [outside, draft]
    intro wider more store index ready
    have held : store.assigned? name = shop.base.assigned? name :=
      congrArg (List.lookup name) ready.assigned
    cases is : shop.base.assigned? name with
    | none =>
      refine ⟨.unboundVariable name, store, ?_, .refl _, rfl⟩
      simp [exec_bind, held, is]
    | some operand =>
      refine ⟨operand, store, wider, ?_, .refl _, .refl _, ready, ?_⟩
      · simp [exec_bind, held, is]
      · refine ⟨(ready.named granted is).mono ?_ fun _ => False.elim, fun stands => ?_⟩
        · exact (Cast.Extends.refl _).upTo (Nat.zero_le _)
        · obtain ⟨cell, rfl⟩ := Operand.base_of_target? stands
          exact ⟨trivial, List.nil_subset _⟩
  · have draft : (names.draft? name).or (shop.base.globals name) =
        some (.grammar ⟨kind, .object (.invoke target)⟩) := by simp [Names.draft?, known]
    rw [inside, draft]
    have outer : target.outer.Stay awake := fun entry inner => stands.stay entry (stands.nested _ member inner)
    refine .pure lasts ⟨.grammar ⟨same, ?_⟩, fun is => ?_⟩
    · rw [Placeholder.grammar, Placeholder.rule]
      cases placeholder.captured with
      | false => exact .object _ _ (.placeholder cast (stands.stay _ member) outer)
      | true => exact .object _ _ (.recursive cast outer)
    · cases is
      exact ⟨stands.stay _ member, stands.nested _ member⟩

theorem stays_of_takes {operands : List Operand} {drafts : List Draft}
    (takes : List.Forall₂ (shop.Takes awake names cast) operands drafts) {draft : Draft} (member : draft ∈ drafts)
    {kind : Kind} {target : Target} (is : draft.target? = some (kind, target)) :
    target.Stays awake ∧ target.outer ⊆ names := by
  induction takes with
  | nil => cases member
  | cons one _ ih =>
    obtain rfl | later := List.mem_cons.mp member
    · exact one.stays is
    · exact ih later

/-- The scope of what has captured some grammars. -/
theorem Stands.capturing (stands : shop.Stands cast awake scope names) (taken : List String) {operands : List Operand}
    {drafts : List Draft} (takes : List.Forall₂ (shop.Takes awake names cast) operands drafts) :
    shop.Stands cast awake (scope.capturing taken operands) (names.capturing taken drafts) where
  plays := stands.plays.capturing taken (takes.imp fun _ _ takes => takes.plays.placeholder?)
  stay entry member := by
    obtain ⟨draft, given, is⟩ | member := Names.mem_capturing member
    · exact (stays_of_takes takes given is).1
    · exact stands.stay entry member
  nested entry member := by
    refine List.Subset.trans ?_ (List.subset_append_right _ _)
    obtain ⟨draft, given, is⟩ | member := Names.mem_capturing member
    · exact (stays_of_takes takes given is).2
    · exact stands.nested entry member

/-- Two operands, of which the first has to be a grammar. -/
theorem Follows.both {α β : Type} {first second : Action Operand} {one two : Drafting Draft}
    {result : Cast → α → β → Prop} (member : String)
    (left : shop.Follows cast first one (shop.Operands awake))
    (right : ∀ {further : Cast}, further.Extends cast →
      shop.Follows further second two (shop.Operands awake))
    {next : Grammar → Operand → Action α} {later : Sketch → Draft → Drafting β}
    (rest : ∀ {further made sketch operand draft}, shop.Grammars awake further made sketch →
      shop.Operands awake further operand draft →
        shop.Follows further (next made operand) (later sketch draft) result) :
    shop.Follows cast
      (do
        let first ← first
        let second ← second
        next (← first.asGrammar member) second)
      (do
        let first ← one
        let second ← two
        later (← (liftM (first.asGrammar member) : Drafting Sketch)) second) result :=
  left.bind fun _ _ _ more one => (right more).bind fun _ _ _ further two =>
    (lift (shop.grammars_last awake) ((shop.operands_last awake further one).asGrammar member)).bind
      fun _ _ _ last made => rest made (shop.operands_last awake last two)

mutual

/-- Evaluation makes what drafting says. -/
theorem follows_evaluate {cast : Cast} {scope : Scope} {names : Names} (stands : shop.Stands cast awake scope names)
    (expression : Expression) (plain : expression.Plain (names.Knows shop.allowed)) :
    shop.Follows cast (expression.evaluate scope)
      (expression.draft shop.base.globals shop.key names) (shop.Operands awake) := by
  have lasts := shop.operands_last awake
  cases expression with
  | raw value => exact .pure lasts (.raw value)
  | «variable» name =>
    rw [Expression.draft]
    exact (stands.lookUp plain).imp fun _ _ _ takes => takes.plays
  | invalid fault => exact .lift lasts (.fail rfl)
  | leaf kind name recognise =>
    exact .lift lasts (Drafts.map (newGrammar_drafts _ _ (.leaf _)) fun _ _ made => .grammar made)
  | constant shared => exact .pure lasts (.grammar ⟨rfl, .object _ _ (.leaf _)⟩)
  | followedBy first second =>
    rw [Expression.evaluate, Expression.draft]
    exact (follows_evaluate stands first plain.1).both _
      (fun more => follows_evaluate (stands.mono more) second plain.2)
      fun one two => .making (one.followedBy two)
  | sum first second =>
    rw [Expression.evaluate, Expression.draft]
    exact (follows_evaluate stands first plain.1).bind fun _ _ _ more one =>
      (follows_evaluate (stands.mono more) second plain.2).bind fun _ _ _ further two =>
        .lift lasts ((lasts further one).sum two)
  | orElse first second =>
    rw [Expression.evaluate, Expression.draft]
    exact (follows_evaluate stands first plain.1).both _
      (fun more => follows_evaluate (stands.mono more) second plain.2)
      fun one two => .making (one.orElse two)
  | union first second =>
    rw [Expression.evaluate, Expression.draft]
    exact (follows_evaluate stands first plain.1).bind fun _ _ _ more one =>
      (follows_evaluate (stands.mono more) second plain.2).bind fun _ _ _ further two =>
        .lift lasts ((lasts further one).union two)
  | either kind alternatives =>
    rw [Expression.evaluate, Expression.draft]
    exact (follows_evaluateAll stands alternatives plain).bind fun _ _ _ _ all =>
      .making (either_drafts kind all)
  | optional operand =>
    rw [Expression.evaluate, Expression.draft]
    exact (follows_evaluate stands operand plain).ofGrammar _ fun _ _ _ _ made => .sure made.optional
  | many operand =>
    rw [Expression.evaluate, Expression.draft]
    exact (follows_evaluate stands operand plain).ofGrammar _ fun _ _ _ _ made => .sure made.many
  | oneOrMore operand =>
    rw [Expression.evaluate, Expression.draft]
    exact (follows_evaluate stands operand plain).ofGrammar _ fun _ _ _ _ made => .sure made.oneOrMore
  | times operand count =>
    rw [Expression.evaluate, Expression.draft]
    exact (follows_evaluate stands operand plain).bind fun _ _ _ _ one => .lift lasts (one.times count)
  | separatedBy operand separator =>
    rw [Expression.evaluate, Expression.draft]
    exact (follows_evaluate stands operand plain.1).both _
      (fun more => follows_evaluate (stands.mono more) separator plain.2)
      fun one two => .making (one.separatedBy two)
  | captured operand =>
    rw [Expression.evaluate, Expression.draft]
    exact (follows_evaluate stands operand plain).ofGrammar _ fun _ _ _ _ made => .sure made.captured
  | capturedPattern operand =>
    rw [Expression.evaluate, Expression.draft]
    exact (follows_evaluate stands operand plain).bind fun _ _ _ _ one =>
      (Follows.lift (shop.grammars_last awake) one.asPattern).bind fun _ _ _ _ made =>
        .sure made.captured
  | returning operand value =>
    rw [Expression.evaluate, Expression.draft]
    exact (follows_evaluate stands operand plain).ofGrammar _ fun _ _ _ _ made =>
      .making (made.returning value)
  | valueFor operand value =>
    rw [Expression.evaluate, Expression.draft]
    exact (follows_evaluate stands operand plain).bind fun _ _ _ _ one => .making (one.valueFor value)
  | erased operand =>
    rw [Expression.evaluate, Expression.draft]
    exact (follows_evaluate stands operand plain).ofGrammar _ fun _ _ _ _ made =>
      .making (made.ofParser _ _ _ .erased)
  | negated operand =>
    rw [Expression.evaluate, Expression.draft]
    exact (follows_evaluate stands operand plain).bind fun _ _ _ _ one => .lift lasts one.negated
  | map operand transform =>
    rw [Expression.evaluate, Expression.draft]
    exact (follows_evaluate stands operand plain).ofGrammar _ fun _ _ _ _ made =>
      .making (made.ofParser _ _ _ (.map transform))
  | shifted operand transform functionType =>
    rw [Expression.evaluate, Expression.draft]
    exact (follows_evaluate stands operand plain).bind fun _ _ _ _ one =>
      .lift lasts (one.shifted transform functionType)
  | filter operand accept =>
    rw [Expression.evaluate, Expression.draft]
    exact (follows_evaluate stands operand plain).ofGrammar _ fun _ _ _ _ made =>
      .making (made.ofParser _ _ _ (.filter accept))
  | bind operand continuation =>
    rw [Expression.evaluate, Expression.draft]
    exact (follows_evaluate stands operand plain.1).ofGrammar _ fun _ _ _ more made =>
      .making (made.ofParser _ _ _
        (.bind (stands.mono more).plays stands.stay stands.nested plain.2))
  | named operand name =>
    rw [Expression.evaluate, Expression.draft]
    exact (follows_evaluate stands operand plain).ofGrammar _ fun _ _ _ _ made => .sure (made.named name)
  | copy operand =>
    rw [Expression.evaluate, Expression.draft]
    exact (follows_evaluate stands operand plain).bind fun _ _ _ _ one => .lift lasts one.copy
  | capturing taken body =>
    rw [Expression.evaluate, Expression.draft]
    refine (Follows.mapM (shop.takes_last awake names) fun name member _ more =>
      (stands.mono more).lookUp (plain.1 name member)).bind fun _ _ _ more takes => ?_
    refine follows_evaluate ((stands.mono more).capturing taken takes) body (plain.2.mono fun name => ?_)
    exact Or.imp_left (Names.isSome_lookup_capturing taken _)
  | retaining taken body =>
    rw [Expression.evaluate, Expression.draft]
    refine (Follows.mapM (shop.takes_last awake names) fun name member _ more =>
      (stands.mono more).lookUp (plain.1 name member)).bind fun _ _ _ more _ => ?_
    exact (follows_evaluate (stands.mono more) body plain.2).bind fun _ _ _ _ one =>
      .pure lasts (one.retaining _)
  | recursive kind binder limit script =>
    rw [Expression.evaluate]
    exact .recursive stands.plays stands.stay stands.nested plain.1 plain.2

theorem follows_evaluateAll {cast : Cast} {scope : Scope} {names : Names} (stands : shop.Stands cast awake scope names)
    (expressions : List Expression)
    (plain : Expression.AllPlain (names.Knows shop.allowed) expressions) :
    shop.Follows cast (Expression.evaluateAll scope expressions)
      (Expression.draftAll shop.base.globals shop.key names expressions)
      fun cast => List.Forall₂ (shop.Operands awake cast) := by
  have lasts : Lasts fun cast => List.Forall₂ (shop.Operands awake cast) :=
    fun _ _ _ _ more all => all.imp fun _ _ => shop.operands_last awake more
  cases expressions with
  | nil => exact .pure lasts .nil
  | cons first rest =>
    rw [Expression.evaluateAll, Expression.draftAll]
    exact (follows_evaluate stands first plain.1).bind fun _ _ _ more one =>
      (follows_evaluateAll (stands.mono more) rest plain.2).bind fun _ _ _ further all =>
        .pure lasts (.cons (shop.operands_last awake further one) all)

end

end Evaluation

end Workshop

end TextGrammar
