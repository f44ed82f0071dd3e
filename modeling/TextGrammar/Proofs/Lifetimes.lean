import Mathlib
import TextGrammar.Grammar.Plan
import TextGrammar.Proofs.Confinement
import TextGrammar.Proofs.Histories
import TextGrammar.Proofs.Resolution

/-! How long placeholders may run: as long as something owns their cells, be it a builder that has
captured a grammar and is yet to be called. What a run itself owns is there until it ends, with all
that its definitions own, so that it never comes to a placeholder of that whose grammar is gone; and a
grammar that is gone stays so. -/

namespace TextGrammar
open TextGrammar.Action

namespace Store
variable {store after : Store}

/-- Whether what is going on leads to a cell, whatever becomes of the variables. -/
def Holds (store : Store) (cell : CellId) : Prop :=
  store.Leads (store.running.flatMap Rule.owned ++ store.cellsInUse) cell

theorem Holds.reaches {cell : CellId} (holds : store.Holds cell) : store.Reaches store.roots cell := by
  refine Follows.mono holds (fun other member => .here ?_) store.ownedByCell_subset_heldByCell
  simp only [roots, List.append_assoc, List.mem_append] at member ⊢
  exact .inr member

/-- What more is going on, and what more is defined, holds no less. -/
theorem Holds.mono {cell : CellId} (holds : store.Holds cell)
    (running : ∀ rule ∈ store.running, rule ∈ after.running)
    (used : ∀ cell < store.cells.size, (store.cellAt cell).inUse = true → (after.cellAt cell).inUse = true)
    (size : store.cells.size ≤ after.cells.size)
    (kept : ∀ outer, ∀ cell ∈ store.ownedByCell outer, cell ∈ after.ownedByCell outer) :
    after.Holds cell := by
  refine Follows.mono holds (fun other member => .here ?_) kept
  obtain run | use := List.mem_append.mp member
  · obtain ⟨rule, present, owned⟩ := List.mem_flatMap.mp run
    exact List.mem_append_left _ (List.mem_flatMap.mpr ⟨rule, running rule present, owned⟩)
  · obtain ⟨inside, inUse⟩ := mem_cellsInUse.mp use
    exact List.mem_append_right _
      (mem_cellsInUse.mpr ⟨Nat.lt_of_lt_of_le inside size, used other inside inUse⟩)

/-- Resolving cells takes nothing away from what they own. -/
theorem Moved.owned (moved : store.Moved after) (outer : CellId) :
    ∀ cell ∈ store.ownedByCell outer, cell ∈ after.ownedByCell outer := by
  intro cell owned
  have inside := lt_size_of_owned owned
  obtain ⟨same, -⟩ | ⟨none, -⟩ := (moved.cells outer inside).resolved
  · rwa [ownedByCell, same]
  · simp [ownedByCell, none] at owned

theorem Moved.inUse (moved : store.Moved after) {cell : CellId} (inside : cell < store.cells.size) :
    (after.cellAt cell).inUse = (store.cellAt cell).inUse := by
  rw [Cell.inUse, Cell.inUse, (moved.cells cell inside).building, (moved.cells cell inside).active]

/-- A change to a cell that keeps its definition, after which it is in use no less. -/
theorem Holds.updateCell {cell other : CellId} (holds : store.Holds other) {change : Cell → Cell}
    (kept : ∀ slot, (change slot).definition = slot.definition)
    (used : ∀ slot : Cell, slot.inUse = true → (change slot).inUse = true) :
    (store.updateCell cell change).Holds other := by
  refine holds.mono (fun _ => id) (fun slot _ inUse => ?_) (by simp) fun outer inner owned => ?_
  · rw [cellAt_updateCell]
    split
    · exact used _ inUse
    · exact inUse
  · rw [ownedByCell, cellAt_updateCell]
    split
    · rwa [kept]
    · exact owned

/-- Something that refuses none of the cells that are held, however it is done. -/
structure Secures (before after : Store) : Prop where
  moved : before.Moved after
  running : after.running = before.running
  trace : ∃ gained, after.trace = gained ++ before.trace ∧
    ∀ cell < before.cells.size, before.Holds cell → Event.refused cell ∉ gained

namespace Secures
variable {first second third : Store}

/-- Nothing is recorded. -/
theorem silent (moved : first.Moved second) (running : second.running = first.running)
    (trace : second.trace = first.trace) : first.Secures second :=
  ⟨moved, running, [], trace, fun _ _ _ member => by cases member⟩

theorem holds (secures : first.Secures second) {cell : CellId} (holds : first.Holds cell) :
    second.Holds cell :=
  holds.mono (fun _ => secures.running ▸ id) (fun _ inside used => (secures.moved.inUse inside).trans used)
    secures.moved.size secures.moved.owned

theorem refl (store : Store) : store.Secures store := silent (.refl store) rfl rfl

theorem trans (one : first.Secures second) (two : second.Secures third) : first.Secures third := by
  obtain ⟨gained, trace, spared⟩ := one.trace
  obtain ⟨later, trace', spared'⟩ := two.trace
  refine ⟨one.moved.trans two.moved, two.running.trans one.running, later ++ gained, ?_, ?_⟩
  · rw [trace', trace, List.append_assoc]
  · intro cell inside held member
    obtain member | member := List.mem_append.mp member
    · exact spared' cell (Nat.lt_of_lt_of_le inside one.moved.size) (one.holds held) member
    · exact spared cell inside held member

/-- What is done between two changes that hold more in between, and are recorded as something else. -/
theorem between {store opened mid after : Store} (secures : opened.Secures mid) (moved : store.Moved after)
    (running : after.running = store.running) (opening closing : List Event)
    (begins : opened.trace = opening ++ store.trace) (ends : after.trace = closing ++ mid.trace)
    (size : store.cells.size ≤ opened.cells.size)
    (holds : ∀ cell, store.Holds cell → opened.Holds cell)
    (others : ∀ cell, Event.refused cell ∉ opening ∧ Event.refused cell ∉ closing) : store.Secures after := by
  obtain ⟨gained, trace, spared⟩ := secures.trace
  refine ⟨moved, running, closing ++ (gained ++ opening), ?_, fun cell inside held member => ?_⟩
  · rw [ends, trace, begins, List.append_assoc, List.append_assoc]
  · obtain member | member := List.mem_append.mp member
    · exact (others cell).2 member
    obtain member | member := List.mem_append.mp member
    · exact spared cell (Nat.lt_of_lt_of_le inside size) (holds cell held) member
    · exact (others cell).1 member

end Secures

end Store

namespace Conduct

/-- Cells that are held are not refused. -/
def securing : Conduct where
  free _ := True
  sound _ := True
  leads := Store.Secures

theorem securing_allows {before after : Store} (secures : before.Secures after) :
    securing.Allows before after := ⟨trivial, secures⟩

theorem securing_lawful : securing.Lawful where
  refl := .refl
  trans := .trans
  aside _ same := securing_allows (.silent (.of_same same.cells) same.running same.trace)
  record := by
    intro store event _ passing
    refine securing_allows ⟨.of_same rfl, rfl, [event], rfl, fun cell _ _ member => ?_⟩
    obtain rfl := List.mem_singleton.mp member
    exact passing
  refuse := by
    intro store cell _ unowned
    refine securing_allows ⟨.of_same rfl, rfl, [.refused cell], rfl, fun other inside held member => ?_⟩
    obtain rfl : other = cell := by simpa using member
    rw [Store.isOwned_iff.mpr ⟨inside, held.reaches⟩] at unowned
    cases unowned
  assigned _ _ _ _ := trivial
  defined _ _ _ _ _ := trivial
  bound _ _ _ _ _ := trivial
  owned _ _ := trivial
  make name kind limit builder _ _ :=
    ⟨trivial, securing_allows (.silent (.of_grown (.withCell ⟨rfl, rfl⟩)) rfl rfl)⟩
  assign _ _ _ _ := securing_allows (.silent (.of_same rfl) rfl rfl)
  forget _ _ := securing_allows (.silent (.of_same rfl) rfl rfl)
  hold := by
    intro store rule _ _
    refine ⟨trivial, fun {after} allowed => securing_allows ?_⟩
    have secures : (store.hold rule).Secures after := allowed.leads
    have moved : moving.Allows store after.release :=
      (moving_lawful.hold trivial fun _ _ => trivial).2 (moving_allows secures.moved)
    refine secures.between moved.leads ?_ [] [] rfl rfl (Nat.le_refl _) ?_ (by simp)
    · simp [Store.release, secures.running, Store.hold]
    · exact fun cell held => held.mono (fun _ => List.mem_cons_of_mem _) (fun _ _ => id) (Nat.le_refl _) fun _ _ => id
  build := by
    intro store cell _ _ undefined idle bound
    refine ⟨trivial, fun {after} allowed => ?_⟩
    have secures : (store.beginBuild cell).Secures after := allowed.leads
    obtain ⟨failed, settled⟩ :=
      (moving_lawful.build trivial trivial undefined idle bound).2 (moving_allows secures.moved)
    have holds (other : CellId) (held : store.Holds other) : (store.beginBuild cell).Holds other :=
      held.updateCell (fun _ => rfl) fun _ _ => by simp [Cell.inUse]
    have size : store.cells.size ≤ (store.beginBuild cell).cells.size := by simp [Store.beginBuild]
    refine ⟨securing_allows ?_, fun {rule} owns => securing_allows ?_⟩
    · exact secures.between failed.leads secures.running [] [] rfl rfl size holds (by simp)
    · refine secures.between (settled owns).leads secures.running []
        [.resolved cell (store.cellAt cell).name] rfl rfl size holds (by simp)
  enter := by
    intro store cell _ _
    refine ⟨trivial, fun {after} allowed => securing_allows ?_⟩
    have secures : (store.enter cell).Secures after := allowed.leads
    have moved : moving.Allows store (after.leave cell) :=
      (moving_lawful.enter trivial trivial).2 (moving_allows secures.moved)
    have holds (other : CellId) (held : store.Holds other) : (store.enter cell).Holds other := by
      have more : (store.updateCell cell fun slot => { slot with active := slot.active + 1 }).Holds other :=
        held.updateCell (fun _ => rfl) fun _ _ => by simp [Cell.inUse]
      exact more.mono (fun _ => id) (fun _ _ => id) (Nat.le_refl _) fun _ _ => id
    exact secures.between moved.leads secures.running [.entered cell] [.left cell] rfl rfl
      (by simp [Store.enter, Store.record]) holds (by simp)

end Conduct

/-- Whether a cell was made that something owns: a variable, a running grammar, or a cell in use. -/
def Store.Alive (store : Store) (cell : CellId) : Prop :=
  cell < store.cells.size ∧ store.Reaches store.roots cell

/-- How runs depend on the owners of cells, at whatever moment and to whatever depth they are carried. -/
structure Rule.RespectsOwners (fuel : Nat) : Prop where
  /-- A run of a placeholder comes to a refusal of its cell if and only if that has no owner. -/
  refuses : ∀ cell text start (store : Store), ∃ gained,
    ((Rule.run (fuel + 1) (.placeholder cell) text start).exec store).2.trace = gained ++ store.trace ∧
      (Event.refused cell ∈ gained ↔ ¬ store.Alive cell)
  /-- Then it fails, and nothing else happens. -/
  refused : ∀ {store cell}, ¬ store.Alive cell → ∀ text start,
    (Rule.run (fuel + 1) (.placeholder cell) text start).exec store =
      (.error (.fault (.outlived (store.cellAt cell).name)), store.record (.refused cell))
  /-- Otherwise it runs as its grammar does. -/
  runs : ∀ {store cell}, store.Alive cell → ∀ text start,
    (Rule.run (fuel + 1) (.placeholder cell) text start).exec store =
      (Rule.run (fuel + 1) (.recursive cell) text start).exec store
  /-- The run of a grammar refuses no cell that the grammar owns, be it through definitions. -/
  kept : ∀ rule text start (store : Store), ∃ gained,
    ((Runner.owning (Rule.run fuel) rule text start).exec store).2.trace = gained ++ store.trace ∧
      ∀ cell < store.cells.size, store.Leads rule.owned cell → Event.refused cell ∉ gained
  /-- Nor does an invocation, once the definition is there, that of a cell which this owns. -/
  entered : ∀ {store cell rule}, (store.cellAt cell).definition = some rule → ∀ text start, ∃ gained,
    ((Runner.enter (Rule.run fuel) cell rule text start).exec store).2.trace = gained ++ store.trace ∧
      ∀ inner < store.cells.size, store.Leads [cell] inner → Event.refused inner ∉ gained
  /-- A cell that has lost its last owner has none ever after. -/
  lost : ∀ rule text start (store : Store), (∀ cell ∈ rule.owned, store.Alive cell) →
    ∀ cell, store.Gone cell → ((Rule.run fuel rule text start).exec store).2.Gone cell

namespace Rule
variable {store : Store}

theorem run_placeholder_refused {fuel : Nat} {cell : CellId} (gone : ¬ store.Alive cell) (text : Text) (start : Int) :
    (Rule.run (fuel + 1) (.placeholder cell) text start).exec store =
      (.error (.fault (.outlived (store.cellAt cell).name)), store.record (.refused cell)) := by
  have unowned : store.isOwned cell = false := by
    rw [← Bool.not_eq_true]
    exact fun owned => gone (Store.isOwned_iff.mp owned)
  rw [Rule.run, Runner.step, exec_bind_ok (exec_get store), unowned]
  rfl

theorem run_placeholder_alive {fuel : Nat} {cell : CellId} (alive : store.Alive cell) (text : Text) (start : Int) :
    (Rule.run (fuel + 1) (.placeholder cell) text start).exec store =
      (Runner.invoke (Rule.run fuel) cell text start).exec store := by
  have owned : store.isOwned cell = true := Store.isOwned_iff.mpr alive
  rw [Rule.run, Runner.step, exec_bind_ok (exec_get store), if_pos owned]

/-- What stands for a grammar without owners is refused as well. -/
theorem run_standIn_refused {fuel : Nat} {cell : CellId} (gone : ¬ store.Alive cell) (tag : Tag) (traced : Bool)
    (text : Text) (start : Int) :
    ((Rule.run (fuel + 2) (.object tag traced (.placeholder cell)) text start).exec store).1 =
      .error (.fault (.outlived (store.cellAt cell).name)) := by
  have refused (trace : List Event) :
      ((Rule.run (fuel + 1) (.placeholder cell) text start).exec { store with trace }).1 =
        .error (.fault (.outlived (store.cellAt cell).name)) := by
    have without : ¬ ({ store with trace } : Store).Alive cell := gone
    rw [run_placeholder_refused without]
    rfl
  rw [Rule.run, Runner.step, exec_bind_ok (exec_record _ _)]
  dsimp only
  split
  · rw [exec_bind_ok (exec_get _), exec_bind_ok (exec_record _ _)]
    exact refused _
  · exact refused _

theorem owning_keeps {runner : Runner} (runs : Conduct.securing.Runs runner) (rule : Rule) (text : Text)
    (start : Int) (store : Store) : ∃ gained,
      ((runner.owning rule text start).exec store).2.trace = gained ++ store.trace ∧
        ∀ cell < store.cells.size, store.Leads rule.owned cell → Event.refused cell ∉ gained := by
  have secures : (store.hold rule).Secures ((runner rule text start).exec (store.hold rule)).2 :=
    (runs rule text start (fun _ _ => trivial) (store.hold rule) trivial).1.leads
  obtain ⟨gained, trace, spared⟩ := secures.trace
  refine ⟨gained, trace, fun cell inside leads => spared cell inside (Store.Follows.mono leads (fun other member => ?_) ?_)⟩
  · exact .here (List.mem_append_left _ (List.mem_flatMap.mpr ⟨rule, List.mem_cons_self, member⟩))
  · exact fun _ _ => id

theorem enter_keeps {runner : Runner} (runs : Conduct.securing.Runs runner) {cell : CellId} {rule : Rule}
    (defined : (store.cellAt cell).definition = some rule) (text : Text) (start : Int) : ∃ gained,
      ((runner.enter cell rule text start).exec store).2.trace = gained ++ store.trace ∧
        ∀ inner < store.cells.size, store.Leads [cell] inner → Event.refused inner ∉ gained := by
  have ended : (store.enter cell).Secures ((runner rule text start).exec (store.enter cell)).2 :=
    (runs rule text start (fun _ _ => trivial) (store.enter cell) trivial).1.leads
  obtain ⟨gained, trace, spared⟩ := ended.trace
  by_cases below : ∀ limit, (store.cellAt cell).limit = some limit → (store.cellAt cell).active < limit
  · have used : (store.enter cell).Holds cell := by
      have inside : cell < store.cells.size := by
        rcases Nat.lt_or_ge cell store.cells.size with inside | outside
        · exact inside
        · simp [Store.cellAt_of_size_le outside] at defined
      refine .here (List.mem_append_right _ (Store.mem_cellsInUse.mpr ⟨by simpa [Store.enter, Store.record] using inside, ?_⟩))
      change ((store.updateCell cell _).cellAt cell).inUse = true
      rw [Store.cellAt_updateCell, if_pos ⟨rfl, inside⟩]
      simp [Cell.inUse]
    refine ⟨.left cell :: (gained ++ [.entered cell]), ?_, fun inner inside leads member => ?_⟩
    · rw [Runner.exec_enter below]
      change _ :: ((runner rule text start).exec (store.enter cell)).2.trace = _
      rw [trace]
      simp [Store.enter, Store.record, Store.updateCell]
    · have held : (store.enter cell).Holds inner := by
        refine Store.Follows.mono leads (fun other member => ?_) fun outer other owned => ?_
        · obtain rfl := List.mem_singleton.mp member
          exact used
        · change other ∈ (store.updateCell cell _).ownedByCell outer
          rw [Store.ownedByCell, Store.cellAt_updateCell]
          split <;> exact owned
      have refused : Event.refused inner ∈ gained := by simpa using member
      exact spared inner (by simpa [Store.enter, Store.record] using inside) held refused
  · obtain ⟨limit, limited, deep⟩ : ∃ limit, (store.cellAt cell).limit = some limit ∧
        limit ≤ (store.cellAt cell).active := by simpa using below
    refine ⟨[], ?_, fun _ _ _ member => by cases member⟩
    rw [Runner.exec_enter_deep limited deep]
    rfl

/-- A cell is in use while its definition is built, so that this does not refuse it. -/
theorem resolve_spares {runner : Runner} (runs : Conduct.securing.Runs runner) (cell : CellId) (store : Store) :
    ∃ gained, ((runner.resolve cell).exec store).2.trace = gained ++ store.trace ∧ Event.refused cell ∉ gained := by
  have nothing : ∃ gained, store.trace = gained ++ store.trace ∧ Event.refused cell ∉ gained := ⟨[], rfl, nofun⟩
  cases defined : (store.cellAt cell).definition with
  | some rule => rwa [Runner.exec_resolve defined]
  | none =>
    cases idle : (store.cellAt cell).building with
    | true => rwa [Runner.exec_resolve_building defined idle]
    | false =>
      cases bound : (store.cellAt cell).builder with
      | none => rwa [Runner.exec_resolve_unbound defined idle bound]
      | some builder =>
        have inside := Store.inside_of_builder (by simp [bound] : (store.cellAt cell).builder.isSome)
        have owns : builder.scope.OwnsOnly Conduct.securing.free := fun _ _ => trivial
        have secures := (Conduct.securing_lawful.calling runs ((store.beginBuild cell).cellAt cell) owns
          (store.beginBuild cell) trivial).1.leads
        have used : (store.beginBuild cell).Holds cell := by
          refine .here (List.mem_append_right _ (Store.mem_cellsInUse.mpr ⟨by simpa [Store.beginBuild] using inside, ?_⟩))
          rw [Store.beginBuild, Store.cellAt_updateCell, if_pos ⟨rfl, inside⟩]
          simp [Cell.inUse]
        obtain ⟨gained, trace, spared⟩ := secures.trace
        have never := spared cell (by simpa [Store.beginBuild] using inside) used
        rw [Runner.exec_resolve_unbuilt defined idle bound]
        rcases called : (runner.calling ((store.beginBuild cell).cellAt cell) builder).exec
          (store.beginBuild cell) with ⟨halt | rule, after⟩ <;> rw [called] at trace
        · exact ⟨gained, trace, never⟩
        · refine ⟨.resolved cell (store.cellAt cell).name :: gained, ?_, by simpa using never⟩
          exact congrArg (Event.resolved cell (store.cellAt cell).name :: ·) trace

/-- An invocation does not refuse its own cell. -/
theorem invoke_spares (fuel : Nat) (cell : CellId) (text : Text) (start : Int) (store : Store) : ∃ gained,
    ((Runner.invoke (Rule.run fuel) cell text start).exec store).2.trace = gained ++ store.trace ∧
      Event.refused cell ∉ gained := by
  have runs := Conduct.securing_lawful.run fuel
  obtain ⟨gained, trace, never⟩ := resolve_spares runs cell store
  rcases resolved : (Runner.resolve (Rule.run fuel) cell).exec store with ⟨halt | rule, after⟩
  · rw [Runner.invoke, exec_bind_error resolved]
    rw [resolved] at trace
    exact ⟨gained, trace, never⟩
  · obtain ⟨inside, defined⟩ := Runner.definition_of_resolve (Conduct.tending_lawful.run fuel) resolved
    obtain ⟨later, entered, spared⟩ := enter_keeps runs defined text start
    rw [resolved] at trace
    rw [Runner.invoke, exec_bind_ok resolved]
    refine ⟨later ++ gained, ?_, fun member => ?_⟩
    · rw [entered, trace, List.append_assoc]
    · obtain member | member := List.mem_append.mp member
      · exact spared cell inside (.here List.mem_cons_self) member
      · exact never member

/-- A run of a placeholder comes to a refusal of its own cell if and only if that has no owner. -/
theorem run_placeholder_refuses (fuel : Nat) (cell : CellId) (text : Text) (start : Int) (store : Store) : ∃ gained,
    ((Rule.run (fuel + 1) (.placeholder cell) text start).exec store).2.trace = gained ++ store.trace ∧
      (Event.refused cell ∈ gained ↔ ¬ store.Alive cell) := by
  by_cases alive : store.Alive cell
  · obtain ⟨gained, trace, never⟩ := invoke_spares fuel cell text start store
    rw [run_placeholder_alive alive]
    exact ⟨gained, trace, iff_of_false never (not_not_intro alive)⟩
  · rw [run_placeholder_refused alive]
    exact ⟨[.refused cell], rfl, iff_of_true List.mem_cons_self alive⟩

/-- What has no owner gets none from a run of what has owners. -/
theorem run_loses (fuel : Nat) (rule : Rule) (text : Text) (start : Int) (store : Store)
    (alive : ∀ cell ∈ rule.owned, store.Alive cell) (cell : CellId) (gone : store.Gone cell) :
    ((Rule.run fuel rule text start).exec store).2.Gone cell := by
  have owns : rule.OwnsOnly (Conduct.sparing store.Gone).free := fun other owned is => is.2 (alive other owned).2
  have spares : ((Rule.run fuel rule text start).exec store).2.Spares store.Gone :=
    ((Conduct.sparing_lawful store.Gone).run fuel rule text start owns store (.of_gone store)).1.sound
  exact ⟨spares.made cell gone, spares.not_reaches gone⟩

theorem run_respectsOwners (fuel : Nat) : Rule.RespectsOwners fuel where
  refuses := run_placeholder_refuses fuel
  refused := run_placeholder_refused
  runs := run_placeholder_alive
  kept := owning_keeps (Conduct.securing_lawful.run fuel)
  entered := enter_keeps (Conduct.securing_lawful.run fuel)
  lost := run_loses fuel

end Rule

namespace Session

/-- What has no owner after some commands has none after any further ones. -/
theorem afterAll_gone (history later : List Command) {cell : CellId}
    (gone : (Store.afterAll history).Gone cell) : (Store.afterAll (history ++ later)).Gone cell := by
  have cleared (store : Store) (spares : store.Spares (Store.afterAll history).Gone) :
      (Conduct.sparing (Store.afterAll history).Gone).Allows store { store with trace := [] } :=
    ⟨spares.of_same rfl spares.assigned spares.running, trivial⟩
  have spares : ((Command.performAll later).run (Store.afterAll history)).2.Spares
      (Store.afterAll history).Gone :=
    ((Conduct.sparing_lawful _).commands cleared later _ (.of_gone _)).sound
  rw [Store.afterAll_append]
  exact ⟨spares.made cell gone, spares.not_reaches gone⟩

/-- A placeholder that a variable holds is refused wherever it is matched while its cell has no owner. -/
theorem matchPrefix_refused {store : Store} {name : String} {placeholder : Placeholder}
    (held : store.assigned? name = some (.grammar placeholder.grammar)) (standsIn : placeholder.captured = false)
    (gone : store.Gone placeholder.cell) {text : Text} {start : Int} (inside : text.checkOffset start = .ok ()) :
    ((Command.matchPrefix (.variable name) text start).perform.exec store).1 =
      .error (.fault (.outlived (store.cellAt placeholder.cell).name)) := by
  obtain ⟨fuel, ample⟩ : ∃ fuel, ampleFuel = fuel + 2 := ⟨ampleFuel - 2, by decide⟩
  have evaluated : (Session.evaluate (.variable name)).exec store = (.ok (.grammar placeholder.grammar), store) := by
    rw [Session.evaluate, Expression.evaluate, lookUp, List.lookup_nil, exec_bind_ok (exec_get store), held]
    rfl
  have rule : placeholder.rule = .object placeholder.tag placeholder.traced (.placeholder placeholder.cell) := by
    rw [Placeholder.rule, standsIn]
    rfl
  have without : ¬ (store.hold placeholder.rule).Alive placeholder.cell := by
    rw [rule]
    exact fun alive => gone.2 alive.2
  have refused : ((sessionRunner.owning placeholder.rule text start).exec store).1 =
      .error (.fault (.outlived (store.cellAt placeholder.cell).name)) := by
    rw [Runner.owning, exec_bind_ok (exec_modify _ store), exec_ensuring, sessionRunner, ample]
    rw [rule] at without ⊢
    exact Rule.run_standIn_refused without _ _ text start
  rcases ran : (sessionRunner.owning placeholder.rule text start).exec store with ⟨outcome, after⟩
  rw [ran] at refused
  cases refused
  have matched : (Operand.matchPrefix (.grammar placeholder.grammar) text start).exec store =
      (.error (.fault (.outlived (store.cellAt placeholder.cell).name)), after) := by
    rw [Operand.matchPrefix, Runner.matchFrom, Operand.asGrammar, pure_bind, inside]
    exact ran
  rw [Command.perform, exec_bind_ok evaluated, exec_bind_error matched]

/-- Matches what a variable holds. -/
def matchHeld (name text : String) : Command :=
  .matchPrefix (.variable name) (Text.ofString text) 0

/-- A pattern that assigns its own placeholder to a variable. -/
def escaping : Expression :=
  .recursive .pattern "inner" none fun _ => .leak "stand-in" (.variable "inner") (.finish (.literal "b"))

/-- A pattern that assigns its own placeholder to a variable, and in its definition the placeholder of
another one to the variable that the pattern is to be kept in. -/
def forsaken : Expression :=
  .recursive .pattern "outer" none fun _ => .leak "stand-in" (.variable "outer") <| .finish <|
    .orElse (.followedBy (.literal "(") (.followedBy
      (.recursive .pattern "inner" none fun _ => .leak "kept" (.variable "inner") (.finish (.literal "b")))
      (.followedBy (.variable "outer") (.literal ")")))) (.literal "a")

/-- A parser that makes another one for a value, which assigns its placeholder to a variable, and runs
the variable for another value. -/
def passing : Expression :=
  .fix .parser "outer" (.many (.bind (.captured (.characterIn (.ofString "abc"))) (Follower.table
    [(.str "a", .recursive .parser "inner" none fun _ =>
        .leak "stand-in" (.variable "inner") (.finish (.captured (.literal "b")))),
      (.str "c", .variable "stand-in")] (.captured (.constant .failure))))) none

/-- A session in which the first of these patterns is kept and resolved. -/
def forsaking : List Command := [.assign "kept" forsaken, matchHeld "kept" "a"]

/-- A moment at which a run of its placeholder has come to the inner pattern and resolved that. -/
def forsakingMoment : Store :=
  ((sessionRunner.resolve 1).exec (((Store.afterAll forsaking).hold (.placeholder 0)).enter 0)).2

/-- A session in which nothing but the builder of another pattern has captured such a pattern in the end. -/
def entrusting : List Command :=
  [.assign "kept" escaping, matchHeld "kept" "b",
    .assign "outer" (.capturing ["kept"] (.recursive .pattern "outer" none fun _ => .finish (.literal "a"))),
    .forget "kept"]

end Session

end TextGrammar
