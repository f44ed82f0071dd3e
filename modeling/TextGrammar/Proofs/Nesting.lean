import Mathlib
import TextGrammar.Fault.Class
import TextGrammar.Grammar.Shorthand
import TextGrammar.Proofs.Fuel
import TextGrammar.Proofs.Invocations

/-! Limits on the nesting of a grammar. A limit that a grammar never reaches makes no difference to
it, and one that it does reach is a fault. How deeply it nests is seen in the trace of a run without
the limit. -/

namespace TextGrammar
open TextGrammar.Action

/-- How many invocations of a cell a trace leaves under way. -/
def underWay (cell : CellId) : List Event → Nat
  | [] => 0
  | .entered other :: earlier =>
    if other = cell then underWay cell earlier + 1 else underWay cell earlier
  | .left other :: earlier =>
    if other = cell then underWay cell earlier - 1 else underWay cell earlier
  | _ :: earlier => underWay cell earlier

/-- The greatest number of invocations of a cell that were ever under way at once. -/
def deepest (cell : CellId) : List Event → Nat
  | [] => 0
  | event :: earlier => max (underWay cell (event :: earlier)) (deepest cell earlier)

theorem underWay_le_deepest (cell : CellId) (trace : List Event) :
    underWay cell trace ≤ deepest cell trace := by
  cases trace with
  | nil => exact Nat.le_refl _
  | cons event earlier => exact Nat.le_max_left _ _

theorem deepest_mono {cell : CellId} {earlier trace : List Event} (suffix : earlier <:+ trace) :
    deepest cell earlier ≤ deepest cell trace := by
  obtain ⟨later, rfl⟩ := suffix
  induction later with
  | nil => exact Nat.le_refl _
  | cons event later ih => exact Nat.le_trans ih (Nat.le_max_right _ _)

theorem underWay_alike {cell : CellId} {place : Int → Int → Prop} {event other : Event}
    (alike : event.Alike place (some cell) other) (trace : List Event) :
    underWay cell (other :: trace) = underWay cell trace := by
  cases alike with
  | entered free => exact if_neg fun same => free (congrArg some same.symm)
  | left free => exact if_neg fun same => free (congrArg some same.symm)
  | _ => rfl

/-- A limit or none that allows as many invocations as another limit does, and more only if runs may go
beyond that one. -/
def Allows (beyond : Prop) (limit : Nat) (other : Option Nat) : Prop :=
  other = some limit ∨ beyond ∧ ∀ granted, other = some granted → limit < granted

/-- A limit that has not been passed yet, in a store with the limit and in another one, which has the
same limit unless it may go beyond. -/
structure Limited (beyond : Prop) (cell : CellId) (limit : Nat) (first second : Store) : Prop where
  inside : cell < second.cells.size
  limited : (first.cellAt cell).limit = some limit
  wider : Allows beyond limit (second.cellAt cell).limit
  counted : underWay cell second.trace = (second.cellAt cell).active
  bounded : deepest cell second.trace ≤ limit

theorem Store.inside_of_limit {store : Store} {cell : CellId} {limit : Nat}
    (limited : (store.cellAt cell).limit = some limit) : cell < store.cells.size := by
  by_contra outside
  rw [cellAt_of_size_le (Nat.le_of_not_lt outside)] at limited
  cases limited

namespace Limited
variable {beyond : Prop} {cell : CellId} {limit : Nat} {first second : Store}

theorem still (link : Limited beyond cell limit first second) {next later : Store}
    (one : first.Still (some cell) next) (two : second.Still (some cell) later) :
    Limited beyond cell limit next later := by
  have there := one.guarded cell rfl (Store.inside_of_limit link.limited)
  have other := two.guarded cell rfl link.inside
  refine ⟨Nat.lt_of_lt_of_le link.inside two.size, there.1.trans link.limited,
    (congrArg (Allows beyond limit) other.1).mpr link.wider, ?_, ?_⟩
  · rw [two.trace, other.2, link.counted]
  · rw [two.trace]
    exact link.bounded

theorem record (link : Limited beyond cell limit first second) {event other : Event}
    (alike : event.Alike Eq (some cell) other) :
    Limited beyond cell limit (first.record event) (second.record other) := by
  have same := underWay_alike alike second.trace
  refine ⟨link.inside, link.limited, link.wider, same.trans link.counted, ?_⟩
  have reached := underWay_le_deepest cell second.trace
  have bounded := link.bounded
  change max (underWay cell (other :: second.trace)) (deepest cell second.trace) ≤ limit
  omega

/-- One invocation more or less, as the trace has it. -/
theorem counting (link : Limited beyond cell limit first second) {event : Event} (change : Nat → Nat)
    (counted : underWay cell (event :: second.trace) = change (second.cellAt cell).active)
    (within : change (second.cellAt cell).active ≤ limit) :
    Limited beyond cell limit
      ((first.updateCell cell fun slot => { slot with active := change slot.active }).record event)
      ((second.updateCell cell fun slot => { slot with active := change slot.active }).record
        event) := by
  have changed (store : Store) (inside : cell < store.cells.size) :
      (store.updateCell cell fun slot => { slot with active := change slot.active }).cellAt cell =
        { store.cellAt cell with active := change (store.cellAt cell).active } := by
    rw [Store.cellAt_updateCell, if_pos ⟨rfl, inside⟩]
  have there := changed first (Store.inside_of_limit link.limited)
  have other := changed second link.inside
  refine ⟨Nat.lt_of_lt_of_eq link.inside (Store.size_updateCell _ _ _).symm,
    (congrArg Cell.limit there).trans link.limited,
    (congrArg (fun slot => Allows beyond limit slot.limit) other).mpr link.wider, counted.trans (congrArg Cell.active other).symm, ?_⟩
  exact Nat.max_le.mpr ⟨counted ▸ within, link.bounded⟩

theorem entered (link : Limited beyond cell limit first second)
    (below : (second.cellAt cell).active < limit) :
    Limited beyond cell limit (first.enter cell) (second.enter cell) := by
  refine link.counting (· + 1) ?_ below
  simp only [underWay, ↓reduceIte, link.counted]

theorem left (link : Limited beyond cell limit first second) :
    Limited beyond cell limit (first.leave cell) (second.leave cell) := by
  refine link.counting (· - 1) ?_ ?_
  · simp only [underWay, ↓reduceIte, link.counted]
  · have reached := underWay_le_deepest cell second.trace
    have bounded := link.bounded
    have counted := link.counted
    omega

/-- No more invocations are under way than the limit, and fewer than any limit beyond. -/
theorem within (link : Limited beyond cell limit first second)
    {granted : Nat} (is : (second.cellAt cell).limit = some granted) (other : limit < granted ∨ (second.cellAt cell).active < limit) :
    (second.cellAt cell).active < granted := by
  have reached := underWay_le_deepest cell second.trace
  have bounded := link.bounded
  have counted := link.counted
  rcases link.wider with same | ⟨-, wider⟩
  · rw [is] at same
    cases same
    omega
  · have more := wider granted is
    omega

/-- At the limit another invocation is one too many. -/
theorem passed (link : Limited beyond cell limit first second)
    (deep : limit ≤ (second.cellAt cell).active) :
    limit < deepest cell (.entered cell :: second.trace) := by
  have reached := underWay_le_deepest cell (.entered cell :: second.trace)
  have counted : underWay cell (.entered cell :: second.trace) = (second.cellAt cell).active + 1 := by
    simp only [underWay, ↓reduceIte, link.counted]
  omega

end Limited

/-- Parts of grammars whose builders, if they run a grammar, pass on that it nested too deeply. -/
def Parts.frank : Parts where
  leaf _ := True
  goesOn rest := ∀ fault : Fault, fault.class = .depthLimit →
    rest (.error fault) = .finish (.invalid fault)

theorem Parts.complete_frank : Parts.frank.Complete :=
  ⟨fun _ => trivial, fun _ => trivial, fun _ => trivial⟩

/-- Halts at which a grammar nested too deeply. -/
def Halt.TooDeep : Halt → Prop
  | .fault reason => reason.class = .depthLimit
  | .exhausted => False

namespace Alignment
variable {cell : CellId} {limit : Nat} {text : Text}

/-- A run with a limit on the nesting of a cell, and the run without it, or with a greater one. The
first one gives up where the second one nests beyond the limit, if it may. -/
abbrev nesting (beyond : Prop) (cell : CellId) (limit : Nat) (text : Text) : Alignment :=
  twin .frank text (fun halt => beyond ∧ halt.TooDeep) (fun store => limit < deepest cell store.trace)
    (some cell) (Limited beyond cell limit)

variable {beyond : Prop}

theorem nesting_lawful (beyond : Prop) (cell : CellId) (limit : Nat) (text : Text) :
    (nesting beyond cell limit text).Lawful :=
  twin_lawful Parts.complete_frank (fun link => link.still) (fun link => link.record)
    (fun frank deep => frank _ deep.2) fun passed suffix => Nat.lt_of_lt_of_le passed (deepest_mono suffix)

/-- The counts of a cell go up and down together. -/
theorem Stores.counting {before after : Store} (stores : (nesting beyond cell limit text).Stores before after)
    (change : Nat → Nat) (event : Event)
    (link : Limited beyond cell limit
      ((before.updateCell cell fun slot => { slot with active := change slot.active }).record event)
      ((after.updateCell cell fun slot => { slot with active := change slot.active }).record event)) :
    (nesting beyond cell limit text).Stores
      ((before.updateCell cell fun slot => { slot with active := change slot.active }).record event)
      ((after.updateCell cell fun slot => { slot with active := change slot.active }).record event) := by
  have kept := stores.built.cellAt cell
  have built : (before.updateCell cell fun slot =>
      { slot with active := change slot.active }).BuiltFrom .frank :=
    stores.built.updateCell cell ⟨kept.builder, kept.definition⟩
  refine ⟨(stores.agree.updateCell cell _ ?_).record event event, ⟨built.assigned, built.cells⟩, link⟩
  rintro _ _ ⟨name, kind, held, definition, building, active, calls, limit⟩
  exact ⟨name, kind, held, definition, building, congrArg change active, calls, limit⟩

theorem nesting_guards (beyond : Prop) (cell : CellId) (limit : Nat) (text : Text) :
    (nesting beyond cell limit text).Guards := by
  rintro runner other runs _ ⟨⟩ rule built start _ rfl before after stores
  have alike := stores.agree.cells cell
  have link : Limited beyond cell limit before after := stores.link
  change Ends _ _ ((runner.enter cell rule text start).exec before)
    ((other.enter cell rule text start).exec after)
  rcases Nat.lt_or_ge (after.cellAt cell).active limit with below | deep
  · have limited (granted : Nat) (limited : (before.cellAt cell).limit = some granted) :
        (before.cellAt cell).active < granted := by
      rw [link.limited] at limited
      cases limited
      exact alike.active ▸ below
    rw [Runner.exec_enter limited, Runner.exec_enter fun granted is => link.within is (.inr below)]
    have begun : (nesting beyond cell limit text).Stores (before.enter cell) (after.enter cell) :=
      stores.counting (· + 1) (.entered cell) (link.entered below)
    have here : (nesting beyond cell limit text).place start start := rfl
    exact (nesting_lawful beyond cell limit text).ensuring (runs.aligned built here)
      (fun stores => stores.counting (· - 1) (.left cell) (Limited.left stores.link))
      (fun _ => List.suffix_cons _ _) begun
  · rw [Runner.exec_enter_deep link.limited (alike.active ▸ deep)]
    rcases link.wider with same | ⟨may, wider⟩
    · rw [Runner.exec_enter_deep same deep, alike.name]
      exact .halt rfl stores
    · rw [Runner.exec_enter fun granted is => link.within is (.inl (wider granted is))]
      refine .behind ⟨may, rfl⟩ (Nat.lt_of_lt_of_le (link.passed deep) (deepest_mono ?_))
      have grows := runs.keeps rule text start ⟨.fault (.tooDeep "" 0 0), may, rfl⟩ (after.enter cell)
      exact grows.trans (List.suffix_cons _ _)

theorem nesting_runs (beyond : Prop) (cell : CellId) (limit : Nat) (text : Text) (fuel : Nat) :
    (nesting beyond cell limit text).Runs (Rule.run fuel) (Rule.run fuel) :=
  (nesting_lawful beyond cell limit text).run (nesting_guards beyond cell limit text)
    (fun _ text => nesting_guards beyond cell limit text)
    (fun fuel rule text start _ => Rule.run_grows fuel rule text start) fuel

/-- A run with a limit ends as the run without it, if that keeps to the limit, and else nests too deeply. -/
theorem nesting_cases {first second : Except Halt (Option Match) × Store}
    (ends : Ends (nesting beyond cell limit text) (Outcomes (nesting beyond cell limit text)) first second) :
    (deepest cell second.2.trace ≤ limit ∧ first.1 = second.1) ∨
      beyond ∧ limit < deepest cell second.2.trace ∧ ∃ halt : Halt, halt.TooDeep ∧ first.1 = .error halt := by
  cases ends with
  | answer same stores => exact .inl ⟨stores.link.bounded, congrArg Except.ok (twin_outcomes same)⟩
  | halt same stores => exact .inl ⟨stores.link.bounded, congrArg Except.error same⟩
  | behind deep passed => exact .inr ⟨deep.1, passed, _, deep.2, rfl⟩

/-- A new cell with a limit and the same one without it. -/
theorem nesting_stores {store : Store} (stored : store.BuiltFrom .frank) (empty : store.trace = [])
    (kind : Kind) (name : String) (trace : List Event) :
    (nesting True store.cells.size limit text).Stores
      { store with trace, cells := store.cells.push { name, kind, limit := some limit } }
      { store with cells := store.cells.push { name, kind, limit := none } } := by
  have limited (limit : Option Nat) :
      Store.cellAt { store with cells := store.cells.push { name, kind, limit } } store.cells.size =
        { name, kind, limit } := by
    rw [Store.cellAt_push store _ store.names, if_pos rfl]
  have cell : Cell.BuiltFrom .frank { name, kind, limit := some limit } := ⟨by simp, by simp⟩
  have built := stored.pushCell cell
  refine ⟨⟨rfl, rfl, rfl, rfl, rfl, by simp, fun cell => ?_⟩, ⟨built.assigned, built.cells⟩,
    ⟨by simp, congrArg Cell.limit (limited _), .inr ⟨trivial, by simp [limited]⟩, ?_, ?_⟩⟩
  · change Cell.Alike _ (Store.cellAt { store with cells := _ } cell)
      (Store.cellAt { store with cells := _ } cell)
    rw [Store.cellAt_push store _ store.names, Store.cellAt_push store _ store.names]
    split
    next new => exact ⟨rfl, rfl, rfl, rfl, rfl, rfl, rfl, fun free => absurd (congrArg some new.symm) free⟩
    next => exact .refl _ _
  · rw [limited, empty]
    rfl
  · rw [empty]
    exact Nat.zero_le _

end Alignment

theorem Grammar.exec_newCell (kind : Kind) (name : String) {depth : Depth.Request} {granted : Depth.Granted}
    (clamped : Depth.clamp depth Depth.reserve = .ok granted) (store : Store) :
    ∃ trace, (newCell kind name (some depth)).exec store = (.ok store.cells.size,
      { store with
        trace
        cells := store.cells.push { name, kind, limit := some granted.limit.toNat } }) := by
  obtain ⟨limit, lowered⟩ := granted
  unfold newCell
  simp only [Option.mapM_some, clamped]
  cases lowered with
  | false => exact ⟨_, rfl⟩
  | true => exact ⟨_, rfl⟩

theorem Depth.clamp_of_nonneg {requested : Request} (valid : 0 ≤ requested.limit) :
    ∃ granted, clamp requested reserve = .ok granted ∧
      granted.limit = min requested.limit (requested.levels - reserve) := by
  unfold clamp
  rw [if_neg (by omega)]
  by_cases beyond : requested.levels - reserve < requested.limit
  · rw [if_pos beyond]
    exact ⟨_, rfl, (Int.min_eq_right (Int.le_of_lt beyond)).symm⟩
  · rw [if_neg beyond]
    exact ⟨_, rfl, (Int.min_eq_left (Int.not_lt.mp beyond)).symm⟩

namespace Session
variable {history : List Command} {script : Nat → Script} (kind : Kind) (binder : String)
  (fuel : Nat) (text : Text) (start : Int)

theorem matching_recursive (limit : Option Depth.Request) :
    matching fuel (.recursive kind binder limit script) text start =
      (do
        let name := s!"recursive {kind.noun}"
        let cell ← Grammar.newCell kind name limit
        let made ← Grammar.ofCell kind name binder script [] cell
        Runner.matchFrom (Rule.run fuel) (.grammar made) text start) := by
  unfold matching evaluate Expression.evaluate Grammar.recursive
  simp only [map_eq_pure_bind, bind_assoc, pure_bind]

/-- A recursive grammar with a limit on its nesting, beside the one without it. -/
theorem matching_nesting (known : ∀ command ∈ history, command.BuiltFrom .frank)
    (built : ∀ call, (script call).BuiltFrom .frank) {depth : Depth.Request} {granted : Depth.Granted}
    (clamped : Depth.clamp depth Depth.reserve = .ok granted) :
    Alignment.Ends (.nesting True (Store.afterAll history).cells.size granted.limit.toNat text)
      (Alignment.Outcomes (.nesting True (Store.afterAll history).cells.size granted.limit.toNat text))
      ((matching fuel (.recursive kind binder (some depth) script) text start).exec
        (.afterAll history))
      ((matching fuel (.recursive kind binder none script) text start).exec (.afterAll history)) := by
  have stored := Store.afterAll_builtFrom Parts.complete_frank known
  have empty := Store.afterAll_trace history
  generalize Store.afterAll history = store at stored empty ⊢
  have lawful := Alignment.nesting_lawful True store.cells.size granted.limit.toNat text
  have aligned := (lawful.makes_ofCell kind s!"recursive {kind.noun}" binder [] built
    store.cells.size).thenAligned fun made rule =>
      have operand : (Operand.grammar made).BuiltFrom .frank := rule
      lawful.matchFrom (Alignment.nesting_runs True store.cells.size granted.limit.toNat text fuel) operand
        rfl (rfl : start = start)
  obtain ⟨trace, made⟩ := Grammar.exec_newCell kind s!"recursive {kind.noun}" clamped store
  have free : (Grammar.newCell kind s!"recursive {kind.noun}" none).exec store =
    (.ok store.cells.size, _) := rfl
  rw [matching_recursive, matching_recursive, exec_bind_ok made, exec_bind_ok free]
  exact aligned (Alignment.nesting_stores stored empty kind _ trace)

/-- Whether the limit was kept to can be told from the run without it. -/
theorem matching_nesting_cases (known : ∀ command ∈ history, command.BuiltFrom .frank)
    (built : ∀ call, (script call).BuiltFrom .frank) {depth : Depth.Request} {granted : Depth.Granted}
    (clamped : Depth.clamp depth Depth.reserve = .ok granted) :
    let store := Store.afterAll history
    let free := (matching fuel (.recursive kind binder none script) text start).exec store
    let limited := (matching fuel (.recursive kind binder (some depth) script) text start).exec store
    (deepest store.cells.size free.2.trace ≤ granted.limit.toNat ∧ limited.1 = free.1) ∨
      (granted.limit.toNat < deepest store.cells.size free.2.trace ∧
        ∃ halt : Halt, halt.TooDeep ∧ limited.1 = .error halt) := by
  intro store free limited
  obtain kept | ⟨-, passed⟩ :=
    Alignment.nesting_cases (matching_nesting kind binder fuel text start known built clamped)
  · exact .inl kept
  · exact .inr passed

/-- Brackets within brackets, nested no deeper than a limit. -/
abbrev pairs (limit : Option Depth.Request) : Expression :=
  .recursive .pattern "single" limit fun _ =>
    .finish ("(" + Expression.variable "single" + ")" ||| "()")

end Session

end TextGrammar
