import Mathlib
import TextGrammar.Proofs.GuardedRecursion

/-! Limits on the nesting of a grammar are exact. A grammar that never nests beyond its limit does what it
does without one, and one that nests deeper is found to do so. That concerns a grammar that is made and
run, and one that is kept in a variable and run again, whatever has been run in between. -/

namespace TextGrammar
open TextGrammar.Action

mutual

/-- Builders that do no more than put grammars together do not run any. -/
theorem Expression.Plain.frank {known : String → Prop} {expression : Expression} (plain : expression.Plain known) :
    expression.BuiltFrom .frank := by
  cases expression with
  | raw | «variable» | invalid | constant | leaf => trivial
  | followedBy first second | sum first second | orElse first second | union first second
  | separatedBy first second => exact ⟨plain.1.frank, plain.2.frank⟩
  | either kind alternatives => exact Expression.AllPlain.frank plain
  | optional operand | many operand | oneOrMore operand | times operand | captured operand
  | capturedPattern operand | returning operand | valueFor operand | erased operand | negated operand
  | map operand | shifted operand | filter operand | named operand | copy operand =>
    exact @Expression.Plain.frank known operand plain
  | bind operand continuation => exact ⟨plain.1.frank, fun value => (plain.2 value).frank⟩
  | capturing names body | retaining names body => exact @Expression.Plain.frank known body plain.2
  | recursive kind binder limit script => exact fun call => (plain.2 call).frank

theorem Expression.AllPlain.frank {known : String → Prop} {expressions : List Expression}
    (plain : Expression.AllPlain known expressions) : Expression.AllBuiltFrom .frank expressions := by
  cases expressions with
  | nil => trivial
  | cons first rest => exact ⟨plain.1.frank, Expression.AllPlain.frank plain.2⟩

theorem Script.Plain.frank {known : String → Prop} {script : Script} (plain : script.Plain known) :
    script.BuiltFrom .frank := by
  cases script with
  | finish definition => exact Expression.Plain.frank plain
  | tally label rest => exact @Script.Plain.frank known rest plain
  | leak | attempt => exact plain.elim

end

theorem Command.Probes.frank {allowed : String → Prop} {command : Command} (probes : command.Probes allowed) :
    command.BuiltFrom .frank := by
  cases command with
  | setVerbose | assign | forget | describe | tally => exact probes.elim
  | matchPrefix subject | runAt subject | matchesAll subject | parse subject | parseOrFail subject =>
    exact @Expression.Plain.frank allowed subject probes

theorem Halt.TooDeep.of_unnamed {halt other : Halt} (deep : halt.TooDeep) (same : other.unnamed = halt.unnamed) :
    other.TooDeep := by
  cases halt with
  | exhausted => exact deep.elim
  | fault fault =>
    cases other with
    | exhausted => cases same
    | fault cause =>
      have classes := congrArg Fault.class (Halt.fault.inj same)
      rw [Fault.class_unnamed, Fault.class_unnamed] at classes
      exact classes.trans deep

namespace Scene
open Session
variable {base store : Store} {allowed : String → Prop} {live : CellId → Prop} {active : Key → Nat}
  {stage : Nat} {cast : Cast} {cell : CellId} (inside : cell < base.cells.size) (limit : Option Nat)
include inside

theorem names_limiting (target : Target) : target.names (base.limiting cell limit) = target.names base := by
  cases target with
  | inner => rfl
  | base other =>
    rw [Target.names, Store.cellAt_limiting inside, Target.names]
    by_cases same : cell = other
    · rw [if_pos same]
    · rw [if_neg same]

theorem kind_limiting (target : Target) : target.kind (base.limiting cell limit) = target.kind base := by
  cases target with
  | inner => rfl
  | base other =>
    rw [Target.kind, Store.cellAt_limiting inside, Target.kind]
    split <;> rfl

theorem title_limiting (target : Target) : target.title (base.limiting cell limit) = target.title base := by
  cases target with
  | inner => rfl
  | base other =>
    rw [Target.title, Store.cellAt_limiting inside, Target.title]
    split <;> rfl

theorem performs_limiting {slot other : Cell} {target : Target}
    (performs : slot.Performs ⟨base, allowed, live⟩ cast target) (kind : other.kind = slot.kind)
    (title : other.name = slot.name) (limited : other.limit = target.limit (base.limiting cell limit)) (definition : other.definition = slot.definition)
    (builder : other.builder = slot.builder) :
    other.Performs ⟨base.limiting cell limit, allowed, live⟩ cast target := by
  have names := names_limiting inside limit target
  have kinds := kind_limiting inside limit target
  have titles := title_limiting inside limit target
  have defined : target.definition (base.limiting cell limit) = target.definition base :=
    Store.definition_limiting inside target
  refine ⟨kind.trans (performs.kind.trans kinds.symm), title.trans (performs.title.trans titles.symm), limited, ?_, fun rule is => ?_, fun none => ?_⟩
  · rw [names]
    exact performs.nested
  · rw [defined, names]
    exact performs.built rule (definition ▸ is)
  · obtain ⟨held, is, does⟩ := performs.pending (definition ▸ none)
    refine ⟨held, builder.trans is, ?_, ?_, ?_⟩
    · rw [names]
      exact does.scope
    · rw [names]
      exact does.plain
    · rw [defined, names, titles, kinds]
      exact does.definition

/-- A store stays cast for the same grammars if one of the live ones is given another limit. -/
theorem Founded.limiting (founded : Founded ⟨base, allowed, live⟩ active stage cast store) (alive : live cell) :
    Founded ⟨base.limiting cell limit, allowed, live⟩ active stage cast (store.limiting cell limit) := by
  have known : cast cell = some (.base cell) := founded.live alive
  have slot other : (store.limiting cell limit).cellAt other = _ := Store.cellAt_limiting (founded.inside known) other
  have size : (store.limiting cell limit).cells.size = store.cells.size := Store.size_updateCell _ _ _
  have definition other : ((store.limiting cell limit).cellAt other).definition = (store.cellAt other).definition := by
    rw [slot]
    split <;> rfl
  constructor
  · constructor
    case inside => exact fun known => size ▸ founded.inside known
    case performs =>
      intro other target held
      refine performs_limiting inside limit (founded.performs held) ?_ ?_ ?_ (definition other) ?_
      · rw [slot]
        split <;> rfl
      · rw [slot]
        split <;> rfl
      · rw [slot]
        cases target with
        | inner =>
          have apart : cell ≠ other := by
            rintro rfl
            cases known.symm.trans held
          rw [if_neg apart]
          exact (founded.performs held).limit
        | base origin =>
          obtain ⟨rfl, -⟩ := founded.based held
          rw [Target.limit, Store.cellAt_limiting inside]
          split
          · rfl
          · exact (founded.performs held).limit
      · rw [slot]
        split <;> rfl
    case counted =>
      intro other target held
      rw [slot]
      split <;> exact founded.counted held
    case apart => exact founded.apart
    case silent => exact founded.silent
    case keyed => exact founded.keyed
    case level => exact founded.level
    case parent =>
      intro other target outer index held is
      obtain stage | ⟨parent, part, held, same, ready⟩ := founded.parent held is
      · exact .inl stage
      · refine .inr ⟨parent, part, held, same, ?_⟩
        rw [slot]
        split <;> exact ready
    case assigned => exact founded.assigned
    case named =>
      intro name operand granted is
      cases founded.named granted is with
      | raw value => exact .raw value
      | grammar made => exact .grammar ⟨made.kind, made.body⟩
    case based => exact founded.based
    case live => exact founded.live
    case owned =>
      intro other alive
      refine (founded.owned alive).mono (fun _ => .here) fun outer inner owned => ?_
      rwa [Store.ownedByCell, definition]
  · intro other
    rw [slot]
    split <;> exact founded.idle _

/-- A live grammar that is given a limit comes to what it comes to without it, whatever has been run before,
unless it then nests beyond the limit. -/
theorem matching_narrow_cases {runs others : List Command} {limit : Nat} (stored : base.BuiltFrom .frank)
    (founded : Founded ⟨base, allowed, live⟩ (fun _ => 0) 0 cast base) (alive : live cell) (empty : base.trace = [])
    (free : (base.cellAt cell).limit = none) (probes : ∀ run ∈ runs, run.Probes allowed)
    (probing : ∀ run ∈ others, run.Probes allowed) {subject : Expression} (plain : subject.Plain allowed)
    (fuel : Nat) (text : Text) (start : Int) :
    let wide := (matching fuel subject text start).exec ((Command.performAll runs).run base).2
    let narrow := (matching fuel subject text start).exec
      ((Command.performAll others).run (base.limiting cell (some limit))).2
    (deepest cell wide.2.trace ≤ limit ∧ Alike narrow.1 wide.1) ∨
      (limit < deepest cell wide.2.trace ∧ ∃ halt : Halt, halt.TooDeep ∧ narrow.1 = .error halt) := by
  intro wide narrow
  obtain ⟨further, -, later⟩ := performAll_founded probes founded
  obtain ⟨_, -, other⟩ := Scene.performAll_founded probing
    (founded.limiting inside (some limit) alive)
  have between := later.limiting inside (some limit) alive
  have same : Alike narrow.1 _ :=
    (matching_alike other plain fuel).trans (matching_alike between plain fuel).symm
  have known := later.live alive
  have wider : Allows True limit (((Command.performAll runs).run base).2.cellAt cell).limit := by
    refine .inr ⟨trivial, fun granted is => ?_⟩
    rw [(later.performs known).limit, Target.limit, free] at is
    cases is
  have sleeps := later.counted known
  have built := Command.performAll_builtFrom Parts.complete_frank (fun run member => (probes run member).frank) stored
  have cleared : ((Command.performAll runs).run base).2.trace = [] := Command.performAll_trace empty
  obtain ⟨bounded, equal⟩ | ⟨-, passed, halt, deep, ended⟩ :=
    @matching_limiting _ _ fuel subject text start _ _ built cleared plain.frank (later.inside known) sleeps wider
  · exact .inl ⟨bounded, equal ▸ same⟩
  · obtain ⟨last, ends, named⟩ := (ended ▸ same.symm).symm.of_error
    exact .inr ⟨passed, last, deep.of_unnamed named, ends⟩

end Scene

/-- A grammar whose definition is nothing but itself never comes to an end. -/
theorem Blueprint.run_endless {base : Store} {target : Target}
    (leads : target.definition base = .ok (.object (.invoke target))) (free : target.limit base = none)
    (text : Text) (start : Int) (fuel : Nat) (active : Key → Nat) (stage : Nat) :
    run base fuel active stage (.invoke target) text start = .error .exhausted ∧
      run base fuel active stage (.object (.invoke target)) text start = .error .exhausted := by
  induction fuel generalizing active with
  | zero => exact ⟨rfl, rfl⟩
  | succ fuel ih =>
    refine ⟨?_, (ih active).1⟩
    rw [run, Player.step_invoke, leads]
    change Player.enter base (run base fuel) active stage target (.object (.invoke target)) text start = _
    rw [Player.enter_below fun limit limited => by rw [free] at limited; cases limited]
    exact (ih _).2

/-- Outcomes of runs with a limit are exact: they are the same as without it if the grammar never nests
beyond the limit, and else it is found to nest too deeply. -/
structure Depth.Exact (same : Except Halt (Option Match) → Except Halt (Option Match) → Prop) (limit : Nat)
    (nested : ℕ∞) (free limited : Nat → Except Halt (Option Match)) : Prop where
  within : nested ≤ limit → ∀ fuel, same (limited fuel) (free fuel)
  beyond : limit < nested → ∃ enough, ∃ halt : Halt, halt.TooDeep ∧
    ∀ fuel, enough ≤ fuel → limited fuel = .error halt

/-- It is enough to know of each run, however soon it is cut off, how deeply the grammar nests in it. -/
theorem Depth.Exact.of_runs {same : Except Halt (Option Match) → Except Halt (Option Match) → Prop}
    {limit : Nat} {nested : Nat → Nat} {free limited : Nat → Except Halt (Option Match)}
    (runs : ∀ fuel, (nested fuel ≤ limit ∧ same (limited fuel) (free fuel)) ∨
      (limit < nested fuel ∧ ∃ halt : Halt, halt.TooDeep ∧ limited fuel = .error halt))
    (more : ∀ fuel, limited fuel ≠ .error .exhausted → ∀ further, fuel ≤ further → limited further = limited fuel) :
    Depth.Exact same limit (⨆ fuel, (nested fuel : ℕ∞)) free limited where
  within least fuel := by
    obtain ⟨-, agree⟩ | ⟨passed, -⟩ := runs fuel
    · exact agree
    · have bounded : nested fuel ≤ limit := ENat.natCast_le_natCast.mp ((le_iSup _ fuel).trans least)
      omega
  beyond passed := by
    obtain ⟨fuel, passed⟩ := lt_iSup_iff.mp passed
    obtain ⟨bounded, -⟩ | ⟨-, halt, deep, ended⟩ := runs fuel
    · exact absurd (ENat.natCast_lt_natCast.mp passed) (Nat.not_lt.mpr bounded)
    · refine ⟨fuel, halt, deep, fun further enough => ?_⟩
      have finished : limited fuel ≠ .error .exhausted := by
        rintro cut
        cases ended.symm.trans cut
        exact deep
      exact (more fuel finished further enough).trans ended

/-- The nesting stays within the limit if the outcome with it is another one than that it does not. -/
theorem Depth.Exact.within_of_ends {same : Except Halt (Option Match) → Except Halt (Option Match) → Prop}
    {limit : Nat} {nested : ℕ∞} {free limited : Nat → Except Halt (Option Match)}
    (exactness : Depth.Exact same limit nested free limited) (ends : ∀ enough, ∃ fuel, enough ≤ fuel ∧
      ∀ halt : Halt, halt.TooDeep → limited fuel ≠ .error halt) : nested ≤ limit := by
  by_contra passed
  obtain ⟨enough, halt, deep, ended⟩ := exactness.beyond (lt_of_not_ge passed)
  obtain ⟨fuel, later, other⟩ := ends enough
  exact other halt deep (ended fuel later)

theorem modify_push (cells : Array Cell) (slot : Cell) (change : Cell → Cell) :
    (cells.push slot).modify cells.size change = cells.push (change slot) := by
  refine Array.ext (by simp) fun index _ _ => ?_
  simp only [Array.getElem_modify, Array.getElem_push]
  split
  next same => simp [← same]
  next apart =>
    have earlier : index < cells.size := by simp_all; omega
    rw [dif_pos earlier, dif_pos earlier]

namespace Store
variable (store : Store) (kind : Kind) (binder : String) (script : Nat → Script) (limit : Option Nat) (name : String)

/-- The grammar of the next cell. -/
def nextGrammar : Grammar :=
  let tag := (store.names.push s!"<recursive {kind.noun}>").size
  ⟨kind, tag, .object tag store.verbose (.recursive store.cells.size)⟩

/-- A store with one more recursive grammar. -/
def defining : Store :=
  let standIn : Placeholder := ⟨kind, store.names.size, store.verbose, store.cells.size, false⟩
  { store with
    names := (store.names.push s!"<recursive {kind.noun}>").push s!"recursive {kind.noun}"
    cells := store.cells.push
      { name := s!"recursive {kind.noun}", kind, limit, builder := some ⟨script, [(binder, standIn)]⟩ } }

/-- A store that keeps one more recursive grammar in a variable. -/
def keeping : Store :=
  { (store.defining kind binder script limit).assign name (.grammar (store.nextGrammar kind)) with trace := [] }

theorem exec_recursive_defining {limit : Option Depth.Request} {granted : Option Nat}
    (grants : Depth.granted limit = .ok granted) : ∃ trace,
      (Grammar.recursive kind binder limit script []).exec store =
        (.ok (store.nextGrammar kind), { store.defining kind binder script granted with trace }) := by
  have new := Grammar.exec_newCell_granted kind s!"recursive {kind.noun}" limit store
  rw [grants] at new
  obtain ⟨trace, new⟩ := new
  have slot := modify_push store.cells { name := s!"recursive {kind.noun}", kind, limit := granted }
    ({ · with builder := some ⟨script, [(binder, ⟨kind, store.names.size, store.verbose, store.cells.size, false⟩)]⟩ })
  refine ⟨trace, ?_⟩
  rw [Grammar.recursive, exec_bind_ok new]
  exact congrArg (fun cells => (Except.ok (store.nextGrammar kind),
    { store.defining kind binder script granted with cells, trace })) slot

variable {store kind binder script limit name}

theorem keeping_limiting (limit other : Option Nat) : (store.keeping kind binder script limit name).limiting
    store.cells.size other = store.keeping kind binder script other name := by
  have slot := modify_push store.cells { name := s!"recursive {kind.noun}", kind, limit
                                         builder := some ⟨script, [(binder, ⟨kind, store.names.size, store.verbose, store.cells.size, false⟩)]⟩ }
    ({ · with limit := other })
  exact congrArg (fun cells => { store.keeping kind binder script other name with cells }) slot

theorem assigned_keeping :
    (store.keeping kind binder script limit name).assigned? name = some (.grammar (store.nextGrammar kind)) :=
  List.lookup_cons_self

theorem inside_keeping : store.cells.size < (store.keeping kind binder script limit name).cells.size :=
  Nat.lt_of_lt_of_eq (Nat.lt_succ_self _) (Array.size_push ..).symm

theorem limit_keeping : ((store.keeping kind binder script limit name).cellAt store.cells.size).limit = limit := by
  have slot := cellAt_push store { name := s!"recursive {kind.noun}", kind, limit
                                   builder := some ⟨script, [(binder, ⟨kind, store.names.size, store.verbose, store.cells.size, false⟩)]⟩ }
    store.names store.cells.size
  rw [if_pos rfl] at slot
  exact congrArg Cell.limit slot

end Store

namespace Session
variable (history : List Command) (kind : Kind) (binder : String) (script : Nat → Script)

/-- A recursive grammar that is assigned is kept. -/
theorem afterAll_keeping (name : String) {limit : Option Depth.Request} {granted : Option Nat}
    (grants : Depth.granted limit = .ok granted) :
    Store.afterAll (history ++ [.assign name (.recursive kind binder limit script)]) =
      (Store.afterAll history).keeping kind binder script granted name := by
  obtain ⟨trace, made⟩ := (Store.afterAll history).exec_recursive_defining kind binder script grants
  let next : Store := { (Store.afterAll history).defining kind binder script granted with trace }
  let owner := (Store.afterAll history).nextGrammar kind
  have evaluated : (evaluate (.recursive kind binder limit script)).exec (.afterAll history) = (.ok (.grammar owner), next) := by
    rw [evaluate, Expression.evaluate, map_eq_pure_bind, exec_bind_ok made]
    rfl
  have performed : ((Command.assign name (.recursive kind binder limit script)).perform.exec (.afterAll history)).2 =
      next.assign name (.grammar owner) := by
    rw [Command.perform, map_eq_pure_bind, exec_bind, assign, exec_bind_ok evaluated]
    rfl
  rw [Store.afterAll_append, Command.performAll_cons, performed]
  rfl

variable {history script} (fuel : Nat) (text : Text) (start : Int)

/-- A grammar that is kept with a limit comes to what it comes to without it, whatever has been run before,
unless it then nests beyond the limit. -/
theorem matching_kept_cases {name : String} {allowed : String → Prop} {live : CellId → Prop} {runs others : List Command}
    (known : ∀ command ∈ history, command.BuiltFrom .frank) (built : ∀ call, (script call).BuiltFrom .frank)
    {depth : Depth.Request} {granted : Depth.Granted} (clamped : Depth.clamp depth Depth.reserve = .ok granted)
    (held : Scene.Held ⟨.afterAll (history ++ [.assign name (.recursive kind binder none script)]), allowed, live⟩)
    (may : allowed name) (probes : ∀ run ∈ runs, run.Probes allowed) (probing : ∀ run ∈ others, run.Probes allowed) :
    let kept limit past := Store.afterAll (history ++ [.assign name (.recursive kind binder limit script)] ++ past)
    let free := (matching fuel (.variable name) text start).exec (kept none runs)
    let limited := (matching fuel (.variable name) text start).exec (kept (some depth) others)
    let cell := (Store.afterAll history).cells.size
    (deepest cell free.2.trace ≤ granted.limit.toNat ∧ Alike limited.1 free.1) ∨
      (granted.limit.toNat < deepest cell free.2.trace ∧ ∃ halt : Halt, halt.TooDeep ∧ limited.1 = .error halt) := by
  intro kept free limited cell
  have grants : Depth.granted (some depth) = .ok (some granted.limit.toNat) := by
    rw [Depth.granted, Option.mapM_some, clamped]
    rfl
  have command : (Command.assign name (.recursive kind binder none script)).BuiltFrom .frank := built
  have stored := Store.afterAll_builtFrom Parts.complete_frank
    (List.forall_mem_append.mpr ⟨known, List.forall_mem_singleton.mpr command⟩)
  have first := afterAll_keeping history kind binder script name (rfl : Depth.granted none = .ok none)
  have second := afterAll_keeping history kind binder script name grants
  rw [← Store.keeping_limiting none] at second
  have founded := held.founded_afterAll
  have empty := Store.afterAll_trace (history ++ [.assign name (.recursive kind binder none script)])
  dsimp only [kept, free, limited]
  rw [Store.afterAll_append (history ++ _) runs, Store.afterAll_append (history ++ _) others, second]
  rw [first] at held founded stored empty ⊢
  have plain : (Expression.variable name).Plain allowed := may
  exact Scene.matching_narrow_cases Store.inside_keeping stored founded (held.assigned may Store.assigned_keeping) empty
    Store.limit_keeping probes probing plain fuel text start

variable {kind binder fuel text start}

/-- A limit on the nesting of a grammar is exact. How deeply the grammar nests is the greatest number of its
invocations that are under way at once while it runs without the limit, whether that comes to an end or not.
The first part is about a grammar that is made and run, whose builder and those in its definition may do
anything, but pass it on when a grammar that they run nests too deeply. What it comes to with a limit, it also
comes to with every greater one. The second part is about a grammar that is kept in a variable, whose builder
and those it leads to only put grammars together, after any runs with the limit and any others without it. -/
theorem matching_limited (known : ∀ command ∈ history, command.BuiltFrom .frank)
    (built : ∀ call, (script call).BuiltFrom .frank) {depth : Depth.Request} (valid : 0 ≤ depth.limit) :
    let cell := (Store.afterAll history).cells.size
    let made limit fuel := (matching fuel (.recursive kind binder limit script) text start).exec (.afterAll history)
    ∃ granted, Depth.clamp depth Depth.reserve = .ok granted ∧
      (Depth.Exact Eq granted.limit.toNat (⨆ fuel, (deepest cell (made none fuel).2.trace : ℕ∞))
          (fun fuel => (made none fuel).1) (fun fuel => (made (some depth) fuel).1) ∧
        ∀ greater : Depth.Request, depth.limit ≤ greater.limit → depth.levels ≤ greater.levels → ∀ fuel,
          (∀ halt : Halt, halt.TooDeep → (made (some depth) fuel).1 ≠ .error halt) →
            (made (some greater) fuel).1 = (made (some depth) fuel).1) ∧
      ∀ (name : String) (allowed : String → Prop) (live : CellId → Prop) (runs others : List Command),
        let kept limit past := Store.afterAll (history ++ [.assign name (.recursive kind binder limit script)] ++ past)
        let again limit past fuel := (matching fuel (.variable name) text start).exec (kept limit past)
        Scene.Held ⟨kept none [], allowed, live⟩ → allowed name → (∀ run ∈ runs, run.Probes allowed) →
          (∀ run ∈ others, run.Probes allowed) →
            Depth.Exact Alike granted.limit.toNat (⨆ fuel, (deepest cell (again none runs fuel).2.trace : ℕ∞))
              (fun fuel => (again none runs fuel).1) (fun fuel => (again (some depth) others fuel).1) := by
  intro cell made
  obtain ⟨granted, clamped, limit⟩ := Depth.clamp_of_nonneg valid
  have splits fuel := matching_nesting_cases kind binder fuel text start known built clamped
  refine ⟨granted, clamped, ⟨.of_runs splits fun fuel finished more => matching_more finished, ?_⟩, ?_⟩
  · intro greater above levels fuel kept
    obtain ⟨higher, raised, wider⟩ := Depth.clamp_of_nonneg (Int.le_trans valid above)
    obtain ⟨within, same⟩ | ⟨-, halt, deep, ended⟩ := splits fuel
    · obtain ⟨-, equal⟩ | ⟨beyond, -⟩ := matching_nesting_cases kind binder fuel text start known built raised
      · exact equal.trans same.symm
      · have : granted.limit ≤ higher.limit := by omega
        omega
    · exact absurd ended (kept halt deep)
  · intro name allowed live runs others kept again held may probes probing
    dsimp only [kept] at held
    rw [List.append_nil] at held
    exact .of_runs (fun fuel => matching_kept_cases kind binder fuel text start known built clamped held may probes probing)
      fun fuel finished more => matching_more finished

set_option maxRecDepth 4096 in
private theorem pairs_found :
    ((matching 40 (pairs (some 3)) (Text.ofString "(())") 0).exec
      (.afterAll [])).1.toOption.map (Option.map Match.stop) = some (some 4) := by
  cbv

set_option maxRecDepth 4096 in
private theorem pairs_tooDeep :
    ((matching 40 (pairs (some 2)) (Text.ofString "(())") 0).exec (.afterAll [])).1 =
      .error (.fault (.tooDeep "recursive pattern" 2 2)) := by
  cbv

set_option maxRecDepth 4096 in
private theorem pairs_again :
    ((matching 40 (.variable "single") (Text.ofString "(())") 0).exec
      (.afterAll ([] ++ [.assign "single" (pairs (some 3))] ++
        [Command.matchPrefix (.variable "single") (Text.ofString "((()))") 0]))).1 = .ok (some (.span 4)) := by
  cbv

/-- Brackets in a variable, which are found to nest too deeply before they are matched. -/
theorem matching_limited_brackets :
    let text := Text.ofString "(())"
    let made limit := ((matching 40 (pairs limit) text 0).exec (.afterAll [])).1
    let kept limit past := Store.afterAll ([] ++ [.assign "single" (pairs limit)] ++ past)
    let again limit past := ((matching 40 (.variable "single") text 0).exec (kept limit past)).1
    let deep := [Command.matchPrefix (.variable "single") (Text.ofString "((()))") 0]
    (∀ command ∈ ([] : List Command), command.BuiltFrom .frank) ∧ (pairs none).BuiltFrom .frank ∧
      0 ≤ (3 : Depth.Request).limit ∧ Scene.Held ⟨kept none [], (· = "single"), (· = 0)⟩ ∧
      (∀ run ∈ deep, run.Probes (· = "single")) ∧
      made (some 2) = .error (.fault (.tooDeep "recursive pattern" 2 2)) ∧
      (made (some 3)).toOption.map (Option.map Match.stop) = some (some 4) ∧
      (∀ greater : Depth.Request, 3 ≤ greater.limit → 1000 ≤ greater.levels → made (some greater) = made (some 3)) ∧
      Alike (again (some 3) deep) (again none []) := by
  intro text made kept again deep
  have known : ∀ command ∈ ([] : List Command), command.BuiltFrom .frank := by simp
  have built : (pairs none).BuiltFrom .frank := fun _ => ⟨⟨⟨trivial, trivial⟩, trivial⟩, trivial⟩
  have valid : 0 ≤ (3 : Depth.Request).limit := by decide
  have plain : Expression.Plain (fun other => other = "single")
      ("(" + Expression.variable "single" + ")" ||| "()") := ⟨⟨⟨trivial, rfl⟩, trivial⟩, trivial⟩
  have held : Scene.Held ⟨kept none [], (· = "single"), (· = 0)⟩ := (assign_keeps [] "single" .pattern _ rfl).held plain
  have probes : ∀ run ∈ deep, run.Probes (· = "single") := by simp [deep, Command.Probes, Expression.Plain]
  obtain ⟨granted, clamped, ⟨-, stays⟩, same⟩ := @matching_limited [] .pattern "single" _ text 0 known built 3 valid
  obtain rfl : (⟨3, false⟩ : Depth.Granted) = granted := Except.ok.inj clamped
  have exactness := same "single" _ _ [] deep held rfl (by simp) probes
  refine ⟨known, built, valid, held, probes, pairs_tooDeep, pairs_found, fun greater above levels => ?_, ?_⟩
  · refine stays greater above levels 40 fun halt _ halted => ?_
    have found := pairs_found
    rw [halted] at found
    cases found
  · refine exactness.within (exactness.within_of_ends fun enough => ⟨max 40 enough, Nat.le_max_right _ _, ?_⟩) 40
    intro halt _ ended
    have found : again (some 3) deep = .ok (some (.span 4)) := pairs_again
    have finished : again (some 3) deep ≠ .error .exhausted := by simp [found]
    cases found.symm.trans ((matching_more finished (Nat.le_max_left 40 enough)).symm.trans ended)

/-- A grammar around another one that only leads to itself. -/
abbrev endless (limit : Option Depth.Request) : Expression :=
  .fix .pattern "outer" (.fix .pattern "inner" (.variable "inner") none) limit

theorem endless_told (base : Store) {limit : Option Depth.Request} {granted : Option Nat}
    (grants : Depth.granted limit = .ok granted) (allows : ∀ limit, granted = some limit → 0 < limit) (fuel : Nat) :
    foretell base fuel (endless limit) (Text.ofString "") 0 = .error .exhausted := by
  let outer : Target := .inner (.within (.stage 0) 0) .pattern granted "outer" (.fix .pattern "inner" (.variable "inner") none) []
  let inner : Target := .inner (.within (.within (.stage 0) 0) 0) .pattern none "inner" (.variable "inner") [("outer", .pattern, outer)]
  have drafted : (endless limit).drafted base.globals (.stage 0) [] = .ok (.grammar (.new .pattern (.invoke outer))) := by
    simp [Expression.drafted, Expression.draft, Expression.fix, grants]
    rfl
  have leads : inner.definition base = .ok (.object (.invoke inner)) := rfl
  have opens : outer.definition base = .ok (.object (.invoke inner)) := rfl
  have checked : (Text.ofString "").checkOffset 0 = .ok () := rfl
  have loops := Blueprint.run_endless leads rfl (Text.ofString "") 0
  rw [foretell, drafted, checked]
  change Blueprint.run base fuel _ 1 (.object (.invoke outer)) _ 0 = _
  cases fuel with
  | zero => rfl
  | succ fuel =>
    change Blueprint.run base fuel _ 1 (.invoke outer) _ 0 = _
    cases fuel with
    | zero => rfl
    | succ fuel =>
      rw [Blueprint.run, Player.step_invoke, opens]
      change Player.enter base (Blueprint.run base fuel) (fun _ => 0) 1 outer (.object (.invoke inner)) _ 0 = _
      have below : ∀ limit, outer.limit base = some limit → (fun _ => 0 : Key → Nat) outer.key < limit := allows
      rw [Player.enter_below below]
      exact (loops fuel _ _).2

theorem endless_exhausted {limit : Option Depth.Request} {granted : Option Nat}
    (grants : Depth.granted limit = .ok granted) (allows : ∀ limit, granted = some limit → 0 < limit) (fuel : Nat) :
    ((matching fuel (endless limit) (Text.ofString "") 0).exec (.afterAll [])).1 = .error .exhausted := by
  have plain : (endless limit).Plain fun _ => False :=
    ⟨fun _ => rfl, fun _ => ⟨fun _ => rfl, fun _ => .inl rfl⟩⟩
  have alike : Alike ((matching fuel (endless limit) (Text.ofString "") 0).exec (.afterAll [])).1
      (foretell (.afterAll []) fuel (endless limit) (Text.ofString "") 0) :=
    Scene.matching_alike (Scene.bare_founded []) plain fuel
  rw [endless_told _ grants allows] at alike
  obtain ⟨halt, ended, same⟩ := alike.of_error
  cases halt with
  | fault cause => cases same
  | exhausted => exact ended

/-- A grammar whose inner builder runs it on a text, and makes nothing of how that ends. -/
abbrev careless (limit : Option Depth.Request) : Expression :=
  .fix .pattern "outer" ("a" ||| .recursive .pattern "inner" none fun _ =>
    .attempt (.variable "outer") (Text.ofString "a") 0 fun _ => .finish (.literal "b")) limit

/-- A grammar that goes on with the placeholder that was last assigned to a variable. -/
abbrev passingOn (limit : Option Depth.Request) : Expression :=
  .recursive .parser "inner" limit fun _ => .leak "shared" (.variable "inner") <| .finish <|
    .orElse (.bind (.captured (.literal "(")) fun _ => .variable "shared") (.pure .null)

set_option maxRecDepth 10000 in
/-- A grammar that never comes to an end in another one is not found to nest too deeply, nor is one whose
builder takes no notice. And where builders assign variables, a grammar with a limit may go on in the grammar
without it, after both have been run. -/
theorem limits_evaded :
    let made (subject : Option Depth.Request → Expression) text limit fuel :=
      (matching fuel (subject limit) (Text.ofString text) 0).exec (.afterAll [])
    let ran name text := Command.matchPrefix (.variable name) (Text.ofString text) 0
    let passed := Store.afterAll
      [.assign "free" (passingOn none), .assign "limited" (passingOn (some 1)), ran "limited" "", ran "free" ""]
    (∀ fuel, (made endless "" none fuel).1 = .error .exhausted ∧ (made endless "" (some 1) fuel).1 = .error .exhausted) ∧
    ((made careless "b" none 40).1 = .ok (some (.span 1)) ∧ deepest 0 (made careless "b" none 40).2.trace = 2 ∧
      (made careless "b" (some 1) 40).1 = .ok (some (.span 1))) ∧
    ((ran "free" "((").perform.exec passed).1 = .ok (.found (some (.yielding .null 2))) ∧
      deepest 0 ((ran "free" "((").perform.exec passed).2.trace = 3 ∧
      ((ran "limited" "((").perform.exec passed).1 = .ok (.found (some (.yielding .null 2))) := by
  refine ⟨fun fuel => ⟨endless_exhausted rfl (by simp) fuel, endless_exhausted rfl (by rintro _ ⟨⟩; decide) fuel⟩, ⟨?_, ?_, ?_⟩, ?_, ?_, ?_⟩
  all_goals cbv

end Session

end TextGrammar
