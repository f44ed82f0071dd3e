import TextGrammar.Proofs.GuardedDrafts
import TextGrammar.Proofs.KeptDrafts
import TextGrammar.Proofs.Nesting
import TextGrammar.Proofs.PatternExtents
import TextGrammar.Proofs.WiderLimits

/-! Guarded recursive grammars come to an end. From one invocation to the next inside of it at least one
character is passed, so no more of them are under way at once than there are characters left, and one at
the end of the text. A limit that allows for as many makes no difference. -/

namespace TextGrammar
open TextGrammar.Action Expression

variable {name : String} {kind : Kind} {definition : Expression} {granted : Option Nat} {cell : CellId}

section Drafts
variable {consumes : Expression → Prop} {globals : String → Option Draft} {names others : Names}

mutual

/-- Without further recursive grammars a draft only depends on what the name stands for. -/
theorem Expression.Guards.draft_eq {free : Prop} {expression : Expression} (guards : expression.Guards name consumes free)
    (same : names.meaning globals name = others.meaning globals name) (key other : Key) :
    expression.draft globals key names = expression.draft globals other others := by
  cases expression with
  | raw | invalid | constant | leaf => rfl
  | «variable» own =>
    obtain ⟨rfl, -⟩ := guards
    rw [draft_variable, draft_variable, same]
  | followedBy first second | sum first second | orElse first second | union first second
  | separatedBy first second => rw [draft, draft, guards.1.draft_eq same key other, guards.2.draft_eq same key other]
  | either kind alternatives => rw [draft, draft, AllGuard.draftAll_eq guards same key other]
  | optional operand | many operand | oneOrMore operand | times operand | captured operand
  | capturedPattern operand | returning operand | valueFor operand | erased operand | negated operand
  | named operand | copy operand => rw [draft, draft, @Guards.draft_eq free operand guards same key other]
  | map operand | shifted operand | filter operand => rw [draft, draft, guards.1.draft_eq same key other]
  | bind | capturing | retaining | recursive => exact guards.elim

theorem Expression.AllGuard.draftAll_eq {free : Prop} {expressions : List Expression}
    (guards : AllGuard name consumes free expressions)
    (same : names.meaning globals name = others.meaning globals name) (key other : Key) :
    draftAll globals key names expressions = draftAll globals other others expressions := by
  cases expressions with
  | nil => rfl
  | cons first rest =>
    rw [draftAll, draftAll, guards.1.draft_eq same key other, AllGuard.draftAll_eq guards.2 same key other]

end

end Drafts

mutual

/-- There are no builders in a guarded definition that could run other grammars. -/
theorem Expression.Guards.frank {consumes : Expression → Prop} {free : Prop} {expression : Expression}
    (guards : expression.Guards name consumes free) : expression.BuiltFrom .frank := by
  cases expression with
  | raw | invalid | constant | «variable» | leaf => trivial
  | followedBy first second | sum first second | orElse first second | union first second
  | separatedBy first second => exact ⟨guards.1.frank, guards.2.frank⟩
  | either kind alternatives => exact AllGuard.frank guards
  | optional operand | many operand | oneOrMore operand | times operand | captured operand
  | capturedPattern operand | returning operand | valueFor operand | erased operand | negated operand
  | named operand | copy operand => exact @Guards.frank consumes free operand guards
  | map operand | shifted operand | filter operand => exact guards.1.frank
  | bind | capturing | retaining | recursive => exact guards.elim

theorem Expression.AllGuard.frank {consumes : Expression → Prop} {free : Prop} {expressions : List Expression}
    (guards : AllGuard name consumes free expressions) : AllBuiltFrom .frank expressions := by
  cases expressions with
  | nil => trivial
  | cons first rest => exact ⟨guards.1.frank, AllGuard.frank guards.2⟩

end

namespace Session

/-- What cannot succeed in a session without going on in the text. It is put behind the pattern that takes
nothing, so that words count as the patterns that they are in a sequence. -/
def Consumes (store : Store) (element : Expression) : Prop :=
  ∀ (text : Text) (start : Int) found, 0 ≤ start → start ≤ text.size →
    Comes store (.sum (.constant .nothing) element) text start (.ok (some found)) → start < found.stop

end Session

open Session

/-- The grammar that takes nothing, before another one. -/
abbrev Sketch.afterNothing (next : Sketch) : Sketch :=
  (Sketch.new .pattern (.leaf Leaf.nothing)).followedByGrammar next

theorem Expression.drafted_afterNothing {element : Expression} {globals : String → Option Draft} {key : Key}
    {names : Names} {draft : Draft} (drafted : element.drafted globals key names = .ok draft) :
    (Expression.sum (.constant .nothing) element).drafted globals key names =
      (Draft.grammar (.new .pattern (.leaf Leaf.nothing))).sum draft := by
  have plan : (Expression.sum (.constant .nothing) element).draft globals key names = (do
      let second ← element.draft globals key names
      (Draft.grammar (.new .pattern (.leaf Leaf.nothing))).sum second) := by
    rw [Expression.draft]
    rfl
  rw [Expression.drafted, plan]
  change Prod.fst <$> element.draft globals key names 0 = _ at drafted
  change Prod.fst <$> (element.draft globals key names 0 >>= fun answer =>
    (do return (← (Draft.grammar _).sum answer.1, answer.2))) = _
  generalize element.draft globals key names 0 = outcome at drafted
  cases outcome with
  | error fault => cases drafted
  | ok answer =>
    cases drafted
    change Prod.fst <$> (do return (← (Draft.grammar _).sum answer.1, answer.2)) = _
    cases (Draft.grammar (.new .pattern (.leaf Leaf.nothing))).sum answer.1 <;> rfl

/-- Behind the pattern that takes nothing a grammar does what it does alone. -/
theorem Blueprint.limit_afterNothing {base : Store} {active : Key → Nat} {stage : Nat} {next : Sketch} {text : Text}
    {start : Int} {found : Option Match} (is : limit base active stage next.body text start = .ok found) :
    limit base active stage next.afterNothing.body text start = .ok found := by
  change limit base active stage (.object (.sequence .pattern next.kind (.object (.leaf Leaf.nothing)) next.body)) text start = _
  rw [limit_eq_step]
  change limit base active stage (.sequence .pattern next.kind (.object (.leaf Leaf.nothing)) next.body) text start = _
  rw [limit_eq_step]
  have taken : (Leaf.nothing text start).mapError Halt.fault = pure (some (.span start)) := rfl
  have stopped : ((Match.span start).stopAs .pattern).mapError Halt.fault = pure start := rfl
  simp only [Player.step, limit_leaf, taken, pure_bind, stopped, is]
  cases found <;> rfl

section Consuming
variable {scene : Scene} {cast : Cast} (founded : scene.Founded (fun _ => 0) 0 cast scene.base) {element : Expression}
  (consumes : Consumes scene.base element) (plain : element.Plain scene.allowed) {journey : Journey}
  (widens : scene.base.Widens journey.base) (staged : journey.stage = 1) {draft : Draft}
  (drafted : element.drafted scene.base.globals (.stage 0) [] = .ok draft)
include founded consumes plain widens staged drafted

/-- A grammar that consumes something goes on in the text, whatever is under way. -/
theorem Session.Consumes.sketch_advances {next : Sketch}
    (sums : (Draft.grammar (.new .pattern (.leaf Leaf.nothing))).sum draft = .ok (.grammar next.afterNothing)) :
    next.body.Advances journey next.kind := by
  intro start found stop least inside goes stopped
  have valid := Int.le_trans journey.valid least
  rw [Blueprint.goes, staged] at goes
  have alone := Blueprint.limit_widens widens (fun _ => Nat.zero_le _) 1 next.body journey.text start _ goes
  have told : foretold scene.base (.sum (.constant .nothing) element) journey.text start = .ok (some found) := by
    rw [foretold, drafted_afterNothing drafted, sums, Text.checkOffset, if_pos ⟨valid, inside⟩]
    exact Blueprint.limit_afterNothing alone
  have sum : (Expression.sum (.constant .nothing) element).Plain scene.allowed := ⟨trivial, plain⟩
  have onward := consumes journey.text start found valid inside ((Scene.comes_ok_iff founded sum).mpr told)
  have same := found.stopAs_shallow next.kind
  rw [stopped] at same
  exact onward.trans_eq same.symm

theorem Session.Consumes.advances : draft.Advances journey := by
  cases draft with
  | grammar made => exact sketch_advances founded consumes plain widens staged drafted rfl
  | raw value =>
    cases value with
    | str word =>
      have advances : (Sketch.literal word).body.Advances journey .pattern :=
        sketch_advances founded consumes plain widens staged drafted rfl
      exact advances
    | _ => trivial

end Consuming

/-- A word consumes something unless it is empty. -/
theorem Session.consumes_word (history : List Command) {word : String} (long : word.toList ≠ []) :
    Consumes (.afterAll history) (.raw (.str word)) := by
  intro text start found valid inside comes
  have plain : (Expression.sum (.constant .nothing) (.raw (.str word))).Plain fun _ => False := ⟨trivial, trivial⟩
  have told := (Scene.comes_ok_iff (Scene.bare_founded history) plain).mp comes
  have drafted : (Expression.sum (.constant .nothing) (.raw (.str word))).drafted (Store.afterAll history).globals (.stage 0) [] =
      .ok (.grammar (Sketch.literal word).afterNothing) :=
    drafted_afterNothing (rfl : (Expression.raw (.str word)).drafted _ _ _ = .ok (.raw (.str word)))
  have alone := Blueprint.limit_leaf (.afterAll history) (fun _ => 0) 1 text start (Leaf.literal word)
  have checked : text.checkOffset start = .ok () := if_pos ⟨valid, inside⟩
  rw [foretold, show (Scene.bare (.afterAll history)).base = .afterAll history from rfl, drafted, checked] at told
  have behind : Blueprint.limit (.afterAll history) (fun _ => 0) 1 (Sketch.literal word).afterNothing.body text start = _ :=
    Blueprint.limit_afterNothing alone
  have same := behind.symm.trans told
  have found? := Option.map_eq_some_iff.mp (Except.ok.inj same)
  obtain ⟨stop, ended, rfl⟩ := found?
  obtain ⟨-, ended⟩ := Option.ite_none_right_eq_some.mp ended
  have := List.length_pos_of_ne_nil long
  cases ended
  simp only [Match.span]
  omega

namespace Store

theorem Widens.refl (store : Store) : store.Widens store :=
  ⟨rfl, fun _ => rfl, fun limited => ⟨_, Nat.le_refl _, limited⟩⟩

/-- A store in which a grammar has some other limit. -/
def limiting (store : Store) (cell : CellId) (limit : Option Nat) : Store :=
  store.updateCell cell fun slot => { slot with limit }

variable {store : Store} {limit : Option Nat}

theorem cellAt_limiting (inside : cell < store.cells.size) (other : CellId) :
    (store.limiting cell limit).cellAt other =
      if cell = other then { store.cellAt other with limit } else store.cellAt other := by
  rw [limiting, cellAt_updateCell]
  refine if_congr ⟨And.left, ?_⟩ rfl rfl
  rintro rfl
  exact ⟨rfl, inside⟩

theorem definition_limiting (inside : cell < store.cells.size) (target : Target) :
    target.definition (store.limiting cell limit) = target.definition store := by
  cases target with
  | inner => rfl
  | base other =>
    by_cases same : cell = other
    · simp only [Target.definition, Target.names, cellAt_limiting inside, if_pos same]
      rfl
    · simp only [Target.definition, Target.names, cellAt_limiting inside, if_neg same]
      rfl

/-- Limits are wider where a grammar has none that is narrower than another one. -/
theorem widens_limiting (inside : cell < store.cells.size) {less : Nat}
    (narrow : ∀ limit, (store.cellAt cell).limit = some limit → less ≤ limit) :
    store.Widens (store.limiting cell (some less)) where
  globals := rfl
  definition target := (definition_limiting inside target).symm
  limit {target limit} limited := by
    cases target with
    | inner => exact ⟨limit, Nat.le_refl _, limited⟩
    | base other =>
      rw [Target.limit, cellAt_limiting inside]
      split
      next same =>
        subst same
        exact ⟨less, narrow limit limited, rfl⟩
      next => exact ⟨limit, Nat.le_refl _, limited⟩

theorem Keeps.limiting (keeps : store.Keeps name kind definition granted cell) (limit : Option Nat) :
    (store.limiting cell limit).Keeps name kind definition limit cell := by
  have slot : (store.limiting cell limit).cellAt cell = { store.cellAt cell with limit } := by
    rw [cellAt_limiting keeps.inside, if_pos rfl]
  constructor
  · exact keeps.assigned
  · exact Nat.lt_of_lt_of_eq keeps.inside (size_updateCell _ _ _).symm
  · rw [slot]
    exact keeps.same
  · rw [slot]
  · rw [slot]
    exact keeps.unbuilt
  · rw [slot]
    exact keeps.builder

end Store

/-- There is room for this many invocations. -/
def Room (granted : Option Nat) (count : Nat) : Prop :=
  ∀ limit, granted = some limit → count ≤ limit

namespace Store.Keeps
variable {store base : Store} {consumes : Expression → Prop} {text : Text} {start : Int}

/-- From one invocation to the next inside of it a character is passed. So a grammar comes to an end, and
there is room for its invocations if there is room for one more than there are characters left. -/
theorem invoke_finishes (keeps : base.Keeps name kind definition granted cell)
    (guards : definition.Guards name consumes False)
    (lead : ∀ journey : Journey, journey.base = base → journey.stage = 1 → Lead name consumes journey base.globals kind cell)
    {left : Nat} {active : Key → Nat} (valid : 0 ≤ start) (remain : start + left = text.size) :
    Finishes (Room granted (active (.base cell) + left + 1)) (fun found => ∀ one ∈ found, one.Between text start)
      (Blueprint.limit base active 1 (.invoke (.base cell)) text start) := by
  induction left using Nat.strong_induction_on generalizing active start with
  | _ left ih =>
    let room := Room granted (active (.base cell) + left + 1)
    let journey : Journey := ⟨base, text, start, (Key.base cell).enter active, 1, room, valid⟩
    have inner : (Blueprint.invoke (.base cell)).Steady journey True := by
      intro position least within behind
      have after : start < position := behind trivial
      have within : position ≤ text.size := within
      obtain ⟨rest, remains⟩ := Int.eq_ofNat_of_zero_le (Int.sub_nonneg_of_le within)
      refine (ih rest (by omega) (Int.le_trans valid least) (by omega)).narrow fun room limit limited => ?_
      have entered : (Key.base cell).enter active (.base cell) = active (.base cell) + 1 := if_pos rfl
      have enough := room limit limited
      change (Key.base cell).enter active (.base cell) + rest + 1 ≤ limit
      omega
    have drafts := (draft_steady (lead journey rfl rfl) inner False definition guards).drafted
    have defined : Shallow (fun body => body.Steady journey False) ((Target.base cell).definition base) := by
      rw [keeps.target_definition, Expression.defined]
      exact drafts.bind fun draft steady => steady.definition _ kind
    rw [Blueprint.limit_eq_step, Player.step_invoke]
    refine (defined.finishes room).bind fun body steady _ => ?_
    by_cases below : ∀ limit, (Target.base cell).limit base = some limit → active (.base cell) < limit
    · rw [Player.enter_below below]
      exact steady start (Int.le_refl _) (show start ≤ text.size by omega) False.elim
    · obtain ⟨limit, limited, deep⟩ : ∃ limit, (Target.base cell).limit base = some limit ∧
          limit ≤ active (.base cell) := by simpa using below
      rw [Player.enter_deep limited deep]
      intro there
      have enough := there limit (keeps.target_limit.symm.trans limited)
      omega

/-- So does the variable that it is kept in. -/
theorem variable_finishes (keeps : base.Keeps name kind definition granted cell)
    (guards : definition.Guards name consumes False)
    (lead : ∀ journey : Journey, journey.base = base → journey.stage = 1 → Lead name consumes journey base.globals kind cell)
    {left : Nat} (valid : 0 ≤ start) (remain : start + left = text.size) :
    Finishes (Room granted (left + 1)) (fun found => ∀ one ∈ found, one.Between text start)
      (Session.foretold base (.variable name) text start) := by
  have checked : text.checkOffset start = .ok () := if_pos ⟨valid, by omega⟩
  rw [keeps.foretold_variable checked, Blueprint.limit_eq_step]
  refine Finishes.narrow (keeps.invoke_finishes guards lead valid remain) fun room => ?_
  rwa [Nat.zero_add]

/-- What consumes something in the session leads on in every run with narrower limits. -/
theorem leads (keeps : store.Keeps name kind definition granted cell)
    {cast : Cast} (founded : Scene.Founded ⟨store, fun other => other = name, fun other => other = cell⟩ (fun _ => 0) 0 cast store)
    (globals : base.globals = store.globals) (widens : store.Widens base) (journey : Journey) (is : journey.base = base)
    (staged : journey.stage = 1) : Lead name (Consumes store) journey base.globals kind cell := by
  subst is
  intro element free draft guards consumes drafted
  have means : (Names.own name kind cell).meaning store.globals name = Names.meaning [] store.globals name := by
    rw [Names.meaning_self, Names.meaning, keeps.globals]
    rfl
  rw [globals, Expression.drafted, guards.draft_eq means _ (.stage 0)] at drafted
  exact consumes.advances founded guards.plain widens staged drafted

end Store.Keeps

/-- A store beside the one in which a grammar has a limit, before any invocation is under way. -/
theorem Alignment.limiting_stores {store : Store} {text : Text} {beyond : Prop} {limit : Nat}
    (stored : store.BuiltFrom .frank) (empty : store.trace = []) (inside : cell < store.cells.size)
    (rests : (store.cellAt cell).active = 0) (wider : Allows beyond limit (store.cellAt cell).limit) :
    (nesting beyond cell limit text).Stores (store.limiting cell (some limit)) store := by
  have slot other : (store.limiting cell (some limit)).cellAt other = _ := Store.cellAt_limiting inside other
  refine ⟨⟨rfl, rfl, rfl, rfl, rfl, Store.size_updateCell _ _ _, fun other => ?_⟩, ?_, ?_⟩
  · rw [slot]
    split
    next same => exact ⟨rfl, rfl, rfl, rfl, rfl, rfl, rfl, fun free => absurd (congrArg some same) free⟩
    next => exact .refl _ _
  · exact stored.updateCell cell ⟨(stored.cellAt cell).builder, (stored.cellAt cell).definition⟩
  · refine ⟨inside, by rw [slot, if_pos rfl], wider, ?_, ?_⟩
    · rw [empty, rests]
      rfl
    · rw [empty]
      exact Nat.zero_le _

namespace Session
variable {store : Store} {fuel : Nat} {subject : Expression} {text : Text} {start : Int} {limit : Nat}

/-- A grammar that is given a limit, beside the grammar without it. -/
theorem matching_limiting {beyond : Prop} (stored : store.BuiltFrom .frank) (empty : store.trace = [])
    (built : subject.BuiltFrom .frank) (inside : cell < store.cells.size) (rests : (store.cellAt cell).active = 0)
    (wider : Allows beyond limit (store.cellAt cell).limit) :
    let free := (matching fuel subject text start).exec store
    let limited := (matching fuel subject text start).exec (store.limiting cell (some limit))
    (deepest cell free.2.trace ≤ limit ∧ limited.1 = free.1) ∨
      beyond ∧ limit < deepest cell free.2.trace ∧ ∃ halt : Halt, halt.TooDeep ∧ limited.1 = .error halt := by
  intro free limited
  have lawful := Alignment.nesting_lawful beyond cell limit text
  have aligned := (lawful.makes_evaluate [] subject built).thenAligned fun operand made =>
    lawful.matchFrom (Alignment.nesting_runs beyond cell limit text fuel) made rfl (rfl : start = start)
  exact Alignment.nesting_cases (aligned (Alignment.limiting_stores stored empty inside rests wider))

/-- A grammar nests within a limit if it has the limit, and if it is not found to nest too deeply with it. -/
theorem deepest_matching_le {beyond : Prop} (stored : store.BuiltFrom .frank) (empty : store.trace = [])
    (built : subject.BuiltFrom .frank) (inside : cell < store.cells.size) (rests : (store.cellAt cell).active = 0)
    (wider : Allows beyond limit (store.cellAt cell).limit) (shallow : beyond → ∀ fault,
      ((matching fuel subject text start).exec (store.limiting cell (some limit))).1 = .error (.fault fault) →
        fault.class ≠ .depthLimit) :
    deepest cell ((matching fuel subject text start).exec store).2.trace ≤ limit := by
  obtain ⟨bounded, -⟩ | ⟨may, -, halt, deep, ended⟩ := matching_limiting stored empty built inside rests wider
  · exact bounded
  · cases halt with
    | exhausted => exact deep.elim
    | fault fault => exact absurd deep (shallow may fault ended)

/-- A match that is told to come to an end does. -/
theorem comes_of_finishes {scene : Scene} {cast : Cast} {room : Prop} {answers : Option Match → Prop}
    (founded : scene.Founded (fun _ => 0) 0 cast store) (plain : subject.Plain scene.allowed)
    (finishes : Finishes room answers (foretold scene.base subject text start)) :
    (∃ outcome, Comes store subject text start outcome) ∧
      (room → ∀ fault, Comes store subject text start (.error fault) → fault.class ≠ .depthLimit) := by
  constructor
  · refine Scene.comes_of_foretold founded plain fun cut => ?_
    rw [cut] at finishes
    exact finishes
  · intro there fault comes deep
    obtain ⟨cause, is, told⟩ := (Scene.comes_error_iff founded plain).mp ⟨fault, deep, comes⟩
    rw [told] at finishes
    exact finishes there is

end Session

namespace Store.Keeps
variable {store : Store} {text : Text} {start : Int} (keeps : store.Keeps name kind definition granted cell)
include keeps

/-- A store at rest is cast for a grammar that is kept in it. -/
theorem founded (plain : definition.Plain fun other => other = name) (rests : ∀ other, (store.cellAt other).Rests) :
    let scene : Scene := ⟨store, fun other => other = name, fun other => other = cell⟩
    scene.Founded (fun _ => 0) 0 scene.cast store :=
  (keeps.held plain).founded (fun other => (rests other).active) fun other => (rests other).building

variable (guards : definition.Guards name (Consumes store) False) (rests : ∀ other, (store.cellAt other).Rests)
  {left : Nat} (valid : 0 ≤ start) (remain : start + left = text.size)
include guards rests valid remain

theorem variable_comes : (∃ outcome, Comes store (.variable name) text start outcome) ∧
    (Room granted (left + 1) → ∀ fault, Comes store (.variable name) text start (.error fault) →
      fault.class ≠ .depthLimit) := by
  have founded := keeps.founded guards.plain rests
  have plain : (Expression.variable name).Plain fun other => other = name := rfl
  exact comes_of_finishes founded plain
    (keeps.variable_finishes guards (keeps.leads founded rfl (.refl _)) valid remain)

/-- A limit that is not passed tells how deeply the grammar nests without it. -/
theorem deepest_variable_le (stored : store.BuiltFrom .frank) (empty : store.trace = []) (fuel : Nat) :
    deepest cell ((matching fuel (.variable name) text start).exec store).2.trace ≤ left + 1 := by
  have built : (Expression.variable name).BuiltFrom .frank := trivial
  have within {limit : Nat} (beyond : Prop) (wider : Allows beyond limit granted) (shallow : beyond → ∀ fault,
      ((matching fuel (.variable name) text start).exec (store.limiting cell (some limit))).1 = .error (.fault fault) →
        fault.class ≠ .depthLimit) :
      deepest cell ((matching fuel (.variable name) text start).exec store).2.trace ≤ limit :=
    deepest_matching_le stored empty built keeps.inside (rests cell).active (keeps.limit ▸ wider) shallow
  by_cases narrow : ∃ limit, granted = some limit ∧ limit ≤ left + 1
  · obtain ⟨limit, is, least⟩ := narrow
    exact Nat.le_trans (within False (.inl is) False.elim) least
  have wide limit (is : granted = some limit) : left + 1 < limit := by
    by_contra less
    exact narrow ⟨limit, is, Nat.le_of_not_lt less⟩
  have limiting := keeps.limiting (some (left + 1))
  have widens : store.Widens (store.limiting cell (some (left + 1))) :=
    widens_limiting keeps.inside fun limit is => Nat.le_of_lt (wide limit (keeps.limit.symm.trans is))
  have calm other : ((store.limiting cell (some (left + 1))).cellAt other).Rests := by
    rw [cellAt_limiting keeps.inside]
    split
    · exact ⟨(rests other).active, (rests other).building⟩
    · exact rests other
  have finishes := limiting.variable_finishes guards
    (keeps.leads (keeps.founded guards.plain rests) rfl widens) valid remain
  have plain : (Expression.variable name).Plain fun other => other = name := rfl
  obtain ⟨-, shallow⟩ := comes_of_finishes (limiting.founded guards.plain calm) plain finishes
  refine within True (.inr ⟨trivial, wide⟩) fun _ fault ended => ?_
  exact shallow (fun limit is => Nat.le_of_eq (Option.some.inj is)) fault ⟨fuel, ended⟩

end Store.Keeps

namespace Session
variable {text : Text} {start : Int}

/-- A grammar whose own name is guarded in its definition comes to an end on every text, from every offset
on. No more of its invocations are ever under way at once than there are characters left, and one at the
end of the text. So with a limit that allows for as many it is never found to nest too deeply. -/
theorem guarded_comes {history : List Command} (known : ∀ command ∈ history, command.BuiltFrom .frank)
    {depth : Option Depth.Request} (grants : Depth.granted depth = .ok granted)
    (guards : definition.Guards name (Consumes
      (.afterAll (history ++ [.assign name (.fix kind name definition depth)]))) False)
    (valid : 0 ≤ start) (inside : start ≤ text.size) :
    let session := Store.afterAll (history ++ [.assign name (.fix kind name definition depth)])
    let cell := (Store.afterAll history).cells.size
    (∃ outcome, Comes session (.variable name) text start outcome) ∧
      (∀ fuel, (deepest cell ((matching fuel (.variable name) text start).exec session).2.trace : Int) ≤
        text.size - start + 1) ∧
      ((∀ limit, granted = some limit → (text.size - start + 1 : Int) ≤ limit) →
        ∀ fault, Comes session (.variable name) text start (.error fault) → fault.class ≠ .depthLimit) := by
  intro session cell
  obtain ⟨left, remain⟩ := Int.eq_ofNat_of_zero_le (Int.sub_nonneg_of_le inside)
  have remain : start + left = text.size := by omega
  have keeps : session.Keeps name kind definition granted cell := assign_keeps history name kind definition grants
  have rests other : (session.cellAt other).Rests := Store.afterAll_rests _ other
  obtain ⟨comes, shallow⟩ := keeps.variable_comes guards rests valid remain
  refine ⟨comes, fun fuel => ?_, fun allows => shallow fun limit is => ?_⟩
  · have built : ∀ command ∈ history ++ [.assign name (.fix kind name definition depth)], command.BuiltFrom .frank := by
      intro command member
      rcases List.mem_append.mp member with earlier | last
      · exact known command earlier
      · cases List.mem_singleton.mp last
        exact fun _ => guards.frank
    have stored : session.BuiltFrom .frank := Store.afterAll_builtFrom Parts.complete_frank built
    have bounded := keeps.deepest_variable_le guards rests valid remain stored (Store.afterAll_trace _) fuel
    omega
  · have enough := allows limit is
    omega

/-- Brackets within brackets, on four of them that are not closed: five invocations are enough. -/
theorem guarded_comes_brackets :
    let definition : Expression := "(" + Expression.variable "single" + ")" ||| "()"
    let session := Store.afterAll [.assign "single" (.fix .pattern "single" definition (some 5))]
    let text := Text.ofString "(((("
    Depth.granted (some 5) = .ok (some 5) ∧ definition.Guards "single" (Consumes session) False ∧
      (∃ outcome, Comes session (.variable "single") text 0 outcome) ∧
      (∀ fuel, (deepest 0 ((matching fuel (.variable "single") text 0).exec session).2.trace : Int) ≤ 5) ∧
      ∀ fault, Comes session (.variable "single") text 0 (.error fault) → fault.class ≠ .depthLimit := by
  intro definition session text
  have grants : Depth.granted (some 5) = .ok (some 5) := rfl
  have opens : Consumes session (.raw (.str "(")) := consumes_word _ (by decide)
  have guards : definition.Guards "single" (Consumes session) False :=
    ⟨⟨⟨trivial, rfl, .inr opens⟩, trivial⟩, trivial⟩
  have known : ∀ command ∈ ([] : List Command), command.BuiltFrom .frank := fun command member => by cases member
  have inside : (0 : Int) ≤ text.size := by decide
  obtain ⟨comes, nests, shallow⟩ := guarded_comes known grants guards (Int.le_refl 0) inside
  exact ⟨grants, guards, comes, nests, shallow fun limit is => by cases is; decide⟩

end Session

end TextGrammar
