import TextGrammar.Proofs.StagedResolution

/-! Runs of grammars beside runs of their blueprints. They come to the same, apart from the names in
faults, in every store that is cast for them; and the store is cast for the same grammars
afterwards, however the run ended. -/

namespace TextGrammar
open TextGrammar.Action

variable {scene : Scene} {active : Key → Nat} {stage : Nat} {cast further : Cast} {α β : Type}

/-- Outcomes that are the same apart from names in faults that grammars may be given later on. -/
def Alike (first second : Except Halt α) : Prop :=
  first.mapError Halt.unnamed = second.mapError Halt.unnamed

namespace Alike
variable {first second : Except Halt α}

theorem refl (outcome : Except Halt α) : Alike outcome outcome := rfl

theorem of_ok {answer : α} (alike : Alike first (.ok answer)) : first = .ok answer := by
  cases first with
  | ok other =>
    cases alike
    rfl
  | error halt => cases alike

theorem of_error {halt : Halt} (alike : Alike first (.error halt)) :
    ∃ other : Halt, first = .error other ∧ other.unnamed = halt.unnamed := by
  cases first with
  | ok answer => cases alike
  | error other => exact ⟨other, rfl, Except.error.inj alike⟩

theorem error {halt other : Halt} (same : halt.unnamed = other.unnamed) :
    Alike (.error halt : Except Halt α) (.error other) := congrArg Except.error same

theorem fault {cause other : Fault} (same : cause.unnamed = other.unnamed) :
    Alike (.error (.fault cause) : Except Halt α) (.error (.fault other)) :=
  error (congrArg Halt.fault same)

end Alike

namespace Scene

/-- An action that comes to an outcome in every store that is cast for it, and leaves one that is. -/
def Runs (scene : Scene) (active : Key → Nat) (stage : Nat) (cast : Cast) (action : Action α)
    (outcome : Except Halt α) : Prop :=
  ∀ wider : Cast, wider.Extends cast → ∀ store, scene.Founded active stage wider store →
    ∃ result after further, action.exec store = (result, after) ∧ further.Extends wider ∧
      scene.Founded active stage further after ∧ Alike result outcome

namespace Runs
variable {action : Action α} {outcome : Except Halt α}

theorem pure (answer : α) : scene.Runs active stage cast (pure answer) (.ok answer) :=
  fun wider _ store founded => ⟨_, store, wider, rfl, .refl _, founded, .refl _⟩

theorem ofExcept (result : Except Fault α) :
    scene.Runs active stage cast (Action.ofExcept result) (result.mapError .fault) := by
  intro wider more store founded
  cases result with
  | ok answer => exact ⟨_, store, wider, rfl, .refl _, founded, .refl _⟩
  | error fault => exact ⟨_, store, wider, rfl, .refl _, founded, .refl _⟩

theorem fail {cause fault : Fault} (same : cause.unnamed = fault.unnamed) :
    scene.Runs active stage cast (Action.fail cause : Action α) (.error (.fault fault)) :=
  fun wider _ store founded => ⟨_, store, wider, rfl, .refl _, founded, .fault same⟩

theorem bind {next : α → Action β} {later : α → Except Halt β}
    (first : scene.Runs active stage cast action outcome)
    (rest : ∀ answer, scene.Runs active stage cast (next answer) (later answer)) :
    scene.Runs active stage cast (action >>= next) (outcome >>= later) := by
  intro wider more store founded
  obtain ⟨result, after, further, ran, extend, founded, alike⟩ := first wider more store founded
  cases outcome with
  | error halt =>
    obtain ⟨other, rfl, same⟩ := alike.of_error
    exact ⟨_, after, further, exec_bind_error ran, extend, founded, .error same⟩
  | ok answer =>
    obtain rfl := alike.of_ok
    obtain ⟨result, last, wide, ended, extended, founded, alike⟩ :=
      rest answer further (extend.trans more) after founded
    exact ⟨result, last, wide, (exec_bind_ok ran).trans ended, extended.trans extend, founded, alike⟩

/-- Traces and running grammars do not matter. -/
theorem after {before : Action PUnit}
    (quiet : ∀ store, ∃ after, before.exec store = (.ok (), after) ∧ after.cells = store.cells ∧
      after.assigned = store.assigned) {next : Action α}
    (rest : scene.Runs active stage cast next outcome) :
    scene.Runs active stage cast (do before; next) outcome := by
  intro wider more store founded
  obtain ⟨after, done, cells, assigned⟩ := quiet store
  rw [exec_bind_ok done]
  exact rest wider more after (founded.congr cells assigned)

theorem record (event : Event) {next : Action α} (rest : scene.Runs active stage cast next outcome) :
    scene.Runs active stage cast (do Action.record event; next) outcome :=
  rest.after fun store => ⟨store.record event, rfl, rfl, rfl⟩

/-- What depends on the store only in what it records. -/
theorem reading {next : Store → Action α}
    (rest : ∀ store, scene.Runs active stage cast (next store) outcome) :
    scene.Runs active stage cast (do next (← get)) outcome :=
  fun wider more store founded => rest store wider more store founded

/-- Names do not matter. -/
theorem naming {grammar : Grammar} {next : String → Action α}
    (rest : ∀ name, scene.Runs active stage cast (next name) outcome) :
    scene.Runs active stage cast (do next (← nameOf grammar)) outcome :=
  fun wider more store founded => rest (store.nameOf grammar.tag) wider more store founded

theorem owning {runner : Runner} {rule : Rule} {text : Text} {start : Int}
    {outcome : Except Halt (Option Match)}
    (runs : scene.Runs active stage cast (runner rule text start) outcome) :
    scene.Runs active stage cast (runner.owning rule text start) outcome := by
  intro wider more store founded
  obtain ⟨result, after, further, ran, extend, founded, alike⟩ :=
    runs wider more { store with running := rule :: store.running } (founded.congr rfl rfl)
  refine ⟨result, { after with running := after.running.tail }, further, ?_, extend,
    founded.congr rfl rfl, alike⟩
  rw [Runner.owning, exec_bind_ok (exec_modify _ _), exec_ensuring, ran]

section Loops
variable {attempt : Int → Action (Option Match)} {plan : Int → Except Halt (Option Match)}

theorem repeatFrom (runs : ∀ start, scene.Runs active stage cast (attempt start) (plan start))
    (kind : Kind) (size bound : Nat) (position : Int) (found : Array Match) :
    scene.Runs active stage cast (Runner.repeatFrom attempt kind size bound position found)
      (Player.repeatFrom plan kind size bound position found) := by
  induction bound generalizing position found with
  | zero => exact fun wider _ store founded => ⟨_, store, wider, rfl, .refl _, founded, .refl _⟩
  | succ bound ih =>
    refine (runs position).bind fun answer => ?_
    cases answer with
    | none => exact .pure _
    | some next =>
      refine (ofExcept _).bind fun stop => ?_
      split
      · exact .pure _
      · exact ih _ _

theorem repeatTimes (runs : ∀ start, scene.Runs active stage cast (attempt start) (plan start))
    (kind : Kind) (size count : Nat) (position : Int) (found : Array Match) :
    scene.Runs active stage cast (Runner.repeatTimes attempt kind size count position found)
      (Player.repeatTimes plan kind size count position found) := by
  induction count generalizing position found with
  | zero => exact .pure _
  | succ count ih =>
    refine (runs position).bind fun answer => ?_
    cases answer with
    | none => exact .pure _
    | some next =>
      refine (ofExcept _).bind fun stop => ?_
      split
      · exact .pure _
      · exact ih _ _

theorem firstOf {attempt : Rule → Action (Option Match)}
    {plan : Blueprint → Except Halt (Option Match)} {awake : Key → Prop} {rules : List Rule}
    {parts : List Blueprint} (all : Rule.AllPlay scene.allowed cast awake rules parts)
    (runs : ∀ rule part, rule.Plays scene.allowed cast awake part →
      scene.Runs active stage cast (attempt rule) (plan part)) :
    scene.Runs active stage cast (Runner.firstOf attempt rules) (Player.firstOf plan parts) := by
  cases all with
  | nil => exact .pure _
  | cons first rest =>
    refine (runs _ _ first).bind fun answer => ?_
    cases answer with
    | none => exact firstOf rest runs
    | some found => exact .pure _

end Loops

end Runs

/-- A runner that comes to what a player does, in whatever stores. -/
def Obeys (scene : Scene) (runner : Runner) (player : Player) : Prop :=
  ∀ {active stage cast rule part}, rule.Plays scene.allowed cast (0 < active ·) part →
    ∀ text start, scene.Runs active stage cast (runner rule text start)
      (player active stage part text start)

namespace Founded
variable {store : Store} {cell : CellId} {target : Target}

theorem updateCell (founded : scene.Founded active stage cast store) (known : cast cell = some target)
    {counts : Key → Nat} (change : Nat → Nat)
    (counted : change (active target.key) = counts target.key)
    (others : ∀ key, key ≠ target.key → counts key = active key) :
    scene.Founded counts stage cast
      (store.updateCell cell fun slot => { slot with active := change slot.active }) where
  toStaged := by
    refine founded.toStaged.updateCell known ((founded.performs known).congr rfl rfl rfl rfl rfl) ?_ others
      id fun _ => id
    rw [founded.counted known, counted]
  idle other := by
    rw [Store.cellAt_updateCell]
    split
    · exact founded.idle other
    · exact founded.idle other

/-- An invocation begins. -/
theorem entered (founded : scene.Founded active stage cast store) (known : cast cell = some target) :
    scene.Founded (target.key.enter active) stage cast
      (store.updateCell cell fun slot => { slot with active := slot.active + 1 }) :=
  founded.updateCell known (· + 1) (by simp [Key.enter]) fun key other => by simp [Key.enter, other]

/-- An invocation ends. -/
theorem left (founded : scene.Founded (target.key.enter active) stage cast store)
    (known : cast cell = some target) :
    scene.Founded active stage cast
      (store.updateCell cell fun slot => { slot with active := slot.active - 1 }) :=
  founded.updateCell known (· - 1) (by simp [Key.enter]) fun key other => by simp [Key.enter, other]

/-- New cells do not matter. -/
theorem grown {next : Store} (founded : scene.Founded active stage cast store)
    (grown : store.Grown next) : scene.Founded active stage cast next where
  toStaged := founded.toStaged.grown grown
  idle cell := by
    rcases Nat.lt_or_ge cell store.cells.size with inside | outside
    · rw [grown.cells cell inside]
      exact founded.idle cell
    · exact (grown.rests cell outside).building

end Founded

theorem stay_entered {base : Store} {target : Target} (stay : target.outer.Stay (0 < active ·)) :
    (target.names base).Stay (0 < target.key.enter active ·) := by
  have later key (awake : 0 < active key) : 0 < target.key.enter active key := by
    simp only [Key.enter]
    split
    · exact Nat.succ_pos _
    · exact awake
  cases target with
  | base cell =>
    intro entry member
    rw [Target.names] at member
    split at member
    · obtain ⟨_, _, rfl⟩ := List.mem_map.mp member
      trivial
    · cases member
  | inner key =>
    rintro entry (_ | ⟨_, member⟩)
    · exact (by simp [Key.enter] : 0 < key.enter active key)
    · exact (stay entry member).mono later

section Step
variable {runner : Runner} {player : Player} (obeys : scene.Obeys runner player)
include obeys

/-- A definition is run as an invocation of its cell. -/
theorem Obeys.enter {cell : CellId} {target : Target} (known : cast cell = some target) {rule : Rule}
    {body : Blueprint} (plays : rule.Plays scene.allowed cast (0 < target.key.enter active ·) body)
    (text : Text) (start : Int) :
    scene.Runs active stage cast (runner.enter cell rule text start) (do
      if let some limit := target.limit scene.base then
        if limit ≤ active target.key then .error (.fault (.tooDeep (target.title scene.base) limit start))
      player (target.key.enter active) stage body text start) := by
  intro wider more store founded
  have counted := founded.counted (more known)
  have slot := founded.performs (more known)
  have within : ∃ result after further, (do
      Action.updateCell cell fun slot => { slot with active := slot.active + 1 }
      Action.record (.entered cell)
      ensuring (runner rule text start) fun store =>
        (store.updateCell cell fun slot => { slot with active := slot.active - 1 }).record
          (.left cell) : Action (Option Match)).exec store = (result, after) ∧ further.Extends wider ∧
      scene.Founded active stage further after ∧
        Alike result (player (target.key.enter active) stage body text start) := by
    have begun : scene.Founded (target.key.enter active) stage wider
        ((store.updateCell cell fun slot => { slot with active := slot.active + 1 }).record
          (.entered cell)) := (founded.entered (more known)).congr rfl rfl
    obtain ⟨result, after, further, ran, extend, ended, alike⟩ := obeys plays text start wider more _ begun
    have finished : scene.Founded active stage further
        ((after.updateCell cell fun slot => { slot with active := slot.active - 1 }).record
          (.left cell)) := (ended.left (extend (more known))).congr rfl rfl
    refine ⟨result, _, further, ?_, extend, finished, alike⟩
    · rw [exec_bind_ok (exec_updateCell _ _ _), exec_bind_ok (exec_record _ _), exec_ensuring, ran]
  rw [Runner.enter, exec_bind_ok (exec_cellAt cell store), slot.limit, slot.title, counted]
  cases target.limit scene.base with
  | none => exact within
  | some limit =>
    dsimp only
    split
    · exact ⟨_, store, wider, rfl, .refl _, founded, .fault rfl⟩
    · exact within

theorem Obeys.invoke {cell : CellId} {target : Target} (known : cast cell = some target)
    (stay : target.outer.Stay (0 < active ·)) (text : Text) (start : Int) :
    scene.Runs active stage cast (runner.invoke cell text start)
      (Player.step scene.base player active stage (.invoke target) text start) := by
  intro wider more store founded
  have resolved := founded.resolve (more known) runner
  rw [Runner.invoke, Player.step]
  dsimp only
  rcases drafted : target.definition scene.base with fault | body <;> rw [drafted] at resolved
  · obtain ⟨cause, after, failed, founded, same⟩ := resolved
    exact ⟨_, after, wider, exec_bind_error failed, .refl _, founded, .fault same⟩
  · obtain ⟨rule, after, further, answered, extend, founded, plays⟩ := resolved
    rw [exec_bind_ok answered]
    obtain ⟨result, last, wide, ran, extended, founded, alike⟩ := obeys.enter (extend (more known))
      (plays.mono (.refl _) fun key awake => awake _ (stay_entered stay)) text start further (.refl _)
      after founded
    exact ⟨result, last, wide, ran, extended.trans extend, founded, alike⟩

omit obeys in
/-- What is made in the course of a run is out of reach when what it was made for has ended. -/
theorem Runs.evaluating {scope : Scope} {names : Names} (plays : scope.Plays cast names)
    (stay : names.Stay (0 < active ·)) (nested : names.Nested) {expression : Expression}
    (plain : expression.Plain (names.Knows scene.allowed)) {next : Operand → Action α}
    {later : Draft → Except Halt α}
    (rest : ∀ cast operand draft, operand.Plays scene cast (0 < active ·) draft →
      scene.Runs active (stage + 1) cast (next operand) (later draft)) :
    scene.Runs active stage cast (expression.evaluate scope >>= next)
      ((expression.drafted scene.base.globals (.stage stage) names).mapError .fault >>= later) := by
  intro wider more store founded
  let shop : Workshop := ⟨scene, active, stage + 1, .stage stage⟩
  have low {cell target} (known : wider cell = some target) : target.key.level ≤ stage + 1 :=
    Nat.le_succ_of_le (founded.level known)
  have ready : shop.Ready wider 0 store := by
    refine ⟨(founded.later (Nat.le_succ _)).toStaged, fun {cell target index} known same => ?_,
      Nat.le_refl _, .inl ⟨stage, rfl⟩⟩
    have level := founded.level known
    rw [same] at level
    exact absurd level (Nat.not_succ_le_self _)
  have stands : shop.Stands wider (0 < active ·) scope names :=
    ⟨(plays.mono more).mono (Cast.upTo_extends low), stay, nested⟩
  have evaluates := Workshop.follows_evaluate stands expression plain wider (.refl _) store 0 ready
  rw [Expression.drafted, StateT.run'_eq]
  rcases planned : (expression.draft scene.base.globals (.stage stage) names).run 0 with
    fault | ⟨draft, later⟩ <;> rw [planned] at evaluates
  · obtain ⟨cause, after, failed, grown, same⟩ := evaluates
    exact ⟨_, after, wider, exec_bind_error failed, .refl _, founded.grown grown, .fault same⟩
  · obtain ⟨operand, after, further, evaluated, grown, extend, ready, plays⟩ := evaluates
    rw [exec_bind_ok evaluated]
    obtain ⟨result, last, wide, ran, extended, ended, alike⟩ := rest further operand draft
      (plays.mono (Cast.extends_upTo _ _) fun _ => id) further (.refl _) after
      ⟨ready.toStaged, (founded.grown grown).idle⟩
    refine ⟨result, last, wide.upTo stage, ran, fun cell target known => ?_,
      ended.earlier fun key high => founded.silent_above high, alike⟩
    exact Cast.upTo_eq_some.mpr ⟨extended (extend known), founded.level known⟩

/-- One level of a run. -/
theorem Obeys.step : scene.Obeys (Runner.step runner) (Player.step scene.base player) := by
  intro active stage cast rule part plays text start
  cases plays with
  | leaf recognise => exact .ofExcept _
  | object tag traced body =>
    refine .record _ ?_
    dsimp only
    split
    · exact .reading fun store => .record _ (obeys body text start)
    · exact obeys body text start
  | sequence kind other first second =>
    refine (obeys first text start).bind fun answer => ?_
    cases answer with
    | none => exact .pure _
    | some found =>
      refine (Runs.ofExcept _).bind fun stop => (obeys second text stop).bind fun answer => ?_
      cases answer with
      | none => exact .pure _
      | some next => exact (Runs.ofExcept _).bind fun both => .pure _
  | orElse first second =>
    refine (obeys first text start).bind fun answer => ?_
    cases answer with
    | none => exact obeys second text start
    | some found => exact .pure _
  | either all => exact .firstOf all fun _ _ plays => obeys plays text start
  | optional kind operand =>
    refine (obeys operand text start).bind fun answer => ?_
    cases answer with
    | none => exact .pure _
    | some found => exact .pure _
  | many kind tag operand =>
    refine (Runs.repeatFrom (obeys operand text) _ _ _ _ _).bind fun all => ?_
    refine .reading fun store => ?_
    dsimp only
    split
    · exact .record _ (.pure _)
    · exact .pure _
  | oneOrMore kind operand =>
    refine (obeys operand text start).bind fun answer => ?_
    cases answer with
    | none => exact .pure _
    | some first =>
      refine (Runs.ofExcept _).bind fun stop => ?_
      dsimp only
      split
      · exact .pure _
      · exact (Runs.repeatFrom (obeys operand text) _ _ _ _ _).bind fun all => .pure _
  | times kind count operand =>
    refine (Runs.repeatTimes (obeys operand text) _ _ _ _ _).bind fun answer => ?_
    cases answer with
    | none => exact .pure _
    | some all => exact .pure _
  | separated kind first rest =>
    refine (obeys first text start).bind fun answer => ?_
    cases answer with
    | none => exact .pure _
    | some found =>
      refine (Runs.ofExcept _).bind fun stop => ?_
      exact (Runs.repeatFrom (obeys rest text) _ _ _ _ _).bind fun all => .pure _
  | captured kind operand =>
    refine (obeys operand text start).bind fun answer => ?_
    cases answer with
    | none => exact .pure _
    | some found => exact (Runs.ofExcept _).bind fun stop => .pure _
  | valued value operand =>
    refine (obeys operand text start).bind fun answer => ?_
    cases answer with
    | none => exact .pure _
    | some found => exact .pure _
  | erased operand =>
    refine (obeys operand text start).bind fun answer => ?_
    cases answer with
    | none => exact .pure _
    | some found => exact (Runs.ofExcept _).bind fun stop => .pure _
  | map transform operand =>
    refine (obeys operand text start).bind fun answer => ?_
    cases answer with
    | none => exact .pure _
    | some found =>
      exact (Runs.ofExcept _).bind fun value => (Runs.ofExcept _).bind fun result => .pure _
  | filter accept operand =>
    refine (obeys operand text start).bind fun answer => ?_
    cases answer with
    | none => exact .pure _
    | some found =>
      exact (Runs.ofExcept _).bind fun value => (Runs.ofExcept _).bind fun holds => .pure _
  | bind plays stay nested plain operand =>
    refine (obeys operand text start).bind fun answer => ?_
    cases answer with
    | none => exact .pure _
    | some found =>
      refine (Runs.ofExcept _).bind fun value => .evaluating plays stay nested (plain value) ?_
      intro cast operand draft plays
      cases plays with
      | raw value => exact .fail rfl
      | grammar made => exact .owning (obeys made.body _ _)
  | retaining held operand => exact obeys operand text start
  | recursive known stay => exact obeys.invoke known stay text start
  | @placeholder cell _ known stays stay =>
    intro wider more store founded
    have same : (Runner.step runner (.placeholder cell) text start).exec store =
        (runner.invoke cell text start).exec store := by
      rw [Runner.step, exec_bind_ok (exec_get store), founded.toStaged.isOwned (more known) stays]
      rfl
    rw [same]
    exact obeys.invoke known stay text start wider more store founded

end Step

/-- Rules run as their blueprints do. -/
theorem obeys_run (scene : Scene) (fuel : Nat) :
    scene.Obeys (Rule.run fuel) (Blueprint.run scene.base fuel) := by
  induction fuel with
  | zero =>
    intro active stage cast rule part plays text start wider more store founded
    exact ⟨_, store, wider, rfl, .refl _, founded, .refl _⟩
  | succ fuel ih => exact ih.step

end Scene

end TextGrammar
