import TextGrammar.Proofs.Assembly
import TextGrammar.Proofs.Invocations

/-! What holds of everything that happens in a session. A conduct says what is known of the store at
any moment, how the store before something is related to the store after it, and which cells the
grammars in use may own. It only has to be shown for the few ways in which the engine changes a
store; evaluations, runs and commands then keep to it, whatever they are and however they end. -/

namespace TextGrammar
open TextGrammar.Action

/-- An event that tells of no change to a cell. -/
def Event.Passing : Event → Prop
  | .started _ | .tried _ _ | .repeated _ _ _ | .lowered _ _ => True
  | .resolved _ _ | .entered _ | .left _ | .refused _ => False

namespace Store

/-- Nothing has changed that grammars run by. -/
structure Aside (before after : Store) : Prop where
  cells : after.cells = before.cells
  assigned : after.assigned = before.assigned
  running : after.running = before.running
  trace : after.trace = before.trace

/-- A store with one more cell. -/
def withCell (store : Store) (cell : Cell) : Store := { store with cells := store.cells.push cell }

theorem cellAt_withCell (store : Store) (cell : Cell) (other : CellId) :
    (store.withCell cell).cellAt other =
      if other = store.cells.size then cell else store.cellAt other :=
  cellAt_push store cell store.names other

/-- A store in which the run of a grammar has begun that nothing else may own. -/
def hold (store : Store) (rule : Rule) : Store := { store with running := rule :: store.running }

/-- A store in which the latest of these runs has ended. -/
def release (store : Store) : Store := { store with running := store.running.tail }

end Store

/-- The last cell is changed as it is made. -/
theorem Store.modify_push (cells : Array Cell) (slot : Cell) (change : Cell → Cell) :
    (cells.push slot).modify cells.size change = cells.push (change slot) := by
  apply Array.ext
  · simp
  · intro index _ _
    simp only [Array.getElem_modify, Array.getElem_push]
    split
    next same => simp [← same]
    next other =>
      split
      · rfl
      · exact absurd (by simp_all; omega) other

/-- What is expected of everything that happens. -/
structure Conduct where
  /-- The cells that grammars in use may own. -/
  free : CellId → Prop
  /-- What is known of a store at any moment. -/
  sound : Store → Prop
  /-- How a store at some moment is related to a later one. -/
  leads : Store → Store → Prop

namespace Conduct
variable {conduct : Conduct} {α β : Type}

/-- A change that does no harm. -/
structure Allows (conduct : Conduct) (before after : Store) : Prop where
  sound : conduct.sound after
  leads : conduct.leads before after

/-- What has to be shown of a conduct. -/
structure Lawful (conduct : Conduct) : Prop where
  refl : ∀ store, conduct.leads store store
  trans : ∀ {first second third}, conduct.leads first second → conduct.leads second third →
    conduct.leads first third
  aside : ∀ {before after}, conduct.sound before → before.Aside after → conduct.Allows before after
  record : ∀ {store event}, conduct.sound store → event.Passing →
    conduct.Allows store (store.record event)
  refuse : ∀ {store cell}, conduct.sound store → store.isOwned cell = false →
    conduct.Allows store (store.record (.refused cell))
  assigned : ∀ {store name operand}, conduct.sound store → store.assigned? name = some operand →
    operand.OwnsOnly conduct.free
  defined : ∀ {store cell rule}, conduct.sound store → conduct.free cell →
    (store.cellAt cell).definition = some rule → rule.OwnsOnly conduct.free
  bound : ∀ {store cell builder}, conduct.sound store → conduct.free cell →
    (store.cellAt cell).builder = some builder → builder.scope.OwnsOnly conduct.free
  owned : ∀ {store cell}, conduct.sound store → store.isOwned cell = true → conduct.free cell
  make : ∀ {store} name kind limit {builder}, conduct.sound store → builder.scope.OwnsOnly conduct.free →
    conduct.free store.cells.size ∧
      conduct.Allows store (store.withCell { name, kind, limit, builder := some builder })
  assign : ∀ {store} name {operand}, conduct.sound store → operand.OwnsOnly conduct.free →
    conduct.Allows store (store.assign name operand)
  forget : ∀ {store} name, conduct.sound store → conduct.Allows store (store.forget name)
  hold : ∀ {store rule}, conduct.sound store → rule.OwnsOnly conduct.free →
    conduct.sound (store.hold rule) ∧ ∀ {after}, conduct.Allows (store.hold rule) after →
      conduct.Allows store after.release
  build : ∀ {store cell}, conduct.sound store → conduct.free cell →
    (store.cellAt cell).definition = none → (store.cellAt cell).building = false →
    (store.cellAt cell).builder.isSome → conduct.sound (store.beginBuild cell) ∧ ∀ {after}, conduct.Allows (store.beginBuild cell) after →
      conduct.Allows store (after.endBuild cell) ∧ ∀ {rule}, rule.OwnsOnly conduct.free →
        conduct.Allows store (after.settle cell (store.cellAt cell).name rule)
  enter : ∀ {store cell}, conduct.sound store → conduct.free cell →
    conduct.sound (store.enter cell) ∧ ∀ {after}, conduct.Allows (store.enter cell) after →
      conduct.Allows store (after.leave cell)

/-- An action that keeps to a conduct, and what is known of its answer. -/
def Keeps (conduct : Conduct) (good : α → Prop) (action : Action α) : Prop :=
  ∀ store, conduct.sound store → conduct.Allows store (action.exec store).2 ∧
    ∀ answer, (action.exec store).1 = .ok answer → good answer

/-- A runner that keeps to a conduct with all the rules that it may be given. -/
def Runs (conduct : Conduct) (runner : Runner) : Prop :=
  ∀ rule text start, rule.OwnsOnly conduct.free → conduct.Keeps (fun _ => True) (runner rule text start)

namespace Lawful
variable {good : α → Prop} {fine : β → Prop} {action : Action α} {next : α → Action β}
  (lawful : conduct.Lawful)
include lawful

theorem pure {answer : α} (holds : good answer) : conduct.Keeps good (Pure.pure answer : Action α) := by
  intro store sound
  refine ⟨⟨sound, lawful.refl _⟩, fun other same => ?_⟩
  cases same
  exact holds

theorem halt (halt : Halt) : conduct.Keeps good (throw halt : Action α) :=
  fun store sound => ⟨⟨sound, lawful.refl _⟩, fun _ answered => by cases answered⟩

theorem fail (fault : Fault) : conduct.Keeps good (Action.fail fault : Action α) := lawful.halt _

/-- What would follow a fault makes no difference. -/
theorem fail_bind (fault : Fault) {next : α → Action β} :
    conduct.Keeps fine (Action.fail fault >>= next) :=
  fun _ sound => ⟨⟨sound, lawful.refl _⟩, fun _ answered => by cases answered⟩

theorem ofExcept (outcome : Except Fault α) : conduct.Keeps (fun _ => True) (Action.ofExcept outcome) := by
  cases outcome with
  | error fault => exact lawful.fail fault
  | ok answer => exact lawful.pure trivial

theorem get : conduct.Keeps conduct.sound (MonadState.get : Action Store) := by
  intro store sound
  refine ⟨⟨sound, lawful.refl _⟩, fun other same => ?_⟩
  cases same
  exact sound

theorem log {event : Event} (passing : event.Passing) : conduct.Keeps (fun _ => True) (Action.record event) :=
  fun _ sound => ⟨lawful.record sound passing, fun _ _ => trivial⟩

theorem bind (first : conduct.Keeps good action)
    (rest : ∀ answer, good answer → conduct.Keeps fine (next answer)) :
    conduct.Keeps fine (action >>= next) := by
  intro store sound
  obtain ⟨allowed, holds⟩ := first store sound
  rw [exec_bind]
  rcases ended : action.exec store with ⟨halt | answer, after⟩ <;> rw [ended] at allowed holds
  · exact ⟨allowed, fun _ answered => by cases answered⟩
  · obtain ⟨further, result⟩ := rest answer (holds answer rfl) after allowed.sound
    exact ⟨⟨further.sound, lawful.trans allowed.leads further.leads⟩, result⟩

theorem map (first : conduct.Keeps good action) {change : α → β}
    (rest : ∀ answer, good answer → fine (change answer)) : conduct.Keeps fine (change <$> action) := by
  rw [map_eq_pure_bind]
  exact lawful.bind first fun answer holds => lawful.pure (rest answer holds)

/-- Putting grammars together changes names only. -/
theorem assembles (assembles : action.Assembles good) : conduct.Keeps good action := by
  intro store sound
  obtain ⟨⟨names, same⟩, holds⟩ := assembles store
  refine ⟨?_, holds⟩
  rw [same]
  exact lawful.aside sound ⟨rfl, rfl, rfl, rfl⟩

omit lawful in
theorem attempt (first : conduct.Keeps good action) : conduct.Keeps (fun _ => True) (Action.attempt action) := by
  intro store sound
  obtain ⟨allowed, -⟩ := first store sound
  rw [exec_attempt]
  rcases ended : action.exec store with ⟨(_ | _) | answer, last⟩ <;> rw [ended] at allowed <;>
    exact ⟨allowed, fun _ _ => trivial⟩

section Evaluation

theorem lookUp {scope : Scope} (owns : scope.OwnsOnly conduct.free) (name : String) :
    conduct.Keeps (Operand.OwnsOnly conduct.free) (lookUp scope name) := by
  unfold TextGrammar.lookUp
  cases found : scope.lookup name with
  | some placeholder => exact lawful.pure (owns.lookup found)
  | none =>
    refine lawful.bind lawful.get fun store sound => ?_
    cases known : store.assigned? name with
    | some operand => exact lawful.pure (lawful.assigned sound known)
    | none => exact lawful.fail _

theorem lookUpAll {scope : Scope} (owns : scope.OwnsOnly conduct.free) (names : List String) :
    conduct.Keeps (fun operands => ∀ operand ∈ operands, operand.OwnsOnly conduct.free)
      (names.mapM (TextGrammar.lookUp scope)) := by
  induction names with
  | nil => exact lawful.pure (by simp)
  | cons name rest ih =>
    rw [List.mapM_cons]
    refine lawful.bind (lawful.lookUp owns name) fun _ one => lawful.bind ih fun _ others => lawful.pure ?_
    exact List.forall_mem_cons.mpr ⟨one, others⟩

/-- A recursive grammar owns its cell, which is a new one. -/
theorem recursive (kind : Kind) (binder : String) (limit : Option Depth.Request) (script : Nat → Script)
    {scope : Scope} (owns : scope.OwnsOnly conduct.free) : conduct.Keeps (Grammar.OwnsOnly conduct.free)
      (Grammar.recursive kind binder limit script scope) := by
  have granted : conduct.Keeps (fun _ => True) (limit.mapM fun requested => do
      let granted ← Action.ofExcept (Depth.clamp requested Depth.reserve)
      if granted.lowered then Action.record (.lowered requested granted.limit)
      return granted.limit.toNat) := by
    cases limit with
    | none => exact lawful.pure trivial
    | some requested =>
      rw [Option.mapM_some]
      refine lawful.map (lawful.bind (lawful.ofExcept _) fun granted _ => ?_) fun _ (_ : True) => trivial
      split
      · exact lawful.bind (lawful.log trivial) fun _ _ => lawful.pure trivial
      · exact lawful.pure trivial
  simp only [Grammar.recursive, Grammar.newCell, bind_assoc]
  refine lawful.bind granted fun limit _ store sound => ?_
  let placeholder : Placeholder := { kind, tag := store.names.size, traced := store.verbose, cell := store.cells.size }
  let builder : Builder := ⟨script, (binder, placeholder) :: scope⟩
  have held : builder.scope.OwnsOnly conduct.free := by
    rwa [Scope.OwnsOnly, Scope.owned_cons_of_uncaptured rfl]
  obtain ⟨free, allowed⟩ := lawful.make s!"recursive {kind.noun}" kind limit sound held
  have later {after : Store} (aside : (store.withCell _).Aside after) : conduct.Allows store after :=
    have named := lawful.aside allowed.sound aside
    ⟨named.sound, lawful.trans allowed.leads named.leads⟩
  refine ⟨later ⟨?_, rfl, rfl, rfl⟩, fun made answered => ?_⟩
  · exact Store.modify_push store.cells { name := s!"recursive {kind.noun}", kind, limit }
      ({ · with builder := some builder })
  · cases answered
    intro cell owned
    obtain rfl := List.mem_singleton.mp owned
    exact free

/-- A grammar that is made from one operand. -/
theorem making {operand : Action Operand} {make : Grammar → Action Grammar} (member : String)
    (first : conduct.Keeps (Operand.OwnsOnly conduct.free) operand)
    (assembles : ∀ made : Grammar, made.OwnsOnly conduct.free →
      (make made).Assembles (Grammar.OwnsOnly conduct.free)) :
    conduct.Keeps (Operand.OwnsOnly conduct.free)
      (do return .grammar (← make (← (← operand).asGrammar member))) :=
  lawful.bind first fun _ owns => lawful.assembles <|
    (Operand.asGrammar_assembles member owns).bind fun made grammar =>
      (assembles made grammar).bind fun _ whole => .pure whole

mutual

theorem evaluate {scope : Scope} (owns : scope.OwnsOnly conduct.free) (expression : Expression) :
    conduct.Keeps (Operand.OwnsOnly conduct.free) (expression.evaluate scope) := by
  cases expression with
  | raw value => exact lawful.pure (Operand.ownsOnly_raw value)
  | «variable» name => exact lawful.lookUp owns name
  | invalid fault => exact lawful.fail fault
  | leaf kind name recognise =>
    exact lawful.assembles (Operand.made_assembles (.newGrammar _ _ (Rule.ownsOnly_leaf _)))
  | constant shared => exact lawful.pure shared.ownsOnly
  | followedBy first second =>
    rw [Expression.evaluate]
    refine lawful.bind (evaluate owns first) fun _ one => ?_
    refine lawful.bind (evaluate owns second) fun _ two => lawful.assembles ?_
    exact (Operand.asGrammar_assembles _ one).bind fun _ made =>
      (Grammar.followedBy_assembles made two).bind fun _ whole => .pure whole
  | sum first second =>
    rw [Expression.evaluate]
    refine lawful.bind (evaluate owns first) fun _ one => ?_
    refine lawful.bind (evaluate owns second) fun _ two => ?_
    exact lawful.assembles (Operand.sum_assembles one two)
  | orElse first second =>
    rw [Expression.evaluate]
    refine lawful.bind (evaluate owns first) fun _ one => ?_
    refine lawful.bind (evaluate owns second) fun _ two => lawful.assembles ?_
    exact (Operand.asGrammar_assembles _ one).bind fun _ made =>
      (Grammar.orElse_assembles made two).bind fun _ whole => .pure whole
  | union first second =>
    rw [Expression.evaluate]
    refine lawful.bind (evaluate owns first) fun _ one => ?_
    refine lawful.bind (evaluate owns second) fun _ two => ?_
    exact lawful.assembles (Operand.union_assembles one two)
  | either kind alternatives =>
    rw [Expression.evaluate]
    refine lawful.bind (evaluateAll owns alternatives) fun _ all => lawful.assembles ?_
    exact (Grammar.either_assembles kind all).bind fun _ whole => .pure whole
  | optional operand =>
    rw [Expression.evaluate]
    exact lawful.making _ (evaluate owns operand) fun made given =>
      made.around_assembles _ _ (by exact given)
  | many operand =>
    rw [Expression.evaluate]
    exact lawful.making _ (evaluate owns operand) fun made given =>
      made.around_assembles _ _ (by exact given)
  | oneOrMore operand =>
    rw [Expression.evaluate]
    exact lawful.making _ (evaluate owns operand) fun made given =>
      made.around_assembles _ _ (by exact given)
  | times operand count =>
    rw [Expression.evaluate]
    refine lawful.bind (evaluate owns operand) fun _ given => ?_
    exact lawful.assembles (Operand.times_assembles count given)
  | separatedBy operand separator =>
    rw [Expression.evaluate]
    refine lawful.bind (evaluate owns operand) fun _ one => ?_
    refine lawful.bind (evaluate owns separator) fun _ two => lawful.assembles ?_
    exact (Operand.asGrammar_assembles _ one).bind fun _ made =>
      (Grammar.separatedBy_assembles made two).bind fun _ whole => .pure whole
  | captured operand =>
    rw [Expression.evaluate]
    exact lawful.making _ (evaluate owns operand) fun made given =>
      made.around_assembles _ _ (by exact given)
  | capturedPattern operand =>
    rw [Expression.evaluate]
    refine lawful.bind (evaluate owns operand) fun _ given => lawful.assembles ?_
    exact (Grammar.asPattern_assembles given).bind fun made pattern =>
      (made.around_assembles _ _ (by exact pattern)).bind fun _ whole => .pure whole
  | returning operand value =>
    rw [Expression.evaluate]
    exact lawful.making _ (evaluate owns operand) fun _ => Grammar.returning_assembles value
  | valueFor operand value =>
    rw [Expression.evaluate]
    refine lawful.bind (evaluate owns operand) fun _ given => lawful.assembles ?_
    exact (Grammar.valueFor_assembles value given).bind fun _ whole => .pure whole
  | erased operand =>
    rw [Expression.evaluate]
    exact lawful.making _ (evaluate owns operand) fun made given =>
      made.ofParser_assembles _ _ _ (by exact given)
  | negated operand =>
    rw [Expression.evaluate]
    refine lawful.bind (evaluate owns operand) fun _ given => ?_
    exact lawful.assembles (Operand.negated_assembles given)
  | map operand transform =>
    rw [Expression.evaluate]
    exact lawful.making _ (evaluate owns operand) fun made given =>
      made.ofParser_assembles _ _ _ (by exact given)
  | shifted operand transform functionType =>
    rw [Expression.evaluate]
    refine lawful.bind (evaluate owns operand) fun _ given => ?_
    exact lawful.assembles (Operand.shifted_assembles transform functionType given)
  | filter operand accept =>
    rw [Expression.evaluate]
    exact lawful.making _ (evaluate owns operand) fun made given =>
      made.ofParser_assembles _ _ _ (by exact given)
  | bind operand continuation =>
    rw [Expression.evaluate]
    exact lawful.making _ (evaluate owns operand) fun made given =>
      made.ofParser_assembles _ _ _ (Rule.ownsOnly_bind.mpr ⟨owns, given⟩)
  | named operand name =>
    rw [Expression.evaluate]
    exact lawful.making _ (evaluate owns operand) fun _ => Grammar.named_assembles name
  | copy operand =>
    rw [Expression.evaluate]
    refine lawful.bind (evaluate owns operand) fun _ given => ?_
    exact lawful.assembles (Operand.copy_assembles given)
  | capturing names body =>
    rw [Expression.evaluate]
    exact lawful.bind (lawful.lookUpAll owns names) fun _ captured =>
      evaluate (Scope.ownsOnly_capturing captured names scope) body
  | retaining names body =>
    rw [Expression.evaluate]
    refine lawful.bind (lawful.lookUpAll owns names) fun operands captured => ?_
    refine lawful.bind (evaluate owns body) fun _ given => lawful.pure (given.retaining fun cell held => ?_)
    obtain ⟨operand, member, owned⟩ := List.mem_flatMap.mp held
    exact captured operand member cell owned
  | recursive kind binder limit script =>
    rw [Expression.evaluate]
    exact lawful.map (lawful.recursive kind binder limit script owns) fun _ => id

theorem evaluateAll {scope : Scope} (owns : scope.OwnsOnly conduct.free) (expressions : List Expression) :
    conduct.Keeps (fun operands => ∀ operand ∈ operands, operand.OwnsOnly conduct.free)
      (Expression.evaluateAll scope expressions) := by
  cases expressions with
  | nil => exact lawful.pure (by simp)
  | cons first rest =>
    rw [Expression.evaluateAll]
    refine lawful.bind (evaluate owns first) fun _ one => ?_
    refine lawful.bind (evaluateAll owns rest) fun _ others => lawful.pure ?_
    intro operand member
    obtain rfl | member := List.mem_cons.mp member
    · exact one
    · exact others operand member

end

end Evaluation

section Runs
variable {runner : Runner} (runs : conduct.Runs runner)
include runs

theorem owning {rule : Rule} (owns : rule.OwnsOnly conduct.free) (text : Text) (start : Int) :
    conduct.Keeps (fun _ => True) (runner.owning rule text start) := by
  intro store sound
  obtain ⟨held, released⟩ := lawful.hold sound owns
  exact ⟨released (runs rule text start owns _ held).1, fun _ _ => trivial⟩

theorem matchFrom {operand : Operand} (owns : operand.OwnsOnly conduct.free) (text : Text) (start : Int) :
    conduct.Keeps (fun _ => True) (runner.matchFrom operand text start) := by
  refine lawful.bind (lawful.assembles (Operand.asGrammar_assembles _ owns)) fun _ made => ?_
  exact lawful.bind (lawful.ofExcept _) fun _ _ => lawful.owning runs made text start

theorem perform {scope : Scope} (owns : scope.OwnsOnly conduct.free) (script : Script) :
    conduct.Keeps (Operand.OwnsOnly conduct.free) (runner.perform scope script) := by
  cases script with
  | finish definition => exact lawful.evaluate owns definition
  | tally label rest =>
    rw [Runner.perform]
    have counted : conduct.Keeps (fun _ => True)
        (modify fun store => { store with tallies := label :: store.tallies } : Action PUnit) :=
      fun _ sound => ⟨lawful.aside sound ⟨rfl, rfl, rfl, rfl⟩, fun _ _ => trivial⟩
    exact lawful.bind counted fun _ _ => perform owns rest
  | leak name subject rest =>
    rw [Runner.perform]
    refine lawful.bind (lawful.evaluate owns subject) fun operand given => ?_
    have assigned : conduct.Keeps (fun _ => True) (modify (Store.assign name operand) : Action PUnit) :=
      fun _ sound => ⟨lawful.assign name sound given, fun _ _ => trivial⟩
    exact lawful.bind assigned fun _ _ => perform owns rest
  | attempt subject text start rest =>
    rw [Runner.perform]
    refine lawful.bind (attempt (lawful.bind (lawful.evaluate owns subject) fun _ given =>
      lawful.matchFrom runs given text start)) fun outcome _ => ?_
    exact perform owns (rest outcome)

theorem calling (slot : Cell) {builder : Builder} (held : builder.scope.OwnsOnly conduct.free) :
    conduct.Keeps (Rule.OwnsOnly conduct.free) (runner.calling slot builder) :=
  lawful.bind (lawful.perform runs held _) fun _ owns =>
    lawful.assembles (Runner.definitionRule_assembles slot owns)

/-- A definition that is built is one of the definitions that grammars may run by. -/
theorem resolve {cell : CellId} (free : conduct.free cell) :
    conduct.Keeps (Rule.OwnsOnly conduct.free) (runner.resolve cell) := by
  intro store sound
  cases defined : (store.cellAt cell).definition with
  | some rule =>
    rw [Runner.exec_resolve defined]
    exact lawful.pure (lawful.defined sound free defined) store sound
  | none =>
    cases idle : (store.cellAt cell).building with
    | true =>
      rw [Runner.exec_resolve_building defined idle]
      exact lawful.fail _ store sound
    | false =>
      cases held : (store.cellAt cell).builder with
      | none =>
        rw [Runner.exec_resolve_unbound defined idle held]
        exact lawful.fail _ store sound
      | some builder =>
        obtain ⟨begun, ends⟩ := lawful.build sound free defined idle (by simp [held])
        obtain ⟨allowed, holds⟩ := lawful.calling runs ((store.beginBuild cell).cellAt cell)
          (lawful.bound sound free held) _ begun
        obtain ⟨failed, settled⟩ := ends allowed
        rw [Runner.exec_resolve_unbuilt defined idle held]
        rcases called : (runner.calling ((store.beginBuild cell).cellAt cell) builder).exec
          (store.beginBuild cell) with ⟨halt | rule, after⟩ <;> rw [called] at failed settled holds
        · exact ⟨failed, fun _ answered => by cases answered⟩
        · refine ⟨settled (holds rule rfl), fun other answered => ?_⟩
          cases answered
          exact holds rule rfl

theorem enters {cell : CellId} (free : conduct.free cell) {rule : Rule} (owns : rule.OwnsOnly conduct.free)
    (text : Text) (start : Int) : conduct.Keeps (fun _ => True) (runner.enter cell rule text start) := by
  intro store sound
  obtain ⟨entered, left⟩ := lawful.enter sound free
  have ran := left (runs rule text start owns _ entered).1
  rw [Runner.enter, exec_bind_ok (exec_cellAt cell store)]
  cases (store.cellAt cell).limit with
  | none => exact ⟨ran, fun _ _ => trivial⟩
  | some limit =>
    dsimp only
    split
    · exact lawful.fail_bind _ store sound
    · exact ⟨ran, fun _ _ => trivial⟩

theorem invoke {cell : CellId} (free : conduct.free cell) (text : Text) (start : Int) :
    conduct.Keeps (fun _ => True) (runner.invoke cell text start) :=
  lawful.bind (lawful.resolve runs free) fun _ owns => lawful.enters runs free owns text start

theorem continueWith {scope : Scope} (owns : scope.OwnsOnly conduct.free) (expression : Expression) (text : Text) (start : Int) :
    conduct.Keeps (fun _ => True) (runner.continueWith scope expression text start) := by
  refine lawful.bind (lawful.evaluate owns expression) fun operand given => ?_
  cases operand with
  | raw value => exact lawful.fail _
  | grammar next => exact lawful.owning runs given text start

end Runs

section Loops

theorem repeatFrom {attempt : Int → Action (Option Match)}
    (keeps : ∀ start, conduct.Keeps (fun _ => True) (attempt start)) (kind : Kind) (size bound : Nat)
    (position : Int) (found : Array Match) :
    conduct.Keeps (fun _ => True) (Runner.repeatFrom attempt kind size bound position found) := by
  induction bound generalizing position found with
  | zero => exact lawful.halt _
  | succ bound ih =>
    refine lawful.bind (keeps position) fun answer _ => ?_
    cases answer with
    | none => exact lawful.pure trivial
    | some next =>
      refine lawful.bind (lawful.ofExcept _) fun stop _ => ?_
      split
      · exact lawful.pure trivial
      · exact ih _ _

theorem repeatTimes {attempt : Int → Action (Option Match)}
    (keeps : ∀ start, conduct.Keeps (fun _ => True) (attempt start)) (kind : Kind) (size count : Nat)
    (position : Int) (found : Array Match) :
    conduct.Keeps (fun _ => True) (Runner.repeatTimes attempt kind size count position found) := by
  induction count generalizing position found with
  | zero => exact lawful.pure trivial
  | succ count ih =>
    refine lawful.bind (keeps position) fun answer _ => ?_
    cases answer with
    | none => exact lawful.pure trivial
    | some next =>
      refine lawful.bind (lawful.ofExcept _) fun stop _ => ?_
      split
      · exact lawful.pure trivial
      · exact ih _ _

theorem firstOf {attempt : Rule → Action (Option Match)} {rules : List Rule}
    (keeps : ∀ rule ∈ rules, conduct.Keeps (fun _ => True) (attempt rule)) :
    conduct.Keeps (fun _ => True) (Runner.firstOf attempt rules) := by
  induction rules with
  | nil => exact lawful.pure trivial
  | cons rule rest ih =>
    refine lawful.bind (keeps rule (by simp)) fun answer _ => ?_
    cases answer with
    | none => exact ih fun other member => keeps other (by simp [member])
    | some found => exact lawful.pure trivial

/-- What goes on with a match, where there is one. -/
theorem found {action : Action (Option Match)} (first : conduct.Keeps (fun _ => True) action)
    {next : Match → Action (Option α)} (rest : ∀ found, conduct.Keeps (fun _ => True) (next found)) :
    conduct.Keeps (fun _ => True) (do
      let some found ← action | return none
      next found) := by
  refine lawful.bind first fun answer _ => ?_
  cases answer with
  | none => exact lawful.pure trivial
  | some found => exact rest found

end Loops

/-- One level of a run. -/
theorem step {runner : Runner} (runs : conduct.Runs runner) : conduct.Runs (Runner.step runner) := by
  intro rule text start owns
  cases rule with
  | leaf recognise => exact lawful.ofExcept _
  | object tag traced body =>
    have ran := runs body text start owns
    refine lawful.bind (lawful.log trivial) fun _ _ => ?_
    split
    · exact lawful.bind lawful.get fun _ _ => lawful.bind (lawful.log trivial) fun _ _ => ran
    · exact ran
  | sequence kind other first second =>
    obtain ⟨one, two⟩ := (Rule.ownsOnly_pair rfl).mp owns
    refine lawful.found (runs first text start one) fun _ => ?_
    refine lawful.bind (lawful.ofExcept _) fun stop _ => ?_
    refine lawful.found (runs second text stop two) fun _ => ?_
    exact lawful.bind (lawful.ofExcept _) fun _ _ => lawful.pure trivial
  | orElse first second =>
    obtain ⟨one, two⟩ := (Rule.ownsOnly_pair rfl).mp owns
    refine lawful.bind (runs first text start one) fun answer _ => ?_
    cases answer with
    | none => exact runs second text start two
    | some found => exact lawful.pure trivial
  | either alternatives =>
    exact lawful.firstOf fun rule member => runs rule text start (Rule.ownsOnly_either.mp owns rule member)
  | optional kind operand =>
    refine lawful.bind (runs operand text start owns) fun answer _ => ?_
    cases answer with
    | none => exact lawful.pure trivial
    | some found => exact lawful.pure trivial
  | many kind tag operand =>
    refine lawful.bind (lawful.repeatFrom (fun start => runs operand text start owns) _ _ _ _ _) fun all _ => ?_
    refine lawful.bind lawful.get fun store _ => ?_
    split
    · exact lawful.bind (lawful.log trivial) fun _ _ => lawful.pure trivial
    · exact lawful.pure trivial
  | oneOrMore kind operand =>
    refine lawful.found (runs operand text start owns) fun _ => ?_
    refine lawful.bind (lawful.ofExcept _) fun stop _ => ?_
    split
    · exact lawful.pure trivial
    · refine lawful.bind (lawful.repeatFrom (fun start => runs operand text start owns) _ _ _ _ _) ?_
      exact fun _ _ => lawful.pure trivial
  | times kind count operand =>
    refine lawful.bind (lawful.repeatTimes (fun start => runs operand text start owns) _ _ _ _ _) ?_
    intro answer _
    cases answer with
    | none => exact lawful.pure trivial
    | some all => exact lawful.pure trivial
  | separated kind first rest =>
    obtain ⟨one, two⟩ := (Rule.ownsOnly_pair rfl).mp owns
    refine lawful.found (runs first text start one) fun _ => ?_
    refine lawful.bind (lawful.ofExcept _) fun stop _ => ?_
    refine lawful.bind (lawful.repeatFrom (fun start => runs rest text start two) _ _ _ _ _) ?_
    exact fun _ _ => lawful.pure trivial
  | captured kind operand =>
    refine lawful.found (runs operand text start owns) fun _ => ?_
    exact lawful.bind (lawful.ofExcept _) fun _ _ => lawful.pure trivial
  | valued value operand =>
    exact lawful.found (runs operand text start owns) fun _ => lawful.pure trivial
  | erased operand =>
    refine lawful.found (runs operand text start owns) fun _ => ?_
    exact lawful.bind (lawful.ofExcept _) fun _ _ => lawful.pure trivial
  | map transform operand =>
    refine lawful.found (runs operand text start owns) fun _ => ?_
    refine lawful.bind (lawful.ofExcept _) fun value _ => ?_
    exact lawful.bind (lawful.ofExcept _) fun _ _ => lawful.pure trivial
  | filter accept operand =>
    refine lawful.found (runs operand text start owns) fun _ => ?_
    refine lawful.bind (lawful.ofExcept _) fun value _ => ?_
    exact lawful.bind (lawful.ofExcept _) fun _ _ => lawful.pure trivial
  | bind scope continuation operand =>
    obtain ⟨held, given⟩ := Rule.ownsOnly_bind.mp owns
    refine lawful.found (runs operand text start given) fun found => ?_
    refine lawful.bind (lawful.ofExcept _) fun value _ => ?_
    exact lawful.continueWith runs held (continuation value) text found.stop
  | retaining held operand => exact runs operand text start (Rule.ownsOnly_retaining.mp owns).2
  | recursive cell => exact lawful.invoke runs (owns cell (by simp [Rule.owned])) text start
  | placeholder cell =>
    intro store sound
    rw [Runner.step, exec_bind_ok (exec_get store)]
    cases owned : store.isOwned cell with
    | true => exact lawful.invoke runs (lawful.owned sound owned) text start store sound
    | false => exact ⟨lawful.refuse sound owned, fun _ answered => by cases answered⟩

/-- Runs keep to every conduct. -/
theorem run (fuel : Nat) : conduct.Runs (Rule.run fuel) := by
  induction fuel with
  | zero => exact fun _ _ _ _ => lawful.halt _
  | succ fuel ih => exact lawful.step ih

section Sessions

theorem describe (operand : Operand) : conduct.Keeps (fun _ => True) operand.describe :=
  lawful.assembles operand.describe_assembles

theorem runWhole {grammar : Grammar} (owns : grammar.OwnsOnly conduct.free) (text : Text) :
    conduct.Keeps (fun _ => True) (sessionRunner.runWhole grammar text) := by
  refine lawful.bind (lawful.owning (lawful.run ampleFuel) owns text 0) fun answer _ => ?_
  cases answer with
  | none => exact lawful.pure trivial
  | some found => exact lawful.bind (lawful.ofExcept _) fun _ _ => lawful.pure trivial

/-- Whatever a caller asks for keeps to every conduct. -/
theorem command (command : Command) : conduct.Keeps (fun _ => True) command.perform := by
  have evaluates (subject : Expression) :
      conduct.Keeps (Operand.OwnsOnly conduct.free) (Session.evaluate subject) := lawful.evaluate Scope.ownsOnly_nil subject
  have grammar (member : String) {operand : Operand} (owns : operand.OwnsOnly conduct.free) :=
    lawful.assembles (Operand.asGrammar_assembles member owns)
  have parser (member : String) {operand : Operand} (owns : operand.OwnsOnly conduct.free) :=
    lawful.assembles (Operand.asParser_assembles member owns)
  have named (grammar : Grammar) := lawful.assembles (Assembles.nameOf grammar)
  have runs := lawful.run ampleFuel
  have done {α : Type} {answer : α} : conduct.Keeps (fun _ => True) (Pure.pure answer : Action α) :=
    lawful.pure trivial
  have answer {α : Type} {action : Action α} {told : α → Answer}
      (first : conduct.Keeps (fun _ => True) action) :
      conduct.Keeps (fun _ => True) (do return told (← action)) := lawful.bind first fun _ _ => done
  cases command with
  | setVerbose verbose =>
    have set : conduct.Keeps (fun _ => True) (Session.setVerbose verbose) :=
      fun _ sound => ⟨lawful.aside sound ⟨rfl, rfl, rfl, rfl⟩, fun _ _ => trivial⟩
    exact lawful.bind set fun _ _ => done
  | assign name subject =>
    have assigned {operand : Operand} (owns : operand.OwnsOnly conduct.free) :
        conduct.Keeps (fun _ => True) (modify (Store.assign name operand) : Action PUnit) :=
      fun _ sound => ⟨lawful.assign name sound owns, fun _ _ => trivial⟩
    have kept : conduct.Keeps (fun _ => True) (Session.assign name subject) :=
      lawful.bind (evaluates subject) fun operand owns =>
        lawful.bind (assigned owns) fun _ _ => lawful.describe operand
    exact lawful.map kept fun _ _ => trivial
  | forget name =>
    have forgotten : conduct.Keeps (fun _ => True) (Session.forget name) :=
      fun _ sound => ⟨lawful.forget name sound, fun _ _ => trivial⟩
    exact lawful.bind forgotten fun _ _ => done
  | describe subject =>
    exact lawful.bind (evaluates subject) fun operand _ => answer (lawful.describe operand)
  | tally label =>
    have counted : conduct.Keeps (fun _ => True) (Session.tally label) :=
      lawful.bind lawful.get fun _ _ => done
    exact lawful.map counted fun _ _ => trivial
  | matchPrefix subject text start =>
    refine lawful.bind (evaluates subject) fun _ owns => answer ?_
    exact lawful.matchFrom runs owns text start
  | runAt subject text start =>
    refine lawful.bind (evaluates subject) fun _ owns => answer ?_
    exact lawful.bind (grammar _ owns) fun _ made => lawful.owning runs made text start
  | matchesAll subject text =>
    refine lawful.bind (evaluates subject) fun _ owns => answer ?_
    refine lawful.bind (grammar _ owns) fun _ made => ?_
    exact lawful.bind (lawful.runWhole made text) fun _ _ => done
  | parse subject text =>
    refine lawful.bind (evaluates subject) fun _ owns => answer ?_
    refine lawful.bind (parser _ owns) fun _ made => lawful.bind (lawful.runWhole made text) fun _ _ => ?_
    split <;> exact done
  | parseOrFail subject text =>
    refine lawful.bind (evaluates subject) fun _ owns => answer ?_
    refine lawful.bind (parser _ owns) fun _ made => lawful.bind (lawful.runWhole made text) fun _ _ => ?_
    split
    · exact lawful.bind (named _) fun _ _ => lawful.fail _
    · exact done
    · exact lawful.bind (named _) fun _ _ => lawful.fail _

/-- So does any number of commands, as far as nothing is expected of the log that is taken away
between them. -/
theorem commands (cleared : ∀ store, conduct.sound store → conduct.Allows store { store with trace := [] })
    (commands : List Command) (store : Store) (sound : conduct.sound store) :
    conduct.Allows store ((Command.performAll commands).run store).2 := by
  induction commands generalizing store with
  | nil => exact ⟨sound, lawful.refl _⟩
  | cons command rest ih =>
    have performed := (lawful.command command store sound).1
    have after := cleared _ performed.sound
    have last := ih _ after.sound
    rw [Command.performAll_cons]
    exact ⟨last.sound, lawful.trans (lawful.trans performed.leads after.leads) last.leads⟩

end Sessions

end Lawful

end Conduct

end TextGrammar
