import TextGrammar.Proofs.Histories
import TextGrammar.Proofs.StagedRuns

/-! What a session comes to is determined by the store that it starts with, as far as its grammars
are plain and alive: whatever has been run before, the outcome of a run is the same. -/

namespace TextGrammar
open TextGrammar.Action

section Uses
variable (scene : Scene)

mutual

/-- A rule that leads to nothing but live cells and plain expressions. -/
def Rule.Uses : Rule → Prop
  | .leaf _ => True
  | .recursive cell | .placeholder cell => scene.live cell
  | .either alternatives => Rule.AllUse alternatives
  | .sequence _ _ first second | .orElse first second | .separated _ first second =>
    first.Uses ∧ second.Uses
  | .object _ _ operand | .optional _ operand | .many _ _ operand | .oneOrMore _ operand
  | .times _ _ operand | .captured _ operand | .valued _ operand | .erased operand | .map _ operand
  | .filter _ operand | .retaining _ operand => operand.Uses
  | .bind scope continuation operand =>
    (∀ entry ∈ scope, scene.live entry.2.cell) ∧
      (∀ value, (continuation value).Plain (scope.names.Knows scene.allowed)) ∧ operand.Uses

def Rule.AllUse : List Rule → Prop
  | [] => True
  | rule :: rest => rule.Uses ∧ Rule.AllUse rest

end

/-- A builder that leads to nothing but live cells and plain expressions, the same at every call. -/
structure Builder.Uses (builder : Builder) : Prop where
  scope : ∀ entry ∈ builder.scope, scene.live entry.2.cell
  steady : ∀ call, (builder.script call).definition? = (builder.script 0).definition?
  plain : ∀ call, (builder.script call).Plain (builder.scope.names.Knows scene.allowed)

def Operand.Uses : Operand → Prop
  | .raw _ => True
  | .grammar made => made.rule.Uses scene

/-- The variables that may be named and the live cells lead to nothing but live cells and plain
expressions, and the live cells are kept alive by variables. -/
structure Scene.Held : Prop where
  assigned : ∀ {name operand}, scene.allowed name → scene.base.assigned? name = some operand →
    operand.Uses scene
  built : ∀ {cell rule}, scene.live cell → (scene.base.cellAt cell).definition = some rule →
    rule.Uses scene
  pending : ∀ {cell}, scene.live cell → (scene.base.cellAt cell).definition = none →
    ∃ builder, (scene.base.cellAt cell).builder = some builder ∧ builder.Uses scene
  inside : ∀ {cell}, scene.live cell → cell < scene.base.cells.size
  owned : ∀ {cell}, scene.live cell →
    scene.base.Leads (scene.base.assigned.flatMap fun entry => entry.2.owned) cell

end Uses

/-- The live cells, as they are from the start. -/
noncomputable def Scene.cast (scene : Scene) : Cast := fun cell =>
  open Classical in if scene.live cell then some (.base cell) else none

namespace Scene
variable {scene : Scene}

theorem cast_of_live {cell : CellId} (live : scene.live cell) : scene.cast cell = some (.base cell) :=
  if_pos live

theorem cast_eq_some {cell : CellId} {target : Target} (known : scene.cast cell = some target) :
    target = .base cell ∧ scene.live cell := by
  unfold Scene.cast at known
  split at known
  · exact ⟨(Option.some.inj known).symm, ‹_›⟩
  · cases known

variable {awake : Key → Prop} {level : Nat}

theorem cast_upTo {cell : CellId} (live : scene.live cell) :
    scene.cast.upTo level cell = some (.base cell) :=
  Cast.upTo_eq_some.mpr ⟨cast_of_live live, Nat.zero_le _⟩

theorem plays_names {scope : Scope} (live : ∀ entry ∈ scope, scene.live entry.2.cell) :
    scope.Plays (scene.cast.upTo level) scope.names := by
  refine List.forall₂_map_right_iff.mpr (List.forall₂_same.mpr fun entry member => ?_)
  exact ⟨rfl, rfl, cast_upTo (live entry member)⟩

theorem stay_names (scope : Scope) : scope.names.Stay awake := by
  intro entry member
  obtain ⟨_, _, rfl⟩ := List.mem_map.mp member
  trivial

theorem nested_names (scope : Scope) : scope.names.Nested := by
  intro entry member
  obtain ⟨_, _, rfl⟩ := List.mem_map.mp member
  exact List.nil_subset _

theorem stay_outer (cell : CellId) : (Target.base cell).outer.Stay awake := nofun

mutual

/-- A rule of what is there from the start is its own blueprint. -/
theorem plays_blueprint {rule : Rule} (uses : rule.Uses scene) :
    rule.Plays scene.allowed (scene.cast.upTo level) awake rule.blueprint := by
  cases rule with
  | leaf recognise => exact .leaf recognise
  | object tag traced body => exact .object _ _ (plays_blueprint uses)
  | sequence kind other first second => exact .sequence _ _ (plays_blueprint uses.1) (plays_blueprint uses.2)
  | orElse first second => exact .orElse (plays_blueprint uses.1) (plays_blueprint uses.2)
  | either alternatives => exact .either (plays_blueprints uses)
  | optional kind operand => exact .optional _ (plays_blueprint uses)
  | many kind tag operand => exact .many _ _ (plays_blueprint uses)
  | oneOrMore kind operand => exact .oneOrMore _ (plays_blueprint uses)
  | times kind count operand => exact .times _ _ (plays_blueprint uses)
  | separated kind first rest => exact .separated _ (plays_blueprint uses.1) (plays_blueprint uses.2)
  | captured kind operand => exact .captured _ (plays_blueprint uses)
  | valued value operand => exact .valued _ (plays_blueprint uses)
  | erased operand => exact .erased (plays_blueprint uses)
  | map transform operand => exact .map _ (plays_blueprint uses)
  | filter accept operand => exact .filter _ (plays_blueprint uses)
  | bind scope continuation operand =>
    exact .bind (plays_names uses.1) (stay_names _) (nested_names _) uses.2.1 (plays_blueprint uses.2.2)
  | retaining held operand => exact .retaining held (plays_blueprint uses)
  | recursive cell => exact .recursive (cast_upTo uses) (stay_outer _)
  | placeholder cell => exact .placeholder (cast_upTo uses) trivial (stay_outer _)

theorem plays_blueprints {rules : List Rule} (uses : Rule.AllUse scene rules) :
    Rule.AllPlay scene.allowed (scene.cast.upTo level) awake rules (Rule.blueprints rules) := by
  cases rules with
  | nil => exact .nil
  | cons first rest => exact .cons (plays_blueprint uses.1) (plays_blueprints uses.2)

end

theorem plays_operand {operand : Operand} (uses : operand.Uses scene) :
    operand.Plays scene (scene.cast.upTo level) awake operand.draft := by
  cases operand with
  | raw value => exact .raw value
  | grammar made => exact .grammar ⟨rfl, plays_blueprint uses⟩

namespace Held
variable (held : scene.Held)
include held

theorem performs {cell : CellId} (live : scene.live cell) :
    (scene.base.cellAt cell).Performs scene (scene.cast.upTo 0) (.base cell) where
  kind := rfl
  title := rfl
  limit := rfl
  nested := by
    rw [Target.names]
    split
    · exact nested_names _
    · exact fun entry member => (List.not_mem_nil member).elim
  built rule is := by
    refine ⟨rule.blueprint, ?_, plays_blueprint (held.built live is)⟩
    simp only [Target.definition, is]
  pending undefined := by
    obtain ⟨builder, is, uses⟩ := held.pending live undefined
    have names : (Target.base cell).names scene.base = builder.scope.names := by
      simp only [Target.names, is]
    refine ⟨builder, is, ?_, ?_, ?_⟩
    · rw [names]
      exact plays_names uses.scope
    · rw [names]
      exact uses.plain
    · obtain ⟨definition, first, -⟩ := Script.Plain.definition _ (uses.plain 0)
      refine ⟨definition, fun call => (uses.steady call).trans first, ?_⟩
      simp only [Target.definition, undefined, is, first, Option.getD_some]
      rfl

/-- The store that a scene starts with is cast for its live cells. -/
theorem founded (calm : ∀ cell, (scene.base.cellAt cell).active = 0)
    (idle : ∀ cell, (scene.base.cellAt cell).building = false) :
    scene.Founded (fun _ => 0) 0 scene.cast scene.base where
  inside known := held.inside (cast_eq_some known).2
  performs known := by
    obtain ⟨rfl, live⟩ := cast_eq_some known
    exact held.performs live
  counted known := calm _
  apart known other same := by
    obtain ⟨rfl, -⟩ := cast_eq_some known
    obtain ⟨rfl, -⟩ := cast_eq_some other
    exact Key.base.inj same
  silent _ _ := rfl
  keyed known depth same := by
    obtain ⟨rfl, -⟩ := cast_eq_some known
    cases same
  level known := by
    obtain ⟨rfl, -⟩ := cast_eq_some known
    exact Nat.le_refl _
  parent known is := by
    obtain ⟨rfl, -⟩ := cast_eq_some known
    cases is
  assigned := rfl
  named granted is := plays_operand (held.assigned granted is)
  based known := by
    obtain ⟨same, live⟩ := cast_eq_some known
    cases same
    exact ⟨rfl, live⟩
  live := cast_of_live
  owned := held.owned
  idle := idle

end Held

end Scene

/-- What matching comes to, told from the store that a session has reached. -/
def Session.foretell (base : Store) (fuel : Nat) (subject : Expression) (text : Text) (start : Int) :
    Except Halt (Option Match) := do
  let draft ← (subject.drafted base.globals (.stage 0) []).mapError .fault
  let made ← (draft.asGrammar "match_prefix").mapError .fault
  (text.checkOffset start).mapError .fault
  Blueprint.run base fuel (fun _ => 0) 1 made.body text start

/-- A command that runs a plain expression over some variables. -/
def Command.Probes (allowed : String → Prop) : Command → Prop
  | .setVerbose _ | .assign _ _ | .forget _ | .describe _ | .tally _ => False
  | .matchPrefix subject _ _ | .runAt subject _ _ | .matchesAll subject _ | .parse subject _
  | .parseOrFail subject _ => subject.Plain allowed

namespace Scene
variable {scene : Scene} {active : Key → Nat} {stage : Nat} {cast : Cast} {α : Type}

/-- What is evaluated at the top level knows the variables only. -/
theorem Runs.evaluatingPlain {subject : Expression} (plain : subject.Plain scene.allowed)
    {next : Operand → Action α} {later : Draft → Except Halt α}
    (rest : ∀ cast operand draft, operand.Plays scene cast (0 < active ·) draft →
      scene.Runs active (stage + 1) cast (next operand) (later draft)) :
    scene.Runs active stage cast (Session.evaluate subject >>= next)
      ((subject.drafted scene.base.globals (.stage stage) []).mapError .fault >>= later) :=
  .evaluating .nil nofun nofun (plain.mono fun _ => .inr) rest

section Grammar
variable {operand : Operand} {draft : Draft} (plays : operand.Plays scene cast (0 < active ·) draft)
  {next : Grammar → Action α} {later : Sketch → Except Halt α}
  (rest : ∀ made sketch, made.Plays scene cast (0 < active ·) sketch →
    scene.Runs active stage cast (next made) (later sketch))
include plays rest

theorem Runs.ofGrammar (member : String) :
    scene.Runs active stage cast (operand.asGrammar member >>= next)
      ((draft.asGrammar member).mapError .fault >>= later) := by
  cases plays with
  | raw value => exact .fail rfl
  | grammar made => exact rest _ _ made

theorem Runs.ofParser (member : String) :
    scene.Runs active stage cast (operand.asParser member >>= next) (do
      let sketch ← (draft.asGrammar member).mapError .fault
      match sketch.kind with
      | .parser => later sketch
      | .pattern => .error (.fault (.missingMember sketch.kind.title member))) := by
  cases plays with
  | raw value => exact .fail rfl
  | @grammar made sketch plays =>
    have one := rest _ _ plays
    obtain ⟨kind, tag, rule⟩ := made
    obtain ⟨other, part⟩ := sketch
    obtain rfl : kind = other := plays.kind
    cases kind with
    | parser => exact one
    | pattern => exact .fail rfl

end Grammar

theorem matching_runs {subject : Expression} (plain : subject.Plain scene.allowed) (fuel : Nat)
    (text : Text) (start : Int) :
    scene.Runs (fun _ => 0) 0 cast (Session.matching fuel subject text start)
      (Session.foretell scene.base fuel subject text start) :=
  .evaluatingPlain plain fun _ _ _ plays => .ofGrammar plays (fun _ _ made =>
    (Runs.ofExcept _).bind fun _ => .owning (scene.obeys_run fuel made.body text start)) _

/-- What the run on a whole text comes to, and whether it ends where the text does. -/
def playWhole (base : Store) (fuel : Nat) (active : Key → Nat) (stage : Nat) (sketch : Sketch)
    (text : Text) : Except Halt (Option (Match × Bool)) := do
  (← Blueprint.run base fuel active stage sketch.body text 0).elim (.ok none) fun found => do
    return some (found, (← (found.stopAs sketch.kind).mapError .fault) == text.size)

section Whole
variable {made : Grammar} {sketch : Sketch} (plays : made.Plays scene cast (0 < active ·) sketch)
  (fuel : Nat) (text : Text)
include plays

theorem runWhole_runs :
    scene.Runs active stage cast (Runner.runWhole (Rule.run fuel) made text)
      (playWhole scene.base fuel active stage sketch text) := by
  refine Runs.bind (.owning (scene.obeys_run fuel plays.body text 0)) fun answer => ?_
  cases answer with
  | none => exact .pure _
  | some found =>
    dsimp only [Option.elim]
    rw [plays.kind]
    exact (Runs.ofExcept _).bind fun stop => .pure _

/-- The value of a whole text, or what there is instead of it. -/
theorem value_runs {rest : Option (Match × Bool) → Action Value} (absent : Except Halt Value)
    (partly : Match → Except Halt Value) (none : scene.Runs active stage cast (rest none) absent)
    (whole : ∀ found, rest (some (found, true)) = return found.value.getD .null)
    (part : ∀ found, scene.Runs active stage cast (rest (some (found, false))) (partly found)) :
    scene.Runs active stage cast (do rest (← Runner.runWhole (Rule.run fuel) made text)) (do
      (← playWhole scene.base fuel active stage sketch text).elim absent fun found =>
        if found.2 then .ok (found.1.value.getD .null) else partly found.1) := by
  refine (runWhole_runs plays fuel text).bind fun found => ?_
  cases found with
  | none => exact none
  | some found =>
    obtain ⟨found, ends⟩ := found
    cases ends with
    | true =>
      rw [whole]
      exact .pure _
    | false => exact part found

end Whole

/-- Whatever a command runs, there is one outcome that it comes to. -/
theorem probe_runs {command : Command} (probes : command.Probes scene.allowed) :
    ∃ outcome, scene.Runs (fun _ => 0) 0 cast command.perform outcome := by
  have owns {cast : Cast} {made : Grammar} {sketch : Sketch} (text : Text) (start : Int)
      (plays : made.Plays scene cast (0 < (fun _ => 0 : Key → Nat) ·) sketch) :
      scene.Runs (fun _ => 0) 1 cast (sessionRunner.owning made.rule text start)
        (Blueprint.run scene.base ampleFuel (fun _ => 0) 1 sketch.body text start) :=
    .owning (scene.obeys_run ampleFuel plays.body text start)
  cases command with
  | setVerbose | assign | forget | describe | tally => exact probes.elim
  | matchPrefix subject text start =>
    exact ⟨_, .evaluatingPlain probes fun _ _ _ plays => Runs.bind (.ofGrammar plays (fun _ _ made =>
      (Runs.ofExcept _).bind fun _ => owns text start made) _) fun _ => .pure _⟩
  | runAt subject text start =>
    exact ⟨_, .evaluatingPlain probes fun _ _ _ plays => Runs.bind (.ofGrammar plays (fun _ _ made =>
      owns text start made) _) fun _ => .pure _⟩
  | matchesAll subject text =>
    exact ⟨_, .evaluatingPlain probes fun _ _ _ plays => Runs.bind (.ofGrammar plays (fun _ _ made =>
      (runWhole_runs made ampleFuel text).bind fun found => .pure (found.any (·.2))) _)
        fun holds => .pure (Answer.decision holds)⟩
  | parse subject text =>
    exact ⟨_, .evaluatingPlain probes fun _ _ _ plays => Runs.bind (.ofParser plays (fun _ _ made =>
      value_runs made ampleFuel text (.ok .null) (fun _ => .ok .null) (.pure Value.null)
        (fun _ => rfl) fun _ => .pure Value.null) _)
        fun value => .pure (Answer.value value)⟩
  | parseOrFail subject text =>
    refine ⟨_, .evaluatingPlain probes fun _ _ _ plays => Runs.bind (.ofParser plays (fun _ _ made =>
      value_runs made ampleFuel text (.error (.fault (.notMatched "")))
        (fun found => .error (.fault (.partlyMatched "" found.stop text.size)))
        ?_ (fun _ => rfl) fun found => ?_) _) fun value => .pure (Answer.value value)⟩
    all_goals
      dsimp only
      exact .naming fun _ => .fail rfl

end Scene

end TextGrammar
