import Mathlib
import TextGrammar.Proofs.CellChanges
import TextGrammar.Proofs.Determination
import TextGrammar.Proofs.Nesting

/-! Runs do not depend on what was run before. A session keeps the definitions that were built, but
a definition that is built later is the same one, as long as builders do no more than put grammars
together; and the counts of invocations are back where they were, however a run ended. -/

namespace TextGrammar
open TextGrammar.Action

/-- Between commands all cells are at rest. -/
theorem Store.afterAll_rests (commands : List Command) (cell : CellId) :
    ((afterAll commands).cellAt cell).Rests :=
  (Command.performAll_moved commands .initial).rests cell (Nat.zero_le _)

namespace Scene
variable {scene : Scene} {cast : Cast}

/-- After a history the cast is the live cells as they are. -/
theorem Held.founded_afterAll {history : List Command} {allowed : String → Prop} {live : CellId → Prop}
    (held : Scene.Held ⟨Store.afterAll history, allowed, live⟩) :
    Scene.Founded ⟨Store.afterAll history, allowed, live⟩ (fun _ => 0) 0
      (Scene.cast ⟨Store.afterAll history, allowed, live⟩) (Store.afterAll history) :=
  held.founded (fun cell => (Store.afterAll_rests history cell).active)
    fun cell => (Store.afterAll_rests history cell).building

/-- A run leaves a store behind that is cast for the same grammars. -/
theorem performAll_founded {runs : List Command} (probes : ∀ command ∈ runs, command.Probes scene.allowed)
    {store : Store} (founded : scene.Founded (fun _ => 0) 0 cast store) :
    ∃ further : Cast, further.Extends cast ∧
      scene.Founded (fun _ => 0) 0 further ((Command.performAll runs).run store).2 := by
  induction runs generalizing cast store with
  | nil => exact ⟨cast, .refl _, founded⟩
  | cons command rest ih =>
    obtain ⟨outcome, runs⟩ : ∃ outcome, scene.Runs (fun _ => 0) 0 cast command.perform outcome :=
      probe_runs (probes command (by simp))
    obtain ⟨result, after, further, ran, extend, founded, -⟩ := runs cast (.refl _) store founded
    have cleared : scene.Founded (fun _ => 0) 0 further { after with trace := [] } :=
      founded.congr rfl rfl
    rw [Command.performAll_cons, ran]
    obtain ⟨wide, extended, founded⟩ := ih (fun other member => probes other (by simp [member])) cleared
    exact ⟨wide, extended.trans extend, founded⟩

end Scene

namespace Session

/-- What has been run before makes no difference to what a run comes to, apart from the names of
grammars in faults, where the variables lead to live grammars whose builders only put grammars
together. In every session all cells are at rest between commands, and the only lasting change to a
cell is that it is resolved. -/
theorem history_independent {history runs : List Command} {command : Command}
    {allowed : String → Prop} {live : CellId → Prop}
    (held : Scene.Held ⟨Store.afterAll history, allowed, live⟩)
    (probes : ∀ run ∈ command :: runs, run.Probes allowed) :
    Alike (command.perform.exec (Store.afterAll (history ++ runs))).1
        (command.perform.exec (Store.afterAll history)).1 ∧
      (∀ commands cell, ((Store.afterAll commands).cellAt cell).Rests) ∧
      ∀ commands next, (Store.afterAll commands).Moved (Store.afterAll (commands ++ [next])) := by
  refine ⟨?_, Store.afterAll_rests, fun commands next => ?_⟩
  · let scene : Scene := ⟨Store.afterAll history, allowed, live⟩
    have founded := held.founded_afterAll
    have plain : ∀ run ∈ runs, run.Probes scene.allowed :=
      fun run member => probes run (List.mem_cons_of_mem _ member)
    obtain ⟨further, extend, later⟩ := Scene.performAll_founded plain founded
    obtain ⟨outcome, determined⟩ : ∃ outcome,
        scene.Runs (fun _ => 0) 0 scene.cast command.perform outcome :=
      Scene.probe_runs (probes command List.mem_cons_self)
    obtain ⟨first, _, _, ran, -, -, before⟩ := determined _ (.refl _) _ founded
    obtain ⟨second, _, _, again, -, -, after⟩ := determined _ extend _ later
    rw [Store.afterAll_append, again, ran]
    exact after.trans before.symm
  · rw [Store.afterAll_append]
    exact Command.performAll_moved [next] _

/-- Brackets in a variable, which are tried beyond their limit before they are matched. -/
theorem history_independent_brackets :
    let history := [Command.assign "brackets" (pairs (some 2))]
    let allowed := fun name => name = "brackets"
    let live := fun cell => cell = 0
    let deep := Command.matchPrefix (.variable "brackets") (Text.ofString "((()))") 0
    let matched := Command.matchesAll (.variable "brackets") (Text.ofString "()")
    Scene.Held ⟨Store.afterAll history, allowed, live⟩ ∧
      (∀ run ∈ [matched, deep], run.Probes allowed) ∧
      Alike (matched.perform.exec (Store.afterAll (history ++ [deep]))).1
        (matched.perform.exec (Store.afterAll history)).1 := by
  intro history allowed live deep matched
  have assigned : (Store.afterAll history).assigned =
      [("brackets", .grammar ⟨.pattern, 7, .object 7 false (.recursive 0)⟩)] := by cbv
  have size : (Store.afterAll history).cells.size = 1 := by cbv
  have undefined : ((Store.afterAll history).cellAt 0).definition = none := by cbv
  have builder : ((Store.afterAll history).cellAt 0).builder =
      some ⟨fun _ => .finish ("(" + Expression.variable "single" + ")" ||| "()"),
        [("single", ⟨.pattern, 6, false, 0, false⟩)]⟩ := by cbv
  have held : Scene.Held ⟨Store.afterAll history, allowed, live⟩ := by
    constructor
    · rintro _ operand rfl is
      rw [Store.assigned?, assigned] at is
      cases is
      exact (rfl : (0 : CellId) = 0)
    · rintro _ rule rfl is
      rw [undefined] at is
      cases is
    · rintro _ rfl -
      refine ⟨_, builder, ?_, fun _ => rfl, ?_⟩
      · simp [live]
      · exact fun _ => ⟨⟨⟨trivial, .inl rfl⟩, trivial⟩, trivial⟩
    · rintro _ rfl
      rw [size]
      exact Nat.one_pos
    · rintro _ rfl
      refine .here ?_
      rw [assigned]
      simp [Operand.owned, Rule.owned]
  have probes : ∀ run ∈ [matched, deep], run.Probes allowed := by
    intro run member
    obtain rfl | rfl : run = matched ∨ run = deep := by simpa using member
    · exact rfl
    · exact rfl
  exact ⟨held, probes, (history_independent held probes).1⟩

/-- A pattern whose builder assigns its placeholder to a variable. -/
abbrev leaking : Expression :=
  .recursive .pattern "inner" none fun _ => .leak "shared" (.variable "inner") (.finish (.literal "b"))

/-- A pattern whose builder looks up a variable. -/
abbrev sharing : Expression := .fix .pattern "inner" (.variable "shared") none

/-- A pattern whose builder depends on whether another grammar runs. -/
abbrev wary (other : String) : Expression :=
  .recursive .pattern "inner" none fun _ =>
    .attempt (.variable other) (Text.ofString "a") 0 fun outcome =>
      .finish (.literal (match outcome with | .ok _ => "a" | .error _ => "b"))

set_option maxRecDepth 10000 in
/-- A builder that does more than to put grammars together makes a difference to what is run
afterwards, and so do names that are changed while a grammar runs. -/
theorem history_dependent :
    let found (history : List Command) (subject : Expression) :=
      ((Command.matchPrefix subject (Text.ofString "a") 0).perform.exec (Store.afterAll history)).1
    let refused (history : List Command) :=
      ((Command.parseOrFail (.variable "word") (Text.ofString "b")).perform.exec (.afterAll history)).1
    let ran (subject : Expression) := Command.matchPrefix subject (Text.ofString "a") 0
    let shares := [.assign "shared" (.literal "a"), .assign "first" leaking, .assign "second" sharing]
    let waits := [.assign "first" (wary "second"), .assign "second" (wary "first")]
    let names := [Command.assign "word" (.named (.valueFor (.literal "a") .null) "old")]
    (found shares (.orElse (.variable "first") (.variable "second")) = .ok (.found none) ∧
      found (shares ++ [ran (.variable "second")]) (.orElse (.variable "first") (.variable "second")) =
        .ok (.found (some (.span 1)))) ∧
    (found waits (.variable "first") = .ok (.found (some (.span 1))) ∧
      found (waits ++ [ran (.variable "second")]) (.variable "first") = .ok (.found none)) ∧
    (refused names = .error (.fault (.notMatched "old")) ∧
      refused (names ++ [ran (.bind (.pure .null) fun _ => .named (.variable "word") "new")]) =
        .error (.fault (.notMatched "new"))) := by
  refine ⟨⟨?_, ?_⟩, ⟨?_, ?_⟩, ?_, ?_⟩ <;> cbv

end Session

end TextGrammar
