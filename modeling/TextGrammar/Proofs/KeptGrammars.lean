import TextGrammar.Proofs.Foretelling

/-! Recursive grammars that are kept in a variable, under the name that their definition has for them.
Nothing else has to be known of a session to tell what runs of them come to, or what other expressions
come to that use the variable. -/

namespace TextGrammar
open TextGrammar.Action

variable {store next : Store} {name : String} {kind : Kind} {definition : Expression} {limit : Option Nat}
  {cell : CellId}

/-- A store that keeps a recursive grammar in a variable, before it is run. -/
structure Store.Keeps (store : Store) (name : String) (kind : Kind) (definition : Expression)
    (limit : Option Nat) (cell : CellId) : Prop where
  assigned : ∃ tag named traced,
    store.assigned? name = some (.grammar ⟨kind, tag, .object named traced (.recursive cell)⟩)
  inside : cell < store.cells.size
  same : (store.cellAt cell).kind = kind
  limit : (store.cellAt cell).limit = limit
  unbuilt : (store.cellAt cell).definition = none
  builder : ∃ placeholder : Placeholder, placeholder.kind = kind ∧ placeholder.cell = cell ∧
    (store.cellAt cell).builder = some ⟨fun _ => .finish definition, [(name, placeholder)]⟩

/-- The names that the definition of such a grammar knows. -/
abbrev Names.own (name : String) (kind : Kind) (cell : CellId) : Names := [(name, kind, .base cell)]

namespace Store.Keeps
variable (keeps : store.Keeps name kind definition limit cell)
include keeps

theorem congr (assigned : next.assigned = store.assigned) (cells : next.cells = store.cells) :
    next.Keeps name kind definition limit cell := by
  have slot : next.cellAt cell = store.cellAt cell := by rw [cellAt, cells, cellAt]
  constructor
  · rw [assigned?, assigned]
    exact keeps.assigned
  · rw [cells]
    exact keeps.inside
  · rw [slot]
    exact keeps.same
  · rw [slot]
    exact keeps.limit
  · rw [slot]
    exact keeps.unbuilt
  · rw [slot]
    exact keeps.builder

/-- What the variable stands for. -/
theorem globals : store.globals name = some (.grammar (.new kind (.invoke (.base cell)))) := by
  obtain ⟨tag, named, traced, assigned⟩ := keeps.assigned
  rw [Store.globals, assigned]
  rfl

theorem target_limit : (Target.base cell).limit store = limit :=
  keeps.limit

theorem target_definition : (Target.base cell).definition store =
    definition.defined store.globals (.base cell) (.own name kind cell) (store.cellAt cell).name kind := by
  obtain ⟨placeholder, rfl, rfl, builder⟩ := keeps.builder
  simp only [Target.definition, Target.names, keeps.unbuilt, builder, keeps.same]
  rfl

/-- A definition that uses no other names leads to nothing but its own cell. -/
theorem held (plain : definition.Plain fun other => other = name) :
    Scene.Held ⟨store, fun other => other = name, fun other => other = cell⟩ := by
  obtain ⟨tag, named, traced, assigned⟩ := keeps.assigned
  constructor
  · rintro _ operand rfl is
    cases assigned.symm.trans is
    exact (rfl : cell = cell)
  · rintro _ rule rfl is
    rw [keeps.unbuilt] at is
    cases is
  · rintro _ rfl -
    obtain ⟨placeholder, -, rfl, builder⟩ := keeps.builder
    refine ⟨_, builder, ?_, fun _ => rfl, fun _ => plain.mono fun other same => .inr same⟩
    simp
  · rintro _ rfl
    exact keeps.inside
  · rintro _ rfl
    obtain ⟨newer, older, parted, -⟩ := List.lookup_eq_some_iff.mp assigned
    refine .here ?_
    rw [parted]
    simp [Operand.owned, Rule.owned]

end Store.Keeps

/-- A recursive grammar that is assigned is kept. -/
theorem Session.assign_keeps (history : List Command) (name : String) (kind : Kind) (definition : Expression)
    {limit : Option Depth.Request} {granted : Option Nat} (grants : Depth.granted limit = .ok granted) :
    (Store.afterAll (history ++ [.assign name (.fix kind name definition limit)])).Keeps name kind
      definition granted (Store.afterAll history).cells.size := by
  obtain ⟨made, after, placeholder, exec, same, place, one⟩ := Grammar.exec_recursive kind name
    (fun _ => .finish definition) [] (Store.afterAll history) grants
  obtain ⟨tag, traced, rule⟩ := one.rule
  have evaluated : (Session.evaluate (.fix kind name definition limit)).exec (Store.afterAll history) =
      (.ok (.grammar made), after) := by
    rw [Session.evaluate, Expression.fix, Expression.evaluate, map_eq_pure_bind, exec_bind_ok exec]
    rfl
  have kept : (after.assign name (.grammar made)).Keeps name kind definition granted
      (Store.afterAll history).cells.size := by
    have slot : (after.assign name (.grammar made)).cellAt (Store.afterAll history).cells.size = _ := one.slot
    constructor
    · refine ⟨made.tag, tag, traced, ?_⟩
      have kind : made.kind = kind := one.kind
      rw [Store.assigned?, Store.assign, List.lookup_cons_self, ← kind, ← rule]
    · exact one.inside
    · rw [slot]
    · rw [slot]
    · rw [slot]
    · exact ⟨placeholder, same, place, by rw [slot]⟩
  rw [Store.afterAll_append, Command.performAll_cons]
  have performed : ((Command.assign name (.fix kind name definition limit)).perform.exec
      (Store.afterAll history)).2 = after.assign name (.grammar made) := by
    rw [Command.perform, map_eq_pure_bind, exec_bind, Session.assign, exec_bind_ok evaluated]
    rfl
  rw [performed]
  exact kept.congr rfl rfl

end TextGrammar
