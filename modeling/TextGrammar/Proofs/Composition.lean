import TextGrammar.Grammar.Command

/-! What grammars are put together from. A choice of parts is carried over to everything that leads
to a grammar: expressions, the scripts of builders, rules, and what a store holds. -/

namespace TextGrammar

/-- What grammars may be put together from. -/
structure Parts where
  /-- The leaves that may occur. -/
  leaf : Leaf → Prop
  /-- How a builder may go on that runs a grammar while its own is being built. -/
  goesOn : (Except Fault (Option Match) → Script) → Prop

variable (parts : Parts)

mutual

/-- An expression that is put together from the given parts, at whatever time they are evaluated. -/
def Expression.BuiltFrom : Expression → Prop
  | .raw _ | .variable _ | .invalid _ | .constant _ => True
  | .leaf _ _ recognise => parts.leaf recognise
  | .followedBy first second | .sum first second | .orElse first second | .union first second
  | .separatedBy first second => first.BuiltFrom ∧ second.BuiltFrom
  | .either _ alternatives => Expression.AllBuiltFrom alternatives
  | .optional operand | .many operand | .oneOrMore operand | .times operand _ | .captured operand
  | .capturedPattern operand | .returning operand _ | .valueFor operand _ | .erased operand
  | .negated operand | .map operand _ | .shifted operand _ _ | .filter operand _ | .named operand _
  | .copy operand | .capturing _ operand | .retaining _ operand => operand.BuiltFrom
  | .bind operand continuation => operand.BuiltFrom ∧ ∀ value, (continuation value).BuiltFrom
  | .recursive _ _ _ script => ∀ call, (script call).BuiltFrom

def Expression.AllBuiltFrom : List Expression → Prop
  | [] => True
  | expression :: rest => expression.BuiltFrom ∧ Expression.AllBuiltFrom rest

def Script.BuiltFrom : Script → Prop
  | .finish definition => definition.BuiltFrom
  | .tally _ rest => rest.BuiltFrom
  | .leak _ subject rest => subject.BuiltFrom ∧ rest.BuiltFrom
  | .attempt subject _ _ rest =>
    parts.goesOn rest ∧ subject.BuiltFrom ∧ ∀ outcome, (rest outcome).BuiltFrom

end

mutual

def Rule.BuiltFrom : Rule → Prop
  | .leaf recognise => parts.leaf recognise
  | .recursive _ | .placeholder _ => True
  | .either alternatives => Rule.AllBuiltFrom alternatives
  | .sequence _ _ first second | .orElse first second | .separated _ first second =>
    first.BuiltFrom ∧ second.BuiltFrom
  | .object _ _ operand | .optional _ operand | .many _ _ operand | .oneOrMore _ operand
  | .times _ _ operand | .captured _ operand | .valued _ operand | .erased operand | .map _ operand
  | .filter _ operand | .retaining _ operand => operand.BuiltFrom
  | .bind _ continuation operand =>
    operand.BuiltFrom ∧ ∀ value, (continuation value).BuiltFrom parts

def Rule.AllBuiltFrom : List Rule → Prop
  | [] => True
  | rule :: rest => rule.BuiltFrom ∧ Rule.AllBuiltFrom rest

end

def Operand.BuiltFrom : Operand → Prop
  | .raw _ => True
  | .grammar made => made.rule.BuiltFrom parts

def Builder.BuiltFrom (builder : Builder) : Prop :=
  ∀ call, (builder.script call).BuiltFrom parts

structure Cell.BuiltFrom (cell : Cell) : Prop where
  builder : ∀ builder ∈ cell.builder, builder.BuiltFrom parts
  definition : ∀ rule ∈ cell.definition, rule.BuiltFrom parts

/-- Whatever a run may come to use out of a store. -/
structure Store.BuiltFrom (store : Store) : Prop where
  assigned : ∀ entry ∈ store.assigned, entry.2.BuiltFrom parts
  cells : ∀ cell ∈ store.cells, cell.BuiltFrom parts

def Command.BuiltFrom : Command → Prop
  | .setVerbose _ | .forget _ | .tally _ => True
  | .assign _ subject | .describe subject | .matchPrefix subject _ _ | .runAt subject _ _
  | .matchesAll subject _ | .parse subject _ | .parseOrFail subject _ => subject.BuiltFrom parts

variable {parts}

theorem Placeholder.builtFrom (placeholder : Placeholder) : placeholder.rule.BuiltFrom parts := by
  rw [Placeholder.rule]
  cases placeholder.captured <;> trivial

theorem Operand.BuiltFrom.retaining {operand : Operand} (built : operand.BuiltFrom parts) (held : List CellId) :
    (operand.retaining held).BuiltFrom parts := by
  cases operand <;> exact built

theorem Rule.AllBuiltFrom.mem {rules : List Rule} (built : Rule.AllBuiltFrom parts rules) {rule : Rule}
    (member : rule ∈ rules) : rule.BuiltFrom parts := by
  induction rules with
  | nil => cases member
  | cons first rest ih =>
    rcases List.mem_cons.mp member with rfl | member
    · exact built.1
    · exact ih built.2 member

/-- The parts of grammars include whatever the operations put in by themselves. -/
structure Parts.Complete (parts : Parts) : Prop where
  literal : ∀ word, parts.leaf (Leaf.literal word)
  constant : ∀ shared : Constant, parts.leaf shared.recognise
  failing : ∀ fault, parts.leaf fun _ _ => .error fault

/-- No restriction at all. -/
def Parts.any : Parts := ⟨fun _ => True, fun _ => True⟩

theorem Parts.complete_any : Parts.any.Complete :=
  ⟨fun _ => trivial, fun _ => trivial, fun _ => trivial⟩

mutual

theorem Expression.builtFrom_any : (expression : Expression) → expression.BuiltFrom .any
  | .raw _ | .variable _ | .invalid _ | .constant _ | .leaf _ _ _ => trivial
  | .followedBy first second | .sum first second | .orElse first second | .union first second
  | .separatedBy first second => ⟨first.builtFrom_any, second.builtFrom_any⟩
  | .either _ alternatives => Expression.allBuiltFrom_any alternatives
  | .optional operand | .many operand | .oneOrMore operand | .times operand _ | .captured operand
  | .capturedPattern operand | .returning operand _ | .valueFor operand _ | .erased operand
  | .negated operand | .map operand _ | .shifted operand _ _ | .filter operand _ | .named operand _
  | .copy operand | .capturing _ operand | .retaining _ operand => operand.builtFrom_any
  | .bind operand continuation =>
    ⟨operand.builtFrom_any, fun value => (continuation value).builtFrom_any⟩
  | .recursive _ _ _ script => fun call => (script call).builtFrom_any

theorem Expression.allBuiltFrom_any :
    (expressions : List Expression) → Expression.AllBuiltFrom .any expressions
  | [] => trivial
  | expression :: rest => ⟨expression.builtFrom_any, Expression.allBuiltFrom_any rest⟩

theorem Script.builtFrom_any : (script : Script) → script.BuiltFrom .any
  | .finish definition => definition.builtFrom_any
  | .tally _ rest => rest.builtFrom_any
  | .leak _ subject rest => ⟨subject.builtFrom_any, rest.builtFrom_any⟩
  | .attempt subject _ _ rest =>
    ⟨trivial, subject.builtFrom_any, fun outcome => (rest outcome).builtFrom_any⟩

end

mutual

theorem Rule.builtFrom_any : (rule : Rule) → rule.BuiltFrom .any
  | .leaf _ | .recursive _ | .placeholder _ => trivial
  | .either alternatives => Rule.allBuiltFrom_any alternatives
  | .sequence _ _ first second | .orElse first second | .separated _ first second =>
    ⟨first.builtFrom_any, second.builtFrom_any⟩
  | .object _ _ operand | .optional _ operand | .many _ _ operand | .oneOrMore _ operand
  | .times _ _ operand | .captured _ operand | .valued _ operand | .erased operand | .map _ operand
  | .filter _ operand | .retaining _ operand => operand.builtFrom_any
  | .bind _ continuation operand =>
    ⟨operand.builtFrom_any, fun value => (continuation value).builtFrom_any⟩

theorem Rule.allBuiltFrom_any : (rules : List Rule) → Rule.AllBuiltFrom .any rules
  | [] => trivial
  | rule :: rest => ⟨rule.builtFrom_any, Rule.allBuiltFrom_any rest⟩

end

theorem Operand.builtFrom_any : (operand : Operand) → operand.BuiltFrom .any
  | .raw _ => trivial
  | .grammar made => made.rule.builtFrom_any

theorem Cell.builtFrom_any (cell : Cell) : cell.BuiltFrom .any :=
  ⟨fun builder _ call => (builder.script call).builtFrom_any, fun rule _ => rule.builtFrom_any⟩

theorem Store.builtFrom_any (store : Store) : store.BuiltFrom .any :=
  ⟨fun entry _ => entry.2.builtFrom_any, fun cell _ => cell.builtFrom_any⟩

theorem Store.initial_builtFrom : Store.initial.BuiltFrom parts :=
  ⟨by simp [Store.initial], by simp [Store.initial]⟩

end TextGrammar
