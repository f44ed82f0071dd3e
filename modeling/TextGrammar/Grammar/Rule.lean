import TextGrammar.Grammar.Expression

/-!
Rules, which say how grammars run. A rule is immutable: what changes while grammars run is kept in
the store, under the tags of objects and the numbers of the cells that hold recursive definitions.
A recursive grammar owns its cell, its placeholder only refers to it.
-/
namespace TextGrammar

/-- How a grammar runs. -/
inductive Rule
  | leaf (recognise : Leaf)
  /-- A grammar object: the boundary at which runs are logged, under the name of its tag. -/
  | object (tag : Tag) (traced : Bool) (body : Rule)
  /-- Two grammars of these kinds, the second where the first ended. -/
  | sequence (firstKind secondKind : Kind) (first second : Rule)
  | orElse (first second : Rule)
  | either (alternatives : List Rule)
  | optional (kind : Kind) (operand : Rule)
  /-- Any number of repetitions of an operand, whose tag names it in the log. -/
  | many (kind : Kind) (tag : Tag) (operand : Rule)
  | oneOrMore (kind : Kind) (operand : Rule)
  | times (kind : Kind) (count : Nat) (operand : Rule)
  /-- A first item, and any number of further ones with their separators. -/
  | separated (kind : Kind) (first rest : Rule)
  | captured (kind : Kind) (operand : Rule)
  | valued (value : Value) (operand : Rule)
  | erased (operand : Rule)
  | map (transform : Value → Except Fault Value) (operand : Rule)
  | filter (accept : Value → Except Fault Bool) (operand : Rule)
  | bind (scope : Scope) (continuation : Value → Expression) (operand : Rule)
  /-- A grammar with a function that has captured grammars, which own these cells. -/
  | retaining (held : List CellId) (operand : Rule)
  | recursive (cell : CellId)
  | placeholder (cell : CellId)

namespace Rule

mutual

/-- The cells that a rule owns, its functions included with what they have captured. Placeholders own
none, nor do the grammars that are yet to be made from a parsed value. -/
def owned : Rule → List CellId
  | .leaf _ | .placeholder _ => []
  | .recursive cell => [cell]
  | .bind scope _ operand => scope.owned ++ operand.owned
  | .retaining held operand => held ++ operand.owned
  | .either alternatives => ownedByAll alternatives
  | .sequence _ _ first second | .orElse first second | .separated _ first second =>
    first.owned ++ second.owned
  | .object _ _ operand | .optional _ operand | .many _ _ operand | .oneOrMore _ operand
  | .times _ _ operand | .captured _ operand | .valued _ operand | .erased operand | .map _ operand
  | .filter _ operand => operand.owned

def ownedByAll : List Rule → List CellId
  | [] => []
  | rule :: rules => rule.owned ++ ownedByAll rules

end

/-- Alternatives own what each of them owns. -/
theorem owned_either (alternatives : List Rule) : (either alternatives).owned = alternatives.flatMap owned := by
  rw [owned]
  induction alternatives with
  | nil => rfl
  | cons rule rest ih => rw [ownedByAll, ih, List.flatMap_cons]

end Rule

/-- The rule that a placeholder runs by. -/
def Placeholder.rule (placeholder : Placeholder) : Rule :=
  .object placeholder.tag placeholder.traced
    (if placeholder.captured then .recursive placeholder.cell else .placeholder placeholder.cell)

/-- A grammar object. -/
structure Grammar where
  kind : Kind
  tag : Tag
  rule : Rule

/-- The grammar object that a placeholder is. -/
def Placeholder.grammar (placeholder : Placeholder) : Grammar :=
  ⟨placeholder.kind, placeholder.tag, placeholder.rule⟩

/-- What an expression stands for: a grammar, or a plain value. -/
inductive Operand
  | raw (value : Value)
  | grammar (made : Grammar)

namespace Operand

/-- The name of an operand's type, as messages give it. -/
def typeName : Operand → String
  | .raw value => value.typeName
  | .grammar made => made.kind.title

/-- The cells that an operand owns. -/
def owned : Operand → List CellId
  | .raw _ => []
  | .grammar made => made.rule.owned

/-- What stands for an operand in a scope, if it is a recursive grammar or the stand-in of one. -/
def placeholder? : Operand → Option Placeholder
  | .grammar ⟨kind, tag, .object _ traced (.recursive cell)⟩ => some ⟨kind, tag, traced, cell, true⟩
  | .grammar ⟨kind, tag, .object _ traced (.placeholder cell)⟩ => some ⟨kind, tag, traced, cell, false⟩
  | _ => none

/-- An operand made with a function that has captured what owns some cells. -/
def retaining (held : List CellId) : Operand → Operand
  | .raw value => .raw value
  | .grammar made => .grammar { made with rule := .retaining held made.rule }

end Operand

/-- A scope in which these operands have been captured under these names, and no others. -/
def Scope.capturing (names : List String) (operands : List Operand) (scope : Scope) : Scope :=
  (names.zip operands).filterMap (fun entry => entry.2.placeholder?.map (entry.1, ·)) ++ scope.released

end TextGrammar
