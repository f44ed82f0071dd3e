import TextGrammar.Grammar.Construction

/-!
Evaluation of expressions: operands are evaluated from left to right, and then the grammar is made.
-/
namespace TextGrammar

open TextGrammar.Action

namespace Operand

/-- An operand as a grammar; a plain value has no member of that name. -/
def asGrammar (member : String) : Operand → Action Grammar
  | .grammar made => return made
  | .raw value => fail (.missingMember value.typeName member)

/-- The sum of two operands: a sequence if one is a grammar. -/
def sum : Operand → Operand → Action Operand
  | .raw first, .raw second => .raw <$> ofExcept (first.add second)
  | .raw (.str word), second@(.grammar _) => do
    return .grammar (← (← Grammar.literal word).followedBy second)
  | .grammar first, second@(.grammar _) | .grammar first, second@(.raw (.str _)) =>
    .grammar <$> first.followedBy second
  | first, second => fail (.unsupportedOperands "+" first.typeName second.typeName)

/-- The union of two operands: a choice if one is a grammar. -/
def union (first second : Operand) : Action Operand := do
  let refused := Fault.unsupportedOperands "|" first.typeName second.typeName
  match first, second with
  | .raw value, .raw other => .raw <$> ofExcept (value.union other)
  | .grammar made, operand =>
    match ← Grammar.asAlternative made.kind operand with
    | some alternative => .grammar <$> made.choice alternative
    | none => fail refused
  | operand, .grammar made =>
    match ← Grammar.asAlternative made.kind operand with
    | some alternative => .grammar <$> alternative.choice made
    | none => fail refused

/-- The operand with its sign changed: a parser loses its value. -/
def negated : Operand → Action Operand
  | .raw value => .raw <$> ofExcept value.negate
  | .grammar made => match made.kind with
    | .parser => .grammar <$> made.erased
    | .pattern => fail (.unsupportedNegation made.kind.title)

/-- An operand shifted by a function of some type: the value of a parser is transformed. -/
def shifted (transform : Value → Except Fault Value) (functionType : String)
    (operand : Operand) : Action Operand :=
  let refused := Fault.unsupportedOperands ">>" operand.typeName functionType
  match operand with
  | .grammar made => match made.kind with
    | .parser => .grammar <$> made.map transform
    | .pattern => fail refused
  | .raw _ => fail refused

/-- The operand as often as a value says; of a text, how often it holds the value. -/
def times (operand : Operand) (count : Value) : Action Operand :=
  match operand with
  | .raw (.str text) => .raw <$> ofExcept (Value.count text count)
  | _ => do return .grammar (← (← operand.asGrammar "count").times count)

/-- A new object in place of an old one; most plain values are their own copies. -/
def copy : Operand → Action Operand
  | .grammar made => .grammar <$> made.copy
  | .raw .null => fail (.notCopied "NoneType")
  | .raw value => return .raw value

end Operand

/-- What a name stands for. -/
def lookUp (scope : Scope) (name : String) : Action Operand := do
  match scope.lookup name with
  | some placeholder => return .grammar placeholder.grammar
  | none => match (← get).assigned? name with
    | some operand => return operand
    | none => fail (.unboundVariable name)

namespace Expression

mutual

/-- Makes what an expression stands for. -/
def evaluate (scope : Scope) : Expression → Action Operand
  | .raw value => return .raw value
  | .variable name => lookUp scope name
  | .invalid fault => fail fault
  | .leaf kind name recognise => .grammar <$> newGrammar kind name (.leaf recognise)
  | .constant shared => return .grammar shared.grammar
  | .followedBy first second => do
    let first ← first.evaluate scope
    let second ← second.evaluate scope
    return .grammar (← (← first.asGrammar "then").followedBy second)
  | .sum first second => do
    let first ← first.evaluate scope
    let second ← second.evaluate scope
    first.sum second
  | .orElse first second => do
    let first ← first.evaluate scope
    let second ← second.evaluate scope
    return .grammar (← (← first.asGrammar "or_else").orElse second)
  | .union first second => do
    let first ← first.evaluate scope
    let second ← second.evaluate scope
    first.union second
  | .either kind alternatives => do
    return .grammar (← Grammar.either kind (← evaluateAll scope alternatives))
  | .optional operand => do
    return .grammar (← (← (← operand.evaluate scope).asGrammar "optional").optional)
  | .many operand => do
    return .grammar (← (← (← operand.evaluate scope).asGrammar "zero_or_more").many)
  | .oneOrMore operand => do
    return .grammar (← (← (← operand.evaluate scope).asGrammar "one_or_more").oneOrMore)
  | .times operand count => do (← operand.evaluate scope).times count
  | .separatedBy operand separator => do
    let operand ← operand.evaluate scope
    let separator ← separator.evaluate scope
    return .grammar (← (← operand.asGrammar "separated_by").separatedBy separator)
  | .captured operand => do
    return .grammar (← (← (← operand.evaluate scope).asGrammar "captured_text").captured)
  | .capturedPattern operand => do
    return .grammar (← (← Grammar.asPattern (← operand.evaluate scope)).captured)
  | .returning operand value => do
    return .grammar (← (← (← operand.evaluate scope).asGrammar "returning").returning value)
  | .valueFor operand value => do
    return .grammar (← Grammar.valueFor (← operand.evaluate scope) value)
  | .erased operand => do
    return .grammar (← (← (← operand.evaluate scope).asGrammar "pattern").erased)
  | .negated operand => do (← operand.evaluate scope).negated
  | .map operand transform => do
    return .grammar (← (← (← operand.evaluate scope).asGrammar "map").map transform)
  | .shifted operand transform functionType => do
    (← operand.evaluate scope).shifted transform functionType
  | .filter operand accept => do
    return .grammar (← (← (← operand.evaluate scope).asGrammar "when").filter accept)
  | .bind operand continuation => do
    return .grammar (← (← (← operand.evaluate scope).asGrammar "bind").bind scope continuation)
  | .named operand name => do
    return .grammar (← (← (← operand.evaluate scope).asGrammar "named").named name)
  | .copy operand => do (← operand.evaluate scope).copy
  | .capturing names body => do
    body.evaluate (scope.capturing names (← names.mapM (lookUp scope)))
  | .retaining names body => do
    let held := (← names.mapM (lookUp scope)).flatMap Operand.owned
    return (← body.evaluate scope).retaining held
  | .recursive kind binder limit script =>
    .grammar <$> Grammar.recursive kind binder limit script scope

/-- Makes what some expressions stand for, one after the other. -/
def evaluateAll (scope : Scope) : List Expression → Action (List Operand)
  | [] => return []
  | expression :: rest => do
    let operand ← expression.evaluate scope
    return operand :: (← evaluateAll scope rest)

end

end Expression

end TextGrammar
