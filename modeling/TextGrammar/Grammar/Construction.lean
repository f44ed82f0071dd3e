import TextGrammar.Grammar.Store
import TextGrammar.Value.Operation

/-!
The operations that make grammars from grammars. Each makes one new object, named after its parts
as they are called at that moment; where a grammar is expected, a text stands for the literal of
itself.
-/
namespace TextGrammar.Grammar

open TextGrammar.Action

def literal (word : String) : Action Grammar :=
  newGrammar .pattern (Quoted.quote word) (.leaf (Leaf.literal word))

/-- A grammar and another one where it ended. The whole is a parser if one of them is, and yields
the values that there are. -/
def followedByGrammar (first second : Grammar) : Action Grammar := do
  let kind := match first.kind with
    | .pattern => second.kind
    | .parser => .parser
  newGrammar kind s!"({← nameOf first}, {← nameOf second})"
    (.sequence first.kind second.kind first.rule second.rule)

/-- A grammar and what follows it. -/
def followedBy (first : Grammar) : Operand → Action Grammar
  | .grammar second => first.followedByGrammar second
  | .raw (.str word) => do first.followedByGrammar (← literal word)
  | .raw value => fail (.notSequenced first.kind value)

/-- An operand as an alternative among grammars of a kind, if it can be one. -/
def asAlternative (kind : Kind) : Operand → Action (Option Grammar)
  | .grammar made => return if made.kind = kind then some made else none
  | .raw (.str word) => do if kind = .pattern then some <$> literal word else return none
  | .raw _ => return none

/-- The fault of an operand that is no alternative. -/
def notAlternative (kind : Kind) : Operand → Action Fault
  | .grammar made => return .otherKindAlternative kind (← nameOf made)
  | .raw value => return .notAlternative kind value

/-- The first of two alternatives of a kind that matches. -/
def choice (first second : Grammar) : Action Grammar := do
  newGrammar first.kind s!"{← nameOf first} or {← nameOf second}" (.orElse first.rule second.rule)

/-- A grammar, or else an operand of the same kind. -/
def orElse (first : Grammar) (operand : Operand) : Action Grammar := do
  match ← asAlternative first.kind operand with
  | some second => first.choice second
  | none => fail (← notAlternative first.kind operand)

/-- The first of any number of alternatives that matches. -/
def either (kind : Kind) (operands : List Operand) : Action Grammar := do
  let alternatives ← operands.mapM fun operand => do
    match ← asAlternative kind operand with
    | some alternative => return alternative
    | none => fail (← notAlternative kind operand)
  let names ← alternatives.mapM nameOf
  let name := String.intercalate " or " names
  newGrammar kind (if name.isEmpty then "either()" else name)
    (.either (alternatives.map Grammar.rule))

/-- Matches in any case: where the grammar does not, nothing is taken. -/
def optional (grammar : Grammar) : Action Grammar := do
  newGrammar grammar.kind s!"[ {← nameOf grammar} ]" (.optional grammar.kind grammar.rule)

/-- The grammar as often as it matches. -/
def many (grammar : Grammar) : Action Grammar := do
  newGrammar grammar.kind ("\x7b " ++ (← nameOf grammar) ++ " \x7d")
    (.many grammar.kind grammar.tag grammar.rule)

/-- The grammar as often as it matches, and at least once. -/
def oneOrMore (grammar : Grammar) : Action Grammar := do
  let name ← nameOf grammar
  newGrammar grammar.kind ("(" ++ name ++ ", \x7b " ++ name ++ " \x7d)")
    (.oneOrMore grammar.kind grammar.rule)

/-- The number of repetitions that a value says, which must not be negative. A fraction is cut off
here, but counts no repetitions when the grammar runs. -/
def repetitions (grammar : Grammar) (count : Value) : Action Nat := do
  let (negative, times) ← match count, count.integer? with
    | .float number, _ => pure (number.isLess 0, Value.ofFraction number)
    | _, some integer => pure (decide (integer < 0), .ok integer)
    | _, none => fail (.unordered "<" count.typeName "int")
  let times ← ofExcept times
  if !Numeral.isWritable times then fail .integerTooLong
  if negative then fail (.negativeTimes (← nameOf grammar) times)
  return times.toNat

/-- The grammar a number of times, or fewer where the text ends. -/
def times (grammar : Grammar) (count : Value) : Action Grammar := do
  let repetitions ← grammar.repetitions count
  let rule := match count with
    | .float _ => .leaf fun _ _ => .error (.notCount count.typeName)
    | _ => .times grammar.kind repetitions grammar.rule
  newGrammar grammar.kind s!"{← nameOf grammar} * {repetitions}" rule

/-- The text that a grammar matches, as a value. -/
def captured (grammar : Grammar) : Action Grammar := do
  newGrammar .parser s!"text of {← nameOf grammar}" (.captured grammar.kind grammar.rule)

/-- A grammar without its value. -/
def erasedGrammar (grammar : Grammar) : Action Grammar := do
  newGrammar .pattern (← nameOf grammar) (.erased grammar.rule)

/-- An operand as a pattern. -/
def asPattern : Operand → Action Grammar
  | .grammar made => match made.kind with
    | .pattern => return made
    | .parser => made.erasedGrammar
  | .raw (.str word) => literal word
  | .raw value => fail (.notPattern value)

/-- Items with separators between them, at least one item. The values of separators are dropped. -/
def separatedBy (grammar : Grammar) (separator : Operand) : Action Grammar := do
  let rest ← (← asPattern separator).followedByGrammar grammar
  newGrammar grammar.kind ("(" ++ (← nameOf grammar) ++ ", \x7b " ++ (← nameOf rest) ++ " \x7d)")
    (.separated grammar.kind grammar.rule rest.rule)

/-- A value for what an operand matches as a pattern. -/
def valueFor (operand : Operand) (value : Value) : Action Grammar := do
  let pattern ← asPattern operand
  newGrammar .parser (← nameOf pattern) (.valued value pattern.rule)

/-- The fault of a grammar without a member of that name. -/
def missingMember (grammar : Grammar) (member : String) : Fault :=
  .missingMember grammar.kind.title member

/-- A value for what a pattern matches. -/
def returning (grammar : Grammar) (value : Value) : Action Grammar :=
  match grammar.kind with
  | .pattern => valueFor (.grammar grammar) value
  | .parser => fail (grammar.missingMember "returning")

/-- A new parser from the rule of one; a pattern has no such member. -/
def ofParser (grammar : Grammar) (member : String) (kind : Kind) (name : String → String)
    (rule : Rule → Rule) : Action Grammar := do
  match grammar.kind with
  | .parser => newGrammar kind (name (← nameOf grammar)) (rule grammar.rule)
  | .pattern => fail (grammar.missingMember member)

/-- A parser without its value. -/
def erased (grammar : Grammar) : Action Grammar :=
  grammar.ofParser "pattern" .pattern id .erased

/-- A parser with its value transformed. -/
def map (grammar : Grammar) (transform : Value → Except Fault Value) : Action Grammar :=
  grammar.ofParser "map" .parser id (.map transform)

/-- A parser that only matches where its value is accepted. -/
def filter (grammar : Grammar) (accept : Value → Except Fault Bool) : Action Grammar :=
  grammar.ofParser "when" .parser (fun name => s!"when({name})") (.filter accept)

/-- A parser, and where it ended the parser that its value leads to. -/
def bind (grammar : Grammar) (scope : Scope) (continuation : Value → Expression) : Action Grammar :=
  grammar.ofParser "bind" .parser (fun name => s!"({name} >>=)") (.bind scope continuation)

/-- Renames the object itself. -/
def named (grammar : Grammar) (name : String) : Action Grammar := do
  modify fun store => { store with names := store.names.setIfInBounds grammar.tag name }
  return grammar

/-- A new object that runs as the old one does and has the same name. -/
def copy (grammar : Grammar) : Action Grammar := do
  let name ← nameOf grammar
  newGrammar grammar.kind (if name.isEmpty then grammar.kind.description else name) grammar.rule

/-- A new cell. -/
def newCell (kind : Kind) (name : String) (limit : Option Depth.Request) : Action CellId := do
  let limit ← limit.mapM fun requested => do
    let granted ← ofExcept (Depth.clamp requested Depth.reserve)
    if granted.lowered then record (.lowered requested granted.limit)
    return granted.limit.toNat
  let store ← get
  set { store with cells := store.cells.push { name, kind, limit } }
  return store.cells.size

/-- Gives a cell its builder. What is built already stays as it is. -/
def setBuilder (cell : CellId) (builder : Builder) : Action Unit :=
  updateCell cell fun old => { old with builder := some builder }

/-- The grammar of a cell, which is given its builder. The builder names the placeholder by
`binder`. -/
def ofCell (kind : Kind) (name binder : String) (script : Nat → Script) (scope : Scope)
    (cell : CellId) : Action Grammar := do
  let traced := (← get).verbose
  let standIn ← newGrammar kind s!"<{name}>" (.placeholder cell)
  let placeholder : Placeholder := { kind, tag := standIn.tag, traced, cell }
  setBuilder cell ⟨script, (binder, placeholder) :: scope⟩
  newGrammar kind name (.recursive cell)

/-- A grammar that is defined in terms of itself. -/
def recursive (kind : Kind) (binder : String) (limit : Option Depth.Request) (script : Nat → Script)
    (scope : Scope) : Action Grammar := do
  let name := s!"recursive {kind.noun}"
  ofCell kind name binder script scope (← newCell kind name limit)

end TextGrammar.Grammar
