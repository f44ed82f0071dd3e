import TextGrammar.Grammar.Run

/-!
What a caller can do in a session: make grammars and keep them in variables, run them on a part of a
text or on the whole, and look at names and at the log. The caller's offset is checked unless it
asks to run a grammar as it is.
-/
namespace TextGrammar

open TextGrammar.Action

/-- More levels than any run can nest. -/
def ampleFuel : Nat := 1 <<< 62

/-- The runner of sessions. -/
def sessionRunner : Runner := Rule.run ampleFuel

/-- What is told of an operand: the name of its type and, of a grammar, its own name. -/
structure Description where
  typeName : String
  name : Option String

namespace Operand

def describe (operand : Operand) : Action Description := do
  match operand with
  | .raw _ => return ⟨operand.typeName, none⟩
  | .grammar made => return ⟨operand.typeName, some (← nameOf made)⟩

/-- An operand as a parser; nothing else has a member of that name. -/
def asParser (member : String) (operand : Operand) : Action Grammar := do
  let grammar ← operand.asGrammar member
  match grammar.kind with
  | .parser => return grammar
  | .pattern => fail (grammar.missingMember member)

end Operand

namespace Runner

/-- Runs a grammar on a whole text, and tells with the match whether it ends where the text does. -/
def runWhole (runner : Runner) (grammar : Grammar) (text : Text) :
    Action (Option (Match × Bool)) := do
  match ← runner.owning grammar.rule text 0 with
  | none => return none
  | some found => return some (found, (← ofExcept (found.stopAs grammar.kind)) == text.size)

/-- Whether a grammar matches the whole text. -/
def matchesAll (runner : Runner) (operand : Operand) (text : Text) : Action Bool := do
  let found ← runner.runWhole (← operand.asGrammar "matches") text
  return found.any (·.2)

/-- The value of the whole text, or null. -/
def parse (runner : Runner) (operand : Operand) (text : Text) : Action Value := do
  match ← runner.runWhole (← operand.asParser "parse") text with
  | some (found, true) => return found.value.getD .null
  | _ => return .null

/-- The value of the whole text, which must match. -/
def parseOrFail (runner : Runner) (operand : Operand) (text : Text) : Action Value := do
  let grammar ← operand.asParser "parse_or_raise"
  match ← runner.runWhole grammar text with
  | none => fail (.notMatched (← nameOf grammar))
  | some (found, true) => return found.value.getD .null
  | some (found, false) => fail (.partlyMatched (← nameOf grammar) found.stop text.size)

end Runner

namespace Operand

/-- Matches a part of a text that begins at an offset. -/
def matchPrefix (operand : Operand) (text : Text) (start : Int) : Action (Option Match) :=
  sessionRunner.matchFrom operand text start

/-- Runs a grammar at an offset that is not checked. -/
def runAt (operand : Operand) (text : Text) (start : Int) : Action (Option Match) := do
  sessionRunner.owning (← operand.asGrammar "run").rule text start

/-- Whether the operand matches the whole text. -/
def matchesAll (operand : Operand) (text : Text) : Action Bool :=
  sessionRunner.matchesAll operand text

/-- The value of the whole text, or null. -/
def parse (operand : Operand) (text : Text) : Action Value :=
  sessionRunner.parse operand text

/-- The value of the whole text, which must match. -/
def parseOrFail (operand : Operand) (text : Text) : Action Value :=
  sessionRunner.parseOrFail operand text

end Operand

namespace Session

/-- Makes the log verbose for the grammars made from now on, or quiet. -/
def setVerbose (verbose : Bool) : Action Unit :=
  modify fun store => { store with verbose }

/-- Makes what an expression stands for. -/
def evaluate (expression : Expression) : Action Operand :=
  expression.evaluate []

/-- Makes what an expression stands for and keeps it in a variable. -/
def assign (name : String) (expression : Expression) : Action Description := do
  let operand ← evaluate expression
  modify (Store.assign name operand)
  operand.describe

def forget (name : String) : Action Unit :=
  modify (Store.forget name)

/-- How often builders were called under a label. -/
def tally (label : String) : Action Nat := do
  return (← get).tallies.count label

/-- The lines that the log has gained since this was asked last. -/
def takeLog (store : Store) : List String × Store :=
  (store.log, { store with trace := [] })

/-- The placeholder of a cell that stands on its own, outside of any log. -/
def placeholderOf (cell : CellId) (name : String) : Action Placeholder := do
  let standIn ← newGrammar .pattern name (.placeholder cell)
  return { kind := .pattern, tag := standIn.tag, traced := false, cell }

/-- A cell that is owned by a variable, for patterns that are defined by builders of the caller. The
builders name its placeholder by `binder`. -/
def newCell (binder name : String) (limit : Option Depth.Request) : Action Placeholder := do
  let cell ← Grammar.newCell .pattern name limit
  let owner ← newGrammar .pattern name (.recursive cell)
  modify (Store.assign binder (.grammar owner))
  placeholderOf cell name

/-- Does something with what a variable holds. When that was forgotten, null is left, which has no
members. -/
def withHeld {α : Type} (name member : String) (action : Action α) : Action α := do
  if ((← get).assigned? name).isNone then fail (.missingMember Value.null.typeName member)
  action

/-- Gives a cell a builder. -/
def setBuilder (placeholder : Placeholder) (binder : String) (script : Nat → Script) :
    Action Unit :=
  Grammar.setBuilder placeholder.cell ⟨script, [(binder, placeholder)]⟩

/-- Builds the definition of a cell unless it is built. -/
def resolve (placeholder : Placeholder) : Action Unit := do
  let _ ← sessionRunner.resolve placeholder.cell

/-- Runs the definition of a cell. -/
def invoke (placeholder : Placeholder) (text : Text) (start : Int) : Action (Option Match) :=
  sessionRunner.owning (.recursive placeholder.cell) text start

/-- Runs the placeholder of a cell. -/
def forward (placeholder : Placeholder) (text : Text) (start : Int) : Action (Option Match) :=
  sessionRunner (.placeholder placeholder.cell) text start

def isResolved (placeholder : Placeholder) : Action Bool := do
  return (← cellAt placeholder.cell).definition.isSome

/-- How often a builder of a cell was called. -/
def buildCount (placeholder : Placeholder) : Action Nat := do
  return (← cellAt placeholder.cell).calls

end Session

end TextGrammar
