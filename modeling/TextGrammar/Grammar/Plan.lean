import TextGrammar.Grammar.Shorthand
import TextGrammar.Leaf.Handwritten
import TextGrammar.Value.Transform

/-!
Plans: what follows a parsed value, and what a builder does apart from answering with a definition.
-/
namespace TextGrammar

namespace Expression.CharacterClass

def decimal : CharacterClass := ⟨"isdecimal", Character.isDecimal⟩

def blank : CharacterClass := ⟨"isspace", Character.isBlank⟩

def letter : CharacterClass := ⟨"isalpha", Character.isLetter⟩

def upper : CharacterClass := ⟨"isupper", Character.isUpper⟩

def lower : CharacterClass := ⟨"islower", Character.isLower⟩

/-- Vowels, under any description. -/
def vowel (description : String) : CharacterClass :=
  ⟨description, fun character => ['a', 'e', 'i', 'o', 'u'].contains character⟩

end Expression.CharacterClass

/-- What follows a parsed value. -/
abbrev Follower := Value → Expression

namespace Follower

/-- As many characters as the value says, as text. -/
def fixedText : Follower := fun value => .captured (.fixedOf value)

/-- The value itself once more, as text. -/
def literalText : Follower := fun value => .captured (.literalOf value)

/-- A grammar as often as the value says. -/
def times (operand : Expression) : Follower := fun value => .times operand value

/-- A parser, whose value is paired with the one before. -/
def pairedWith (operand : Expression) : Follower := fun value =>
  .map operand (Value.Transform.pairedWith value)

/-- The grammar that a table has for the value, or another one. -/
def table (rows : List (Value × Expression)) (otherwise : Expression) : Follower := fun value =>
  match rows.find? fun row => row.1.same value with
  | some row => row.2
  | none => otherwise

/-- Gives up with a message. -/
def raising (message : String) : Follower := fun _ => .invalid (.raised message)

end Follower

/-- What a builder does at each call before it answers. -/
structure BuilderPlan where
  /-- The label under which calls are counted. -/
  label : Option String := none
  /-- The variable that is given the placeholder. -/
  leak : Option String := none
  /-- How many of the first calls fail. -/
  failures : Int := 0
  /-- A text that the placeholder is run on, although its grammar is not built yet. -/
  eager : Option String := none

namespace BuilderPlan

/-- Fails because it is too early. -/
def notYet : Script := .finish (.invalid (.raised "not yet"))

/-- Answers with a definition after a run of the placeholder, whose fault is passed on. -/
def afterRun (binder text : String) (definition : Expression) : Script :=
  .attempt (.variable binder) (Text.ofString text) 0 fun outcome =>
    match outcome with
    | .ok _ => .finish definition
    | .error fault => .finish (.invalid fault)

/-- The script of a plan for a definition that names its placeholder by `binder`. -/
def script (plan : BuilderPlan) (binder : String) (definition : Expression) (call : Nat) : Script :=
  let answer :=
    if (call : Int) ≤ plan.failures then notYet
    else match plan.eager with
      | some text => afterRun binder text definition
      | none => .finish definition
  let exposed := match plan.leak with
    | some name => .leak name (.variable binder) answer
    | none => answer
  match plan.label with
  | some label => .tally label exposed
  | none => exposed

/-- Goes on by a number of characters, whether the text has them or not. -/
def jump (count : Int) : Expression := .leaf .pattern "jump" (Leaf.jump count)

/-- One level of nesting for each character of the text. -/
def nest (binder : String) : Expression :=
  .constant .finished ||| .fixed 1 + .variable binder

end BuilderPlan

end TextGrammar
