import TextGrammar.Grammar.Depth
import TextGrammar.Leaf
import TextGrammar.Value.Operation

/-!
Expressions for grammars. An expression says how a grammar is put together; evaluating it makes the
grammar. It may also be a plain value in the place of an operand, where only some operations accept
it, or a name for a grammar that is known when the expression is evaluated. The definition of a
recursive grammar is evaluated late, when the grammar first runs, and what follows a parsed value
is evaluated anew for each value.
-/
namespace TextGrammar

/-- The grammars that are there from the start, one object each. -/
inductive Constant
  | finished
  | nothing
  | failure
  | digits
  | whitespace
  | letters
  deriving DecidableEq, Repr

/-- The slot that holds the definition of a recursive grammar. -/
abbrev CellId := Nat

/-- The number of a grammar object, under which its name is kept. -/
abbrev Tag := Nat

/-- What stands for a recursive grammar in a scope: its stand-in in its own definition, or the grammar
itself where a function has captured it. -/
structure Placeholder where
  kind : Kind
  tag : Tag
  /-- Whether its runs are logged. -/
  traced : Bool
  cell : CellId
  /-- Whether it is the grammar itself, which owns its cell. -/
  captured : Bool := false

/-- The placeholders that an expression may name, the innermost first. -/
abbrev Scope := List (String × Placeholder)

namespace Scope

/-- The cells that a scope owns, and with it the functions that are made in it. -/
def owned (scope : Scope) : List CellId :=
  (scope.filter (·.2.captured)).map (·.2.cell)

/-- A scope that owns nothing, and only refers to what it has owned. -/
def released (scope : Scope) : Scope := scope.map fun entry => (entry.1, { entry.2 with captured := false })

end Scope

mutual

/-- How a grammar is put together. -/
inductive Expression
  /-- A plain value. -/
  | raw (value : Value)
  /-- What a name stands for: a placeholder in scope, or else a variable of the session. -/
  | variable (name : String)
  /-- No grammar, but a fault. -/
  | invalid (fault : Fault)
  /-- A new grammar without parts. -/
  | leaf (kind : Kind) (name : String) (recognise : Leaf)
  | constant (shared : Constant)
  /-- A grammar and what follows it. -/
  | followedBy (first second : Expression)
  /-- The same, written as a sum: plain values are added to one another, and refused beside a
  grammar unless they are texts. -/
  | sum (first second : Expression)
  /-- An ordered choice. -/
  | orElse (first second : Expression)
  /-- The same, written as a union of operands. -/
  | union (first second : Expression)
  /-- An ordered choice between any number of alternatives of one kind. -/
  | either (kind : Kind) (alternatives : List Expression)
  | optional (operand : Expression)
  | many (operand : Expression)
  | oneOrMore (operand : Expression)
  | times (operand : Expression) (count : Value)
  | separatedBy (operand separator : Expression)
  | captured (operand : Expression)
  /-- The text matched by an operand that is first taken as a pattern. -/
  | capturedPattern (operand : Expression)
  /-- A value for what a pattern matches. -/
  | returning (operand : Expression) (value : Value)
  /-- A value for what an operand matches that is first taken as a pattern. -/
  | valueFor (operand : Expression) (value : Value)
  /-- A parser without its value. -/
  | erased (operand : Expression)
  /-- The same, written as a sign change. -/
  | negated (operand : Expression)
  | map (operand : Expression) (transform : Value → Except Fault Value)
  /-- The same, written as a shift by a function of a type that messages name. -/
  | shifted (operand : Expression) (transform : Value → Except Fault Value)
    (functionType : String := "function")
  | filter (operand : Expression) (accept : Value → Except Fault Bool)
  | bind (operand : Expression) (continuation : Value → Expression)
  /-- Renames a grammar object. -/
  | named (operand : Expression) (name : String)
  /-- A new object that runs as the old one does. -/
  | copy (operand : Expression)
  /-- A grammar whose builders and binders have captured the recursive grammars that these names stand
  for, and no others. -/
  | capturing (names : List String) (body : Expression)
  /-- A grammar made with a function that has captured what these names stand for. -/
  | retaining (names : List String) (body : Expression)
  /-- A grammar defined in terms of itself: `script` says what its builder does at which of its
  calls, and `binder` is the name of the placeholder there. -/
  | recursive (kind : Kind) (binder : String) (limit : Option Depth.Request) (script : Nat → Script)

/-- What a builder does when it is called. -/
inductive Script
  /-- Answers with what an expression stands for. -/
  | finish (definition : Expression)
  /-- Counts the call under a label. -/
  | tally (label : String) (rest : Script)
  /-- Assigns what an expression stands for to a variable of the session. -/
  | leak (name : String) (subject : Expression) (rest : Script)
  /-- Runs a grammar while its own is being built, and goes on with what came of it. -/
  | attempt (subject : Expression) (text : Text) (start : Int)
      (rest : Except Fault (Option Match) → Script)

end

namespace Expression

/-- Matches a word. -/
def literal (word : String) : Expression :=
  .leaf .pattern (Quoted.quote word) (Leaf.literal word)

/-- A new grammar without parts for a number of characters, which must not be negative. -/
def strideLeaf (negative : Bool) (count : Int) (recognise : Leaf) : Expression :=
  if !Numeral.isWritable count then .invalid .integerTooLong
  else if negative then .invalid (.negativeLength count)
  else .leaf .pattern s!"<{count} characters>" recognise

/-- Matches any characters, as many as given. -/
def fixed (count : Int) : Expression :=
  strideLeaf (count < 0) count (Leaf.fixed count)

/-- Matches any characters, as many as a value says. -/
def fixedOf (count : Value) : Expression :=
  match count, count.integer? with
  | .float number, _ => match Value.ofFraction number with
    | .ok whole => strideLeaf (number.isLess 0) whole (Leaf.fixedFraction number)
    | .error fault => .invalid fault
  | _, some count => fixed count
  | _, none => .invalid (.unordered "<" count.typeName "int")

/-- A new grammar without parts that is named after a value. -/
def leafNamedAfter (kind : Kind) (value : Value) (name : String → String) (recognise : Leaf) :
    Expression :=
  if value.isWritable then .leaf kind (name value.printed) recognise
  else .invalid .integerTooLong

/-- Matches a word that is given as a value, or one of several. What is neither a text nor a tuple
can be named, but not looked for. -/
def literalOf (value : Value) : Expression :=
  leafNamedAfter .pattern value id <| match value with
    | .str word => Leaf.literal word
    | .tuple words => Leaf.oneOf words
    | _ => fun _ _ => .error (.notWord value.typeName)

/-- Yields a value without taking a character. -/
def pure (value : Value) : Expression :=
  leafNamedAfter .parser value (fun text => s!"(pure {text})") (Leaf.pure value)

/-- A class of characters, with the words that describe it. -/
structure CharacterClass where
  description : String
  member : Char → Bool

/-- The class of the characters of a text. -/
def CharacterClass.ofString (characters : String) : CharacterClass :=
  let members := characters.toList
  ⟨Quoted.quote characters, members.contains⟩

def charactersIn (members : CharacterClass) : Expression :=
  .leaf .pattern s!"characters in {members.description}" (Leaf.charactersIn members.member)

def charactersNotIn (members : CharacterClass) : Expression :=
  .leaf .pattern s!"characters not in {members.description}"
    (Leaf.charactersIn fun character => !members.member character)

def characterIn (members : CharacterClass) : Expression :=
  .leaf .pattern s!"a character in {members.description}" (Leaf.characterIn members.member)

/-- Matches what a regular expression finds. The source of one for bytes has a character for each
byte. -/
def regex (mode : RegexMode) (source : String) : Expression :=
  match Regex.read mode source with
  | .error .malformed => .invalid .malformedRegex
  | .error .countTooLarge => .invalid .repetitionTooLarge
  | .error (.countTooLong digits) => .invalid (.numeralTooLong digits)
  | .ok expression =>
    if mode.ofBytes then
      .leaf .pattern s!"regex {Quoted.quoteBytes source}" (Leaf.regexBytes mode expression)
    else .leaf .pattern s!"regex {Quoted.quote source}" (Leaf.regex mode expression)

/-- The same for an expression that has its options already, so that no others can be given. -/
def compiledRegex (mode : RegexMode) (source : String) (flags : Int) : Expression :=
  match Regex.read mode source with
  | .ok _ => if flags = 0 then regex mode source else .invalid .flagsForCompiled
  | .error _ => regex mode source

/-- Matches what a function finds that only sees the rest of the text. -/
def ofRecogniser (kind : Kind) (name : Option String) (codec : Codec) (recognise : Recogniser) :
    Expression :=
  .leaf kind (name.getD "prefix function") (Leaf.ofRecogniser codec recognise)

/-- A recursive grammar whose builder only ever answers with the same definition. -/
def fix (kind : Kind) (binder : String) (definition : Expression) (limit : Option Depth.Request) :
    Expression :=
  .recursive kind binder limit fun _ => .finish definition

end Expression

end TextGrammar
