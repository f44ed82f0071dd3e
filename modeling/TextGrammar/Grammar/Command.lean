import TextGrammar.Grammar.Session

/-!
Commands, which are what a caller asks of a session, as data. A session is the list of its
commands, carried out one after the other on the same store. Each of them has its own reply, and
one that is not answered does not end the session.
-/
namespace TextGrammar

/-- What came of an action: its answer or why there is none, and the lines that it logged. -/
structure Reply (α : Type) where
  outcome : Except Halt α
  log : List String

/-- Carries an action out and replies to it. -/
def Action.reply {α : Type} (action : Action α) : StateM Store (Reply α) := do
  let outcome ← action.run
  return ⟨outcome, ← modifyGet Session.takeLog⟩

/-- Something that a caller asks of a session. Expressions are evaluated when it is carried out. -/
inductive Command
  /-- Make the log verbose or quiet. -/
  | setVerbose (verbose : Bool)
  | assign (name : String) (definition : Expression)
  | forget (name : String)
  | describe (subject : Expression)
  /-- Tell how often builders were called under a label. -/
  | tally (label : String)
  | matchPrefix (subject : Expression) (text : Text) (start : Int)
  | runAt (subject : Expression) (text : Text) (start : Int)
  | matchesAll (subject : Expression) (text : Text)
  | parse (subject : Expression) (text : Text)
  | parseOrFail (subject : Expression) (text : Text)

/-- The answer to a command. -/
inductive Answer
  | done
  | description (told : Description)
  | count (calls : Nat)
  | found (outcome : Option Match)
  | decision (holds : Bool)
  | value (parsed : Value)

namespace Command

/-- Does what a command asks for. -/
def perform : Command → Action Answer
  | .setVerbose verbose => do
    Session.setVerbose verbose
    return .done
  | .assign name definition => .description <$> Session.assign name definition
  | .forget name => do
    Session.forget name
    return .done
  | .describe subject => do return .description (← (← Session.evaluate subject).describe)
  | .tally label => .count <$> Session.tally label
  | .matchPrefix subject text start => do
    return .found (← (← Session.evaluate subject).matchPrefix text start)
  | .runAt subject text start => do
    return .found (← (← Session.evaluate subject).runAt text start)
  | .matchesAll subject text => do
    return .decision (← (← Session.evaluate subject).matchesAll text)
  | .parse subject text => do return .value (← (← Session.evaluate subject).parse text)
  | .parseOrFail subject text => do
    return .value (← (← Session.evaluate subject).parseOrFail text)

/-- Carries commands out, one after the other. -/
def performAll (commands : List Command) : StateM Store (List (Reply Answer)) :=
  commands.mapM fun command => command.perform.reply

end Command

/-- The replies to the commands of a whole session. -/
def Session.replies (commands : List Command) : List (Reply Answer) :=
  ((Command.performAll commands).run Store.initial).1

end TextGrammar
