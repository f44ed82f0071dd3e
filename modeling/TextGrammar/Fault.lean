import TextGrammar.Kind
import TextGrammar.Text.Template
import TextGrammar.Value.Printed

/-!
What can go wrong, by cause. That a grammar does not match is no fault, except where a caller asks
for the value of a whole text or nothing.
-/
namespace TextGrammar

/-- A cause of failure. -/
inductive Fault
  /-- A leaf was asked for a negative number of characters. -/
  | negativeLength (length : Int)
  /-- A leaf was asked for a word that is no text. -/
  | notWord (type : String)
  /-- One of several words that a leaf was asked for is no text. -/
  | notWordAmong (type : String)
  /-- A grammar was to be repeated a negative number of times. -/
  | negativeTimes (name : String) (times : Int)
  /-- What followed a grammar was neither a grammar nor a text. -/
  | notSequenced (first : Kind) (operand : Value)
  /-- An alternative was neither a grammar of the same kind nor, among patterns, a text. -/
  | notAlternative (first : Kind) (operand : Value)
  /-- An alternative was a grammar of the other kind. -/
  | otherKindAlternative (first : Kind) (operand : String)
  /-- A pattern was needed, and the operand could not stand for one. -/
  | notPattern (operand : Value)
  /-- An operator has no meaning for operands of these types. -/
  | unsupportedOperands (operator left right : String)
  /-- The sign change has no meaning for an operand of this type. -/
  | unsupportedNegation (type : String)
  /-- An operand of this type has no member of this name. -/
  | missingMember (type member : String)
  /-- A type makes no copies of its values. -/
  | notCopied (type : String)
  /-- A name stands for nothing. -/
  | unboundVariable (name : String)
  /-- A regular expression is not well formed. -/
  | malformedRegex
  /-- A regular expression asks for too many repetitions. -/
  | repetitionTooLarge
  /-- Flags were given for a regular expression that has been read already. -/
  | flagsForCompiled
  /-- A nesting limit was negative. -/
  | negativeDepth (depth : Int)
  /-- A builder's answer was no grammar. -/
  | wrongDefinition (grammar : String) (definition : Value) (expected : Kind)
  /-- A builder's answer was a grammar of the other kind. -/
  | otherKindDefinition (grammar definition : String) (expected : Kind)
  /-- A recursive grammar ran before it was given a builder. -/
  | noBuilder (grammar : String)
  /-- A builder ran the grammar that it was building. -/
  | reentered (grammar : String)
  /-- A placeholder ran when nothing owned its grammar any more. -/
  | outlived (grammar : String)
  /-- Invocations of a grammar nested beyond its limit. -/
  | tooDeep (grammar : String) (limit : Nat) (offset : Int)
  /-- An offset lies outside of its text. -/
  | offsetOutOfRange (offset : Int) (length : Nat)
  /-- A character was asked for outside of its text. -/
  | noCharacter
  /-- A character was asked for at an offset that is no index at all. -/
  | noIndex
  /-- A position for a regular expression is no index at all. -/
  | noPosition
  /-- A text was to be cut at a fraction. -/
  | notCut
  /-- A grammar was to be repeated as often as a value of this type says. -/
  | notCount (type : String)
  /-- A count of characters reaches outside of its text. -/
  | charactersOutOfRange (units start : Int) (length : Nat)
  /-- A count of storage units reaches beyond the end of its text. -/
  | unitsBeyondEnd (units : Int) (codec : String) (start : Int)
  /-- A count of storage units ends between two boundaries of characters. -/
  | unitsInsideCharacter (units : Int) (codec : String) (start : Int)
  /-- A text is no numeral to this base. -/
  | invalidNumeral (base : Nat) (text : String)
  /-- A numeral has this many digits, which is too many. -/
  | numeralTooLong (digits : Nat)
  /-- An integer has too many digits to be written. -/
  | integerTooLong
  /-- An integer is beyond the greatest binary fraction. -/
  | integerTooLarge
  /-- A sequence was to be repeated too often. -/
  | sizeTooLarge
  /-- Infinity was to be an integer. -/
  | integerOfInfinity
  /-- What is no number was to be an integer. -/
  | integerOfNoNumber
  /-- A value of this type stands for no number. -/
  | notNumeral (type : String)
  /-- A base was given for something other than a text. -/
  | baseForNonText
  /-- A value of this type has no length. -/
  | notSized (type : String)
  /-- A value of this type has no items. -/
  | notIterable (type : String)
  /-- A value of this type has no numbered items. -/
  | notSubscriptable (type : String)
  /-- A sequence of this type has no item of that number. -/
  | noItem (type : String)
  /-- A dictionary has no entry for a number. -/
  | noEntry (key : Nat)
  /-- A sequence of the first type was to be continued by a value of the second. -/
  | notConcatenated (receiver other : String)
  /-- A sequence was to be repeated by a value of this type. -/
  | notRepeated (type : String)
  /-- Something without items was to be joined. -/
  | notJoined
  /-- An item of a joined sequence was no text. -/
  | itemNotText (index : Nat) (type : String)
  /-- Values of these types have no order. -/
  | unordered (operator left right : String)
  /-- A value of this type has no letters to be made small. -/
  | notLowered (type : String)
  /-- A text was searched for a value of this type. -/
  | notSought (type : String)
  /-- A text was filled with a number, but is no template for one. -/
  | notFilled (defect : Template.Defect)
  /-- A value of this type cannot be a key. -/
  | unhashable (type : String)
  /-- An entry of a dictionary was no sequence. -/
  | entryNotSequence (index : Nat)
  /-- An entry of a dictionary was no pair. -/
  | entryNotPair (index length : Nat)
  /-- A client's function gave up with this message. -/
  | raised (message : String)
  /-- The whole text was asked for, and the grammar matched no part of it. -/
  | notMatched (name : String)
  /-- The whole text was asked for, and the grammar matched only its beginning. -/
  | partlyMatched (name : String) (stop : Int) (length : Nat)

namespace Fault

/-- The longest quotation that a message about numerals shows. -/
def quotationLimit : Nat := 200

/-- What all messages about the number of digits of an integer begin with. -/
def digitsExceeded : String :=
  s!"Exceeds the limit ({Numeral.digitLimit} digits) for integer string conversion"

/-- What all messages about the number of digits of an integer end with. -/
def digitsAdvice : String := "; use sys.set_int_max_str_digits() to increase the limit"

/-- The wording of a fault. -/
def message : Fault → String
  | negativeLength length => s!"cannot match a negative number of characters: {length}"
  | notWord type => s!"startswith first arg must be str or a tuple of str, not {type}"
  | notWordAmong type => s!"tuple for startswith must only contain str, not {type}"
  | negativeTimes name times => s!"cannot apply {name} a negative number of times: {times}"
  | notSequenced first operand => s!"cannot sequence a {first.noun} with {operand.printed}"
  | notAlternative first operand => s!"cannot choose between {first.title} and {operand.printed}"
  | otherKindAlternative first operand => s!"cannot choose between {first.title} and {operand}"
  | notPattern operand => s!"expected a pattern, a parser or a str, got {operand.printed}"
  | unsupportedOperands operator left right =>
    s!"unsupported operand type(s) for {operator}: '{left}' and '{right}'"
  | unsupportedNegation type => s!"bad operand type for unary -: '{type}'"
  | missingMember type member => s!"'{type}' object has no attribute '{member}'"
  | notCopied type => s!"{type} takes no arguments"
  | unboundVariable name => Quoted.quote name
  | malformedRegex => "malformed regular expression"
  | repetitionTooLarge => "the repetition number is too large"
  | flagsForCompiled => "cannot process flags argument with a compiled pattern"
  | negativeDepth depth => s!"max_depth must be non-negative, got {depth}"
  | wrongDefinition grammar definition expected =>
    s!"the builder of {grammar} returned {definition.printed}, expected a {expected.title}"
  | otherKindDefinition grammar definition expected =>
    s!"the builder of {grammar} returned {definition}, expected a {expected.title}"
  | noBuilder grammar => s!"{grammar} has no builder"
  | reentered grammar =>
    s!"{grammar} was invoked by its own builder before the grammar was built; " ++
      "use the placeholder inside combinators only"
  | outlived grammar => s!"the placeholder of {grammar} outlived its grammar"
  | tooDeep grammar limit offset =>
    s!"{grammar} nested deeper than {limit} levels at offset {offset}"
  | offsetOutOfRange offset length =>
    s!"offset {offset} is out of range for a text of length {length}"
  | noCharacter => "string index out of range"
  | noIndex | sizeTooLarge => "cannot fit 'int' into an index-sized integer"
  | noPosition => "Python int too large to convert to C ssize_t"
  | notCut => "slice indices must be integers or None or have an __index__ method"
  | notCount type => s!"'{type}' object cannot be interpreted as an integer"
  | charactersOutOfRange units start length =>
    s!"{units} characters from offset {start} are out of range for a text of length {length}"
  | unitsBeyondEnd units codec start =>
    s!"{units} {codec} units from offset {start} are beyond the end of the text"
  | unitsInsideCharacter units codec start =>
    s!"{units} {codec} units from offset {start} end inside a character"
  | invalidNumeral base text =>
    let quotation := String.ofList ((Quoted.quote text).toList.take quotationLimit)
    s!"invalid literal for int() with base {base}: {quotation}"
  | numeralTooLong digits => s!"{digitsExceeded}: value has {digits} digits{digitsAdvice}"
  | integerTooLong => digitsExceeded ++ digitsAdvice
  | integerTooLarge => "int too large to convert to float"
  | integerOfInfinity => "cannot convert float infinity to integer"
  | integerOfNoNumber => "cannot convert float NaN to integer"
  | notNumeral type =>
    "int() argument must be a string, a bytes-like object or a real number, " ++ s!"not '{type}'"
  | baseForNonText => "int() can't convert non-string with explicit base"
  | notSized type => s!"object of type '{type}' has no len()"
  | notIterable type => s!"'{type}' object is not iterable"
  | notSubscriptable type => s!"'{type}' object is not subscriptable"
  | noItem type => s!"{type} index out of range"
  | noEntry key => toString key
  | notConcatenated receiver other =>
    s!"can only concatenate {receiver} (not \"{other}\") to {receiver}"
  | notRepeated type => s!"can't multiply sequence by non-int of type '{type}'"
  | notJoined => "can only join an iterable"
  | itemNotText index type => s!"sequence item {index}: expected str instance, {type} found"
  | unordered operator left right =>
    s!"'{operator}' not supported between instances of '{left}' and '{right}'"
  | notLowered type => s!"descriptor 'lower' for 'str' objects doesn't apply to a '{type}' object"
  | notSought type => s!"must be str, not {type}"
  | notFilled defect => defect.message
  | unhashable type => s!"unhashable type: '{type}'"
  | entryNotSequence index =>
    s!"cannot convert dictionary update sequence element #{index} to a sequence"
  | entryNotPair index length =>
    s!"dictionary update sequence element #{index} has length {length}; 2 is required"
  | raised message => message
  | notMatched name => s!"{name} did not match"
  | partlyMatched name stop length => s!"{name} matched only {stop} of {length} characters"

end Fault

end TextGrammar
