import TextGrammar.Fault

/-!
Classes of faults. A class may be a special case of others: what goes wrong in the definition of a
grammar, or by nesting too deeply, is a fault of grammars and a fault of running programs as well.
-/
namespace TextGrammar

/-- A class that faults belong to. -/
inductive FaultClass
  | combinator
  | noParse
  | grammar
  | depthLimit
  | runtime
  | recursion
  | value
  | overflow
  | index
  | key
  | type
  | attribute
  | regex
  deriving DecidableEq, Repr

namespace FaultClass

/-- The classes that a class is a special case of, itself included. -/
def lineage : FaultClass → List FaultClass
  | .noParse => [.noParse, .combinator]
  | .grammar => [.grammar, .combinator, .runtime]
  | .depthLimit => [.depthLimit, .combinator, .recursion, .runtime]
  | .recursion => [.recursion, .runtime]
  | other => [other]

/-- Whether a class is a special case of another. -/
def isA (special general : FaultClass) : Bool :=
  special.lineage.contains general

/-- The classes whose faults can be told apart by their general class. -/
def general : List FaultClass := [.combinator, .runtime, .recursion, .value]

/-- The classes of the library's own faults. -/
def own : List FaultClass := [.combinator, .noParse, .grammar, .depthLimit]

end FaultClass

/-- The class of a fault. -/
def Fault.class : Fault → FaultClass
  | .notMatched _ | .partlyMatched _ _ _ => .noParse
  | .wrongDefinition _ _ _ | .otherKindDefinition _ _ _ | .noBuilder _ | .reentered _
  | .outlived _ => .grammar
  | .tooDeep _ _ _ => .depthLimit
  | .offsetOutOfRange _ _ | .noCharacter | .noIndex | .noItem _ => .index
  | .noEntry _ | .unboundVariable _ => .key
  | .negativeLength _ | .negativeTimes _ _ | .flagsForCompiled | .negativeDepth _
  | .charactersOutOfRange _ _ _ | .unitsBeyondEnd _ _ _ | .unitsInsideCharacter _ _ _
  | .invalidNumeral _ _ | .numeralTooLong _ | .integerTooLong | .integerOfNoNumber
  | .entryNotPair _ _ | .raised _ => .value
  | .integerTooLarge | .sizeTooLarge | .integerOfInfinity | .noPosition | .repetitionTooLarge =>
    .overflow
  | .missingMember _ _ => .attribute
  | .malformedRegex => .regex
  | .notFilled defect => match defect with
    | .noPlace | .tooManyPlaces | .namedPlace => .type
    | .unfinished | .unknownForm _ _ | .widthTooLarge | .precisionTooLarge => .value
  | .notWord _ | .notWordAmong _ | .notCut | .notCount _
  | .notSequenced _ _ | .notAlternative _ _ | .otherKindAlternative _ _
  | .notPattern _ | .unsupportedOperands _ _ _ | .unsupportedNegation _ | .notCopied _
  | .notNumeral _ | .baseForNonText | .notSized _ | .notIterable _ | .notSubscriptable _
  | .notConcatenated _ _ | .notRepeated _ | .notJoined | .itemNotText _ _ | .unordered _ _ _
  | .notLowered _ | .notSought _ | .unhashable _ | .entryNotSequence _ => .type

/-- Whether the wording of a fault is settled. That of a malformed expression, and of a grammar in
a place for one of the other kind, is not. -/
def Fault.isWorded : Fault → Bool
  | .malformedRegex | .otherKindAlternative _ _ | .otherKindDefinition _ _ _ => false
  | _ => true

/-- The end of the part that was matched, for faults that tell it. -/
def Fault.matchedEnd? : Fault → Option Int
  | .partlyMatched _ stop _ => some stop
  | _ => none

end TextGrammar
