import TextGrammar.Grammar.Shorthand
import TextGrammar.Value.Transform

/-!
Grammars for numbers. Digits of all scripts count. A fraction may lack its whole part or its
fractional part, but not both.
-/
namespace TextGrammar.Sample

def digits : Expression := .constant .digits

/-- The number that a decimal numeral stands for. -/
def toFraction (value : Value) : Except Fault Value :=
  match value with
  | .str text => match Numeral.decimal? text with
    | some number => .ok (.float number)
    | none => .error (.invalidNumeral 10 text)
  | _ => .error (.notNumeral value.typeName)

/-- Digits, as an integer. -/
def uint : Expression :=
  .shifted (.captured digits) Value.toInteger

/-- Digits with an optional sign, as an integer. -/
def integer : Expression :=
  .shifted (.captured (.optional (.literal "-") + digits)) Value.toInteger

/-- The digits of a part of a number, of which one is enough if the part is missing. -/
def partDigits : Value → String
  | .str digits => digits
  | _ => "0"

/-- A whole and a fractional part put together. -/
def joinParts (value : Value) : Except Fault Value :=
  match value with
  | .tuple [whole, fraction] => toFraction (.str (partDigits whole ++ "." ++ partDigits fraction))
  | _ => .error (.notNumeral value.typeName)

/-- The digits in front of the point, if any. -/
def wholePart : Expression := .optional (.captured digits)

/-- The point and the digits behind it, if any. -/
def fractionalPart : Expression := .optional ("." + Expression.captured digits)

/-- A number without sign. -/
def ufloat : Expression :=
  .shifted (.filter (wholePart + fractionalPart)
    (Value.Test.differs (.tuple [.null, .null]))) joinParts

/-- A number with an optional sign. -/
def signedFloat : Expression :=
  ufloat ||| .shifted ("-" + ufloat) Value.negate

end TextGrammar.Sample
