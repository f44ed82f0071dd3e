import TextGrammar.Grammar.Shorthand

/-!
Balanced brackets, by two grammars defined in terms of themselves, one within the other.
-/
namespace TextGrammar.Sample

/-- A pair of brackets, with one pair in another to any depth. -/
def nestedPair : Expression :=
  .fix .pattern "single" ("(" + Expression.variable "single" + ")" ||| "()") none

/-- Any balanced brackets, at least one pair. -/
def brackets : Expression :=
  .fix .pattern "bracketed"
    (.oneOrMore nestedPair ||| "(" + Expression.variable "bracketed" + ")")
    none

end TextGrammar.Sample
