import TextGrammar.Sample.Number

/-!
Sums of integers, defined in terms of themselves.
-/
namespace TextGrammar.Sample

/-- Integers with plus signs between them, as their sum. -/
def total : Expression :=
  .fix .parser "total"
    (.shifted (integer + "+" + Expression.variable "total") (Value.Transform.combined Value.add)
      ||| integer)
    none

end TextGrammar.Sample
