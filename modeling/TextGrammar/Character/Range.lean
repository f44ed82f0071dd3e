/-!
Classes of characters given by ranges of code points.
-/
namespace TextGrammar.Character

/-- Whether the code point of `character` lies in one of `ranges`, both ends included. -/
def inRanges (ranges : List (Nat × Nat)) (character : Char) : Bool :=
  ranges.any fun range => range.1 ≤ character.toNat && character.toNat ≤ range.2

end TextGrammar.Character
