/-!
Indices and sizes. Items are counted in signed words of 64 bits, so integers beyond those can
neither be places in a sequence nor sizes of one.
-/
namespace TextGrammar

/-- The least number that is too large for an index. -/
def indexLimit : Nat := 1 <<< 63

/-- Whether an integer can be an index or a size. -/
def isIndex (integer : Int) : Bool :=
  -indexLimit ≤ integer && integer < indexLimit

end TextGrammar
