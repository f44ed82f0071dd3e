import TextGrammar.Sample.Number

/-!
Lines of quoted texts and integers, separated by commas. Each line ends with a line break.
-/
namespace TextGrammar.Sample

/-- A text between double quotes, which it cannot hold itself. -/
def quoted : Expression :=
  "\"" + Expression.captured (.charactersNotIn (.ofString "\"")) + "\""

def cell : Expression := quoted ||| integer

def row : Expression := .separatedBy cell ","

def csv : Expression := .many (row + "\n")

end TextGrammar.Sample
