import TextGrammar.Number.Numeral
import TextGrammar.Number.Shortest
import TextGrammar.Text.Quoted
import TextGrammar.Value

/-!
Values as names and messages show them: texts in quotes, collections in their brackets with a
comma and a space between items, and a comma behind the only item of a tuple. An integer of too
many digits has no text that is ever shown.
-/
namespace TextGrammar.Value

/-- The items of a collection, separated. -/
def separate (items : List String) : String :=
  String.intercalate ", " items

mutual

/-- A value as text. -/
def printed : Value → String
  | .null => "None"
  | .bool truth => if truth then "True" else "False"
  | .int integer => toString integer
  | .float number => number.text
  | .str text => Quoted.quote text
  | .list items => "[" ++ separate (printedItems items) ++ "]"
  | .tuple items => match printedItems items with
    | [single] => "(" ++ single ++ ",)"
    | texts => "(" ++ separate texts ++ ")"
  | .dict entries => "\x7b" ++ separate (printedEntries entries) ++ "\x7d"

def printedItems : List Value → List String
  | [] => []
  | item :: items => item.printed :: printedItems items

def printedEntries : List (Value × Value) → List String
  | [] => []
  | (key, value) :: rest => (key.printed ++ ": " ++ value.printed) :: printedEntries rest

end

mutual

/-- Whether all integers in a value have few enough digits to be written. -/
def isWritable : Value → Bool
  | .int integer => Numeral.isWritable integer
  | .list items | .tuple items => areWritableItems items
  | .dict entries => areWritableEntries entries
  | _ => true

def areWritableItems : List Value → Bool
  | [] => true
  | item :: items => item.isWritable && areWritableItems items

def areWritableEntries : List (Value × Value) → Bool
  | [] => true
  | (key, value) :: rest => key.isWritable && value.isWritable && areWritableEntries rest

end

end TextGrammar.Value
