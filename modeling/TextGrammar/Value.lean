import TextGrammar.Number.Binary64

/-!
The values that grammars yield. Equality follows the meaning: truth values count as the numbers 0
and 1, an integer equals the binary fraction of the same size, and the order of a dictionary's
entries does not matter.
-/
namespace TextGrammar

/-- A parsed value. The entries of a dictionary stand in the order of their first insertion. -/
inductive Value
  | null
  | bool (truth : Bool)
  | int (integer : Int)
  | float (number : Binary64)
  | str (text : String)
  | list (items : List Value)
  | tuple (items : List Value)
  | dict (entries : List (Value × Value))

namespace Value

/-- The name of a value's type, as messages give it. -/
def typeName : Value → String
  | .null => "NoneType"
  | .bool _ => "bool"
  | .int _ => "int"
  | .float _ => "float"
  | .str _ => "str"
  | .list _ => "list"
  | .tuple _ => "tuple"
  | .dict _ => "dict"

/-- The integer that a number without fraction stands for; truth values are such numbers. -/
def integer? : Value → Option Int
  | .bool truth => some (if truth then 1 else 0)
  | .int integer => some integer
  | _ => none

/-- Whether a value counts as true: null, zero and whatever is empty do not. -/
def truth : Value → Bool
  | .null => false
  | .bool truth => truth
  | .int integer => integer != 0
  | .float number => number.magnitudeBits != 0
  | .str text => !text.isEmpty
  | .list items => !items.isEmpty
  | .tuple items => !items.isEmpty
  | .dict entries => !entries.isEmpty

/-- Equality of two values of which at least one is neither a text nor a collection. -/
def sameScalar (sameNumber : Binary64 → Binary64 → Bool) (first second : Value) : Bool :=
  match first, second with
  | .null, .null => true
  | .float number, .float other => sameNumber number other
  | .float number, other => other.integer?.any number.isInteger
  | other, .float number => other.integer?.any number.isInteger
  | _, _ => match first.integer?, second.integer? with
    | some integer, some other => integer == other
    | _, _ => false

mutual

/-- Equality of values by an equality of binary fractions. -/
def sameBy (sameNumber : Binary64 → Binary64 → Bool) : Value → Value → Bool
  | .str text, second => match second with
    | .str other => text == other
    | _ => false
  | .list items, second => match second with
    | .list others => sameItemsBy sameNumber items others
    | _ => false
  | .tuple items, second => match second with
    | .tuple others => sameItemsBy sameNumber items others
    | _ => false
  | .dict entries, second => match second with
    | .dict others => entries.length == others.length && haveEntriesBy sameNumber entries others
    | _ => false
  | first, second => sameScalar sameNumber first second

/-- Equality of two sequences, item by item. -/
def sameItemsBy (sameNumber : Binary64 → Binary64 → Bool) : List Value → List Value → Bool
  | [], [] => true
  | item :: items, other :: others =>
    item.sameBy sameNumber other && sameItemsBy sameNumber items others
  | _, _ => false

/-- Whether each of `entries` has an equal one among `others`. -/
def haveEntriesBy (sameNumber : Binary64 → Binary64 → Bool) :
    List (Value × Value) → List (Value × Value) → Bool
  | [], _ => true
  | (key, value) :: rest, others =>
    others.any (fun other => key.sameBy sameNumber other.1 && value.sameBy sameNumber other.2) &&
      haveEntriesBy sameNumber rest others

end

/-- Equality of values. What is no number equals nothing. -/
def same (first second : Value) : Bool :=
  first.sameBy Binary64.sameNumber second

/-- Equality of a value with what became of it. What is no number is at least itself. -/
def sameObject (first second : Value) : Bool :=
  first.sameBy (fun number other => number == other || number.sameNumber other) second

/-- The entries with one added. A key that is there already keeps its place, and the spelling it
came with first, and takes the new value. -/
def insertEntry (key value : Value) : List (Value × Value) → List (Value × Value)
  | [] => [(key, value)]
  | (known, old) :: rest =>
    if known.same key then (known, value) :: rest
    else (known, old) :: insertEntry key value rest

/-- The dictionary that takes its entries in the given order. -/
def dictOfPairs (pairs : List (Value × Value)) : Value :=
  .dict (pairs.foldl (fun entries pair => insertEntry pair.1 pair.2 entries) [])

end Value

end TextGrammar
