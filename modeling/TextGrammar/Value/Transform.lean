import TextGrammar.Value.Operation

/-!
Transformations and tests of parsed values that grammars commonly use, put together from the
operations on values.
-/
namespace TextGrammar.Value

/-- A transformation of parsed values. -/
abbrev Transform := Value → Except Fault Value

/-- A test of parsed values. -/
abbrev Test := Value → Except Fault Bool

namespace Transform

def length : Transform := fun value => return .int (← value.size)

def first : Transform := fun value => value.item 0

def second : Transform := fun value => value.item 1

/-- The first two items in the other order, as a pair. -/
def swapped : Transform := fun value => do
  let second ← value.item 1
  let first ← value.item 0
  return .tuple [second, first]

/-- The first two items combined by an operation. -/
def combined (operation : Value → Value → Except Fault Value) : Transform := fun value => do
  let first ← value.item 0
  let second ← value.item 1
  operation first second

/-- The first item less each of the items of the second. -/
def reduced : Transform := fun value => do
  let first ← value.item 0
  let second ← value.item 1
  (← second.items).foldlM Value.subtract first

def asList : Transform := fun value => return .list (← value.items)

def asTuple : Transform := fun value => return .tuple (← value.items)

/-- The value as the only item of a list. -/
def inList : Transform := fun value => .ok (.list [value])

/-- The empty list for null, and any other value itself. -/
def orEmpty : Transform := fun value =>
  match value with
  | .null => .ok (.list [])
  | value => .ok value

def constant (answer : Value) : Transform := fun _ => .ok answer

def plus (integer : Int) : Transform := fun value => value.add (.int integer)

/-- The value behind another one, as a pair. -/
def pairedWith (first : Value) : Transform := fun value => .ok (.tuple [first, value])

/-- Gives up with a message. -/
def raising (message : String) : Transform := fun _ => .error (.raised message)

end Transform

namespace Test

def always : Test := fun _ => .ok true

def never : Test := fun _ => .ok false

def isTrue : Test := fun value => .ok value.truth

def equals (other : Value) : Test := fun value => .ok (value.same other)

def differs (other : Value) : Test := fun value => .ok (!value.same other)

/-- Whether a value has more items than a number. -/
def longerThan (bound : Int) : Test := fun value => return bound < (← value.size)

/-- Gives up with a message. -/
def raising (message : String) : Test := fun _ => .error (.raised message)

end Test

end TextGrammar.Value
