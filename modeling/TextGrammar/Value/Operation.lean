import TextGrammar.Character.Case
import TextGrammar.Fault
import TextGrammar.Number.Index

/-!
Operations on values: arithmetic, sequences, and conversions. Each fails with the cause that makes
it meaningless for its operands.
-/
namespace TextGrammar.Value

/-- A number as a binary fraction. An integer is rounded, unless it is too large. -/
def fraction? : Value → Option (Except Fault Binary64)
  | .float number => some (.ok number)
  | value => value.integer?.map fun integer =>
    match Binary64.ofInteger? integer with
    | some number => .ok number
    | none => .error .integerTooLarge

/-- An operation on two numbers: exact on integers, and rounded if one of them is no integer. -/
def arithmetic? (exact : Int → Int → Int) (rounded : Binary64 → Binary64 → Binary64)
    (first second : Value) : Option (Except Fault Value) :=
  match first.integer?, second.integer? with
  | some integer, some other => some (.ok (.int (exact integer other)))
  | _, _ => do
    let number ← first.fraction?
    let other ← second.fraction?
    some do return .float (rounded (← number) (← other))

/-- The sum of two numbers, or one sequence behind another of its type. -/
def add (first second : Value) : Except Fault Value :=
  match first, second with
  | .str text, .str other => .ok (.str (text ++ other))
  | .list items, .list others => .ok (.list (items ++ others))
  | .tuple items, .tuple others => .ok (.tuple (items ++ others))
  | .str _, _ | .list _, _ | .tuple _, _ =>
    .error (.notConcatenated first.typeName second.typeName)
  | _, _ => (arithmetic? (· + ·) Binary64.add first second).getD <|
    .error (.unsupportedOperands "+" first.typeName second.typeName)

def subtract (first second : Value) : Except Fault Value :=
  (arithmetic? (· - ·) (fun number other => number.add other.negate) first second).getD <|
    .error (.unsupportedOperands "-" first.typeName second.typeName)

/-- A sequence repeated, if the value is one; a negative count counts as none. -/
def repeated? (sequence : Value) (count : Int) : Option Value :=
  match sequence with
  | .str text => some (.str (String.join (copies text.isEmpty text)))
  | .list items => some (.list (copies items.isEmpty items).flatten)
  | .tuple items => some (.tuple (copies items.isEmpty items).flatten)
  | _ => none
where
  copies {α : Type} (isEmpty : Bool) (items : α) : List α :=
    if isEmpty then [] else List.replicate count.toNat items

/-- A sequence repeated, if the value is one. -/
def times? (sequence : Value) (count : Int) : Option (Except Fault Value) :=
  if isIndex count then (sequence.repeated? count).map .ok
  else (sequence.repeated? 0).map fun _ => .error .sizeTooLarge

/-- The product of two numbers, or a sequence repeated. -/
def multiply (first second : Value) : Except Fault Value :=
  let isSequence := fun value : Value => (value.repeated? 0).isSome
  match arithmetic? (· * ·) Binary64.multiply first second with
  | some product => product
  | none =>
    let refused := .error (.unsupportedOperands "*" first.typeName second.typeName)
    match first.integer?, second.integer? with
    | _, some count => (first.times? count).getD refused
    | some count, _ => (second.times? count).getD refused
    | none, none =>
      if isSequence first then .error (.notRepeated second.typeName)
      else if isSequence second then .error (.notRepeated first.typeName)
      else refused

def negate (value : Value) : Except Fault Value :=
  match value with
  | .float number => .ok (.float number.negate)
  | _ => match value.integer? with
    | some integer => .ok (.int (-integer))
    | none => .error (.unsupportedNegation value.typeName)

/-- The bits that are set in one integer or the other, both in two's complement. -/
def unionBits : Int → Int → Int
  | .ofNat first, .ofNat second => .ofNat (first ||| second)
  | .ofNat first, .negSucc second => .negSucc (second - (first &&& second))
  | .negSucc first, .ofNat second => .negSucc (first - (first &&& second))
  | .negSucc first, .negSucc second => .negSucc (first &&& second)

/-- The union of two truth values, or of the bits of two integers. -/
def union (first second : Value) : Except Fault Value :=
  match first, second with
  | .bool truth, .bool other => .ok (.bool (truth || other))
  | .dict entries, .dict others => .ok (dictOfPairs (entries ++ others))
  | _, _ => match first.integer?, second.integer? with
    | some integer, some other => .ok (.int (unionBits integer other))
    | _, _ => .error (.unsupportedOperands "|" first.typeName second.typeName)

/-- The items of a value, in order. -/
def items? : Value → Option (List Value)
  | .str text => some (text.toList.map fun character => .str (String.singleton character))
  | .list items | .tuple items => some items
  | .dict entries => some (entries.map (·.1))
  | _ => none

def items (value : Value) : Except Fault (List Value) :=
  match value.items? with
  | some items => .ok items
  | none => .error (.notIterable value.typeName)

/-- The number of a value's items. -/
def size (value : Value) : Except Fault Nat :=
  match value with
  | .str text => .ok text.length
  | _ => match value.items? with
    | some items => .ok items.length
    | none => .error (.notSized value.typeName)

/-- The item of a sequence at a place, counted from zero; of a dictionary, the value of a number as
its key. -/
def item (value : Value) (index : Nat) : Except Fault Value :=
  match value with
  | .str text => match text.toList[index]? with
    | some character => .ok (.str (String.singleton character))
    | none => .error (.noItem "string")
  | .list items | .tuple items => match items[index]? with
    | some item => .ok item
    | none => .error (.noItem value.typeName)
  | .dict entries => match entries.find? fun entry => entry.1.same (.int index) with
    | some entry => .ok entry.2
    | none => .error (.noEntry index)
  | _ => .error (.notSubscriptable value.typeName)

/-- A sequence backwards. Runs of items cannot be keys, so a dictionary has none. -/
def reversed (value : Value) : Except Fault Value :=
  match value with
  | .str text => .ok (.str (String.ofList text.toList.reverse))
  | .list items => .ok (.list items.reverse)
  | .tuple items => .ok (.tuple items.reverse)
  | .dict _ => .error (.unhashable "slice")
  | _ => .error (.notSubscriptable value.typeName)

/-- The sum of a value's items. -/
def total (value : Value) : Except Fault Value := do
  (← value.items).foldlM add (.int 0)

/-- The texts among a value's items in one, if all items are texts. -/
def joinItems : Nat → List Value → Except Fault (List Char)
  | _, [] => .ok []
  | index, .str text :: rest => (text.toList ++ ·) <$> joinItems (index + 1) rest
  | index, item :: _ => .error (.itemNotText index item.typeName)

/-- A value's items, which must be texts, one behind the other. -/
def joined (value : Value) : Except Fault Value :=
  match value.items? with
  | none => .error .notJoined
  | some items => do
    return .str (String.ofList (← joinItems 0 items))

/-- The integer that a numeral to some base stands for. -/
def ofNumeral (base : Nat) (text : String) : Except Fault Int :=
  match Numeral.integer base text with
  | .ok integer => .ok integer
  | .error .malformed => .error (.invalidNumeral base text)
  | .error (.tooLong digits) => .error (.numeralTooLong digits)

/-- The nearest integer towards zero of a binary fraction. -/
def ofFraction (number : Binary64) : Except Fault Int :=
  if number.isFinite then .ok number.truncate
  else .error (if number.isNaN then .integerOfNoNumber else .integerOfInfinity)

/-- The integer that a number or a numeral stands for. -/
def toInteger (value : Value) : Except Fault Value :=
  match value with
  | .str text => .int <$> ofNumeral 10 text
  | .float number => .int <$> ofFraction number
  | _ => match value.integer? with
    | some integer => .ok (.int integer)
    | none => .error (.notNumeral value.typeName)

/-- The integer that a numeral to the base sixteen stands for. -/
def toIntegerHex (value : Value) : Except Fault Value :=
  match value with
  | .str text => .int <$> ofNumeral 16 text
  | _ => .error .baseForNonText

/-- A text in lower case. -/
def lowered (value : Value) : Except Fault Value :=
  match value with
  | .str text => .ok (.str (String.ofList (text.toList.map Character.toLower)))
  | _ => .error (.notLowered value.typeName)

/-- How often a word stands in a text without overlaps, where the first `skip` characters belong to
a place that has been counted. -/
def occurrences (word : List Char) : Nat → List Char → Nat
  | _, [] => 0
  | skip + 1, _ :: rest => occurrences word skip rest
  | 0, first :: rest =>
    if word.isPrefixOf (first :: rest) then occurrences word (word.length - 1) rest + 1
    else occurrences word 0 rest

/-- How often a value stands in a text; the empty text stands around all characters. -/
def count (text : String) (value : Value) : Except Fault Value :=
  match value with
  | .str word =>
    .ok (.int (if word.isEmpty then text.length + 1 else occurrences word.toList 0 text.toList))
  | _ => .error (.notSought value.typeName)

/-- Whether a value can be a key: a collection that can change, or holds one, cannot. -/
def unhashable? : Value → Option String
  | .list _ => some "list"
  | .dict _ => some "dict"
  | .tuple items => unhashableItem? items
  | _ => none
where
  unhashableItem? : List Value → Option String
    | [] => none
    | item :: items => item.unhashable?.or (unhashableItem? items)

/-- The pairs that some items are. -/
def pairs : Nat → List Value → Except Fault (List (Value × Value))
  | _, [] => .ok []
  | index, item :: rest => do
    match item.items? with
    | none => .error (.entryNotSequence index)
    | some [key, value] =>
      match key.unhashable? with
      | some type => .error (.unhashable type)
      | none => return (key, value) :: (← pairs (index + 1) rest)
    | some items => .error (.entryNotPair index items.length)

/-- The dictionary of a value's items, which must be pairs. Of a dictionary it is the same one, and
of whatever does not count as true the empty one. -/
def toDict (value : Value) : Except Fault Value :=
  match value with
  | .dict entries => .ok (.dict entries)
  | _ => if value.truth then do return dictOfPairs (← pairs 0 (← value.items)) else .ok (.dict [])

/-- Whether a number is even. A text is taken for a template and filled with the number two; what
comes of it is no number, and so not even. -/
def isEven (value : Value) : Except Fault Bool :=
  match value with
  | .str text => match Template.fill text with
    | .ok () => .ok false
    | .error defect => .error (.notFilled defect)
  | .float number =>
    .ok (number.isFinite && number.isInteger number.truncate && number.truncate % 2 == 0)
  | _ => match value.integer? with
    | some integer => .ok (integer % 2 == 0)
    | none => .error (.unsupportedOperands "%" value.typeName "int")

/-- Whether a number is less than another. -/
def isLess (value : Value) (bound : Int) : Except Fault Bool :=
  match value with
  | .float number => .ok (number.isLess bound)
  | _ => match value.integer? with
    | some integer => .ok (integer < bound)
    | none => .error (.unordered "<" value.typeName "int")

end TextGrammar.Value
