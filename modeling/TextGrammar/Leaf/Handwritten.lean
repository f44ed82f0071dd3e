import TextGrammar.Leaf

/-!
Simple leaves and recognisers written by hand, for grammars that need no more than a fixed stride
or a first word.
-/
namespace TextGrammar

namespace Leaf

/-- A leaf from a function for the end of its match. As a parser it yields the matched text. -/
def ofEnd (kind : Kind) (stop? : Text → Int → Option Int) : Leaf := fun text start =>
  .ok <| (stop? text start).map fun stop =>
    match kind with
    | .pattern => .span stop
    | .parser => .yielding (.str (text.slice start stop)) stop

/-- Goes on by a number of characters, if the text is long enough. -/
def advance (kind : Kind) (count : Int) : Leaf :=
  ofEnd kind fun text start => text.advance start count

/-- Takes a character at an even offset before the end, and none elsewhere. -/
def evenStep (kind : Kind) : Leaf :=
  ofEnd kind fun text start =>
    some (if start % 2 = 0 ∧ start < text.size then start + 1 else start)

/-- Takes all that remains. -/
def rest (kind : Kind) : Leaf :=
  ofEnd kind fun text _ => some text.size

/-- Takes nothing. As a parser it yields the offset. -/
def here (kind : Kind) : Leaf := fun _ start =>
  .ok <| some <| match kind with
    | .pattern => .span start
    | .parser => .yielding (.int start) start

/-- Goes on by a number of characters, whether the text has them or not. -/
def jump (count : Int) : Leaf := fun _ start =>
  .ok (some (.span (start + count)))

/-- Gives up with a message. -/
def raising (message : String) : Leaf := fun _ _ =>
  .error (.raised message)

end Leaf

namespace Recogniser

/-- Matches as many units as given, if any are. A parser yields the rest of the text. -/
def units (kind : Kind) (count : Option Int) : Recogniser := fun rest =>
  .ok <| count.map fun count =>
    ⟨match kind with
      | .pattern => none
      | .parser => some (.str rest.toString), count⟩

/-- A recognition of the first characters of a text, measured in the units of a codec. -/
def first (kind : Kind) (codec : Codec) (rest : Text) (count : Int) :
    Except Fault (Option Recognition) := do
  let units ← codec.units rest 0 count
  return some ⟨match kind with
    | .pattern => none
    | .parser => some (.str (rest.slice 0 count)), units⟩

/-- Matches what stands before the first space. -/
def word (kind : Kind) (codec : Codec) : Recogniser := fun rest => do
  first kind codec rest (← rest.runEnd (· != ' ') 0)

/-- Matches a word that the text starts with. -/
def starting (kind : Kind) (codec : Codec) (word : String) : Recogniser := fun rest =>
  if rest.hasAt word.toList 0 then first kind codec rest word.length else .ok none

/-- Gives up with a message. -/
def raising (message : String) : Recogniser := fun _ =>
  .error (.raised message)

end Recogniser

end TextGrammar
