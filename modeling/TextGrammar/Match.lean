import TextGrammar.Text.Codec

/-!
Matches and leaves. A match is an offset where the matched part of a text ends, with a value if a
parser produced it. A leaf is what finds a match without the help of other grammars: a function of
the text and an offset that may also find none, or give up with a fault.
-/
namespace TextGrammar

/-- The end of a matched part of a text, and the value that a parser yields for it. -/
structure Match where
  value : Option Value
  stop : Int

namespace Match

/-- The match of a pattern. -/
def span (stop : Int) : Match := ⟨none, stop⟩

/-- The match of a parser. -/
def yielding (value : Value) (stop : Int) : Match := ⟨some value, stop⟩

/-- The value of a match, under the name of the member that is asked of it. A parser that continues
with a pattern hands on the match of the pattern, which is a bare number without members. -/
def valueAs (member : String) (found : Match) : Except Fault Value :=
  match found.value with
  | some value => .ok value
  | none => .error (.missingMember "int" member)

/-- The end of a match of a grammar of some kind. -/
def stopAs (kind : Kind) (found : Match) : Except Fault Int :=
  match kind with
  | .pattern => .ok found.stop
  | .parser => do
    let _ ← found.valueAs "end"
    return found.stop

/-- Two matches in sequence as one, by the kinds of their grammars: parsers yield both values as a
pair, and a parser beside a pattern the only value there is. -/
def followedBy (firstKind secondKind : Kind) (first second : Match) : Except Fault Match :=
  match firstKind, secondKind with
  | .pattern, _ => .ok second
  | .parser, .pattern => .ok ⟨first.value, second.stop⟩
  | .parser, .parser => do
    return .yielding (.tuple [← first.valueAs "value", ← second.valueAs "value"]) second.stop

/-- Repeated matches as one: a parser yields the list of their values. -/
def collected (kind : Kind) (repetitions : Array Match) (stop : Int) : Match :=
  match kind with
  | .pattern => span stop
  | .parser => yielding (.list (repetitions.toList.filterMap Match.value)) stop

theorem collected_stop (kind : Kind) (repetitions : Array Match) (stop : Int) :
    (collected kind repetitions stop).stop = stop := by
  cases kind <;> rfl

/-- The match that an absent grammar counts as. -/
def absent (kind : Kind) (start : Int) : Match :=
  match kind with
  | .pattern => span start
  | .parser => yielding .null start

theorem absent_stop (kind : Kind) (start : Int) : (absent kind start).stop = start := by
  cases kind <;> rfl

end Match

/-- A function that looks for a match in a text at an offset. -/
abbrev Leaf := Text → Int → Except Fault (Option Match)

/-- What a function finds that only sees the rest of a text: a value, and an end in the storage
units of some codec, counted from where the rest begins. -/
structure Recognition where
  value : Option Value
  units : Int

/-- A function that looks for a match at the start of a text. -/
abbrev Recogniser := Text → Except Fault (Option Recognition)

/-- Applies a function that only sees the rest of a text, and converts the end that it finds. -/
def Codec.continueAt {α β : Type} (codec : Codec) (text : Text) (start : Int)
    (recognise : Text → Except Fault (Option α)) (unitsOf : α → Int) (withStop : α → Int → β) :
    Except Fault (Option β) := do
  match ← recognise (text.suffix start) with
  | none => return none
  | some found =>
    let stop ← codec.charactersAfter text start (unitsOf found)
    return some (withStop found stop)

end TextGrammar
