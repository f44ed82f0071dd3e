import TextGrammar.Character.Letter
import TextGrammar.Match
import TextGrammar.Regex.Search

/-!
The leaves of the library. From an offset within the text none of them goes back, and only a
regular expression for characters looks at what comes before.
-/
namespace TextGrammar.Leaf

/-- A leaf that gives up on no text. -/
def total (stop? : Text → Int → Option Int) : Leaf :=
  fun text start => .ok ((stop? text start).map Match.span)

/-- Matches a word. -/
def literal (word : String) : Leaf :=
  let characters := word.toList
  total fun text start =>
    if text.hasAt characters start then some (start + characters.length) else none

/-- Whether one of some words stands in a text at an offset. They are looked for in order, up to
the one that is found. -/
def hasOneAt (text : Text) (start : Int) : List Value → Except Fault Bool
  | [] => .ok false
  | .str word :: rest =>
    if text.hasAt word.toList start then .ok true else hasOneAt text start rest
  | other :: _ => .error (.notWordAmong other.typeName)

/-- Matches where one of some words stands, and takes a character for each of the words. -/
def oneOf (words : List Value) : Leaf := fun text start => do
  return if ← hasOneAt text start words then some (.span (start + words.length)) else none

/-- Matches this many characters, whatever they are. -/
def fixed (count : Int) : Leaf :=
  total fun text start => text.advance start count

/-- Matches where `fixed` would for a fraction of characters, but no text can be cut there. -/
def fixedFraction (count : Binary64) : Leaf := fun text start =>
  match Binary64.ofInteger? start with
  | none => .error .integerTooLarge
  | some position =>
    if (position.add count).exceeds text.size then .ok none else .error .notCut

/-- Matches where no characters remain. -/
def finished : Leaf :=
  total fun text start => if text.size ≤ start then some start else none

/-- Matches everywhere, without taking a character. -/
def nothing : Leaf :=
  total fun _ start => some start

/-- Matches nowhere. -/
def failure : Leaf :=
  total fun _ _ => none

/-- Yields a value everywhere, without taking a character. -/
def pure (value : Value) : Leaf :=
  fun _ start => .ok (some (.yielding value start))

/-- Matches as many characters of a class as there are, and at least one. -/
def charactersIn (member : Char → Bool) : Leaf := fun text start => do
  let stop ← text.runEnd member start
  return if stop = start then none else some (.span stop)

/-- Matches one character of a class. -/
def characterIn (member : Char → Bool) : Leaf := fun text start => do
  if start < text.size then
    return if member (← text.characterAt start) then some (.span (start + 1)) else none
  else return none

/-- Matches what a regular expression for characters finds at the offset, or at the nearer edge of
the text. It sees the whole text, so a condition may concern what comes before. -/
def regex (mode : RegexMode) (expression : Regex) : Leaf := fun text start =>
  if isIndex start then
    .ok ((expression.matchEnd? mode text start.toNat).map fun stop => .span stop)
  else .error .noPosition

/-- A leaf from a function that only sees the rest of the text. -/
def ofRecogniser (codec : Codec) (recognise : Recogniser) : Leaf :=
  fun text start =>
    codec.continueAt text start recognise Recognition.units fun found stop =>
      ⟨found.value, stop⟩

/-- A leaf from a function that sees the rest of the text as bytes in UTF-8, and finds the number
of the bytes that it matches. -/
def ofBytes (matchBytes? : List UInt8 → Option Nat) : Leaf :=
  ofRecogniser .utf8 fun rest =>
    .ok ((matchBytes? rest.toString.toUTF8.toList).map fun count => ⟨none, count⟩)

/-- Matches what a regular expression for bytes finds at the start of the rest of the text. -/
def regexBytes (mode : RegexMode) (expression : Regex) : Leaf :=
  ofBytes (expression.matchBytes? mode)

end TextGrammar.Leaf
