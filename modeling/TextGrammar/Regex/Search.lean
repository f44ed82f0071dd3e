import TextGrammar.Regex.Reader
import TextGrammar.Text

/-!
Matching of regular expressions at a position, by backtracking. The search continues with a
function from what is known so far, so that the first way through the whole expression wins: the
earlier alternative before the later, and more repetitions before fewer unless they are lazy. A
repetition that took no character is not repeated again.
-/
namespace TextGrammar.Regex

/-- What a search knows: its position, and the last match of each group. -/
structure Progress where
  position : Nat
  captures : List (Nat × Nat × Nat) := []

/-- The rest of a search. -/
abbrev Continuation := Progress → Option Progress

namespace RegexAnchor

/-- Whether a word character stands at a position. -/
def wordAt (mode : RegexMode) (text : Text) (position : Nat) : Bool :=
  text[position]?.any (RegexCategory.word.contains mode)

/-- Whether exactly one side of a position is part of a word. -/
def isWordEdge (mode : RegexMode) (text : Text) (position : Nat) : Bool :=
  (position != 0 && wordAt mode text (position - 1)) != wordAt mode text position

/-- Whether a position satisfies the condition. An empty text has neither word edges nor positions
that are none. -/
def holds (mode : RegexMode) (text : Text) (position : Nat) : RegexAnchor → Bool
  | .textStart => position == 0
  | .textEnd => position == text.size
  | .lineStart => position == 0 || text[position - 1]? == some '\n'
  | .lineEnd => position == text.size || text[position]? == some '\n'
  | .lastLineEnd =>
    position == text.size || (position + 1 == text.size && text[position]? == some '\n')
  | .wordEdge => text.size != 0 && isWordEdge mode text position
  | .noWordEdge => text.size != 0 && !isWordEdge mode text position

end RegexAnchor

/-- Takes one character that satisfies a test. -/
def takeOne (text : Text) (test : Char → Bool) (continuation : Continuation) (progress : Progress) :
    Option Progress :=
  if text[progress.position]?.any test then
    continuation { progress with position := progress.position + 1 }
  else none

/-- The end of `word` in the text from a position on, if it stands there. -/
def takeWord? (mode : RegexMode) (text : Text) : List Char → Nat → Option Nat
  | [], position => some position
  | character :: rest, position =>
    if text[position]?.any (sameCharacter mode character) then
      takeWord? mode text rest (position + 1)
    else none

/-- Repeats `body`, counting from `count` on. `last` is where the last repetition beyond the least
number began: if it took nothing, no other one follows. -/
def repeatBody (body : Continuation → Progress → Option Progress) (least : Nat)
    (most : Option Nat) (greedy : Bool) (continuation : Continuation) :
    Nat → Nat → Option Nat → Progress → Option Progress
  | 0, _, _, _ => none
  | fuel + 1, count, last, progress =>
    if count < least then
      body (repeatBody body least most greedy continuation fuel (count + 1) last) progress
    else
      let again := fun _ : Unit =>
        if most.all (count < ·) && last != some progress.position then
          body (repeatBody body least most greedy continuation fuel (count + 1)
            (some progress.position)) progress
        else none
      if greedy then again () <|> continuation progress
      else continuation progress <|> again ()

/-- Searches for a match of an expression from a position on, and continues behind it. -/
def search (mode : RegexMode) (text : Text) :
    Regex → Continuation → Progress → Option Progress
  | .empty, continuation, progress => continuation progress
  | .literal code, continuation, progress =>
    takeOne text (anyCase mode fun character => character.toNat == code) continuation progress
  | .any, continuation, progress =>
    takeOne text (fun character => mode.dotAll || character != '\n') continuation progress
  | .set negated items, continuation, progress =>
    let member := fun character => items.any fun item =>
      anyCase mode (item.contains mode) character
    takeOne text (fun character => member character != negated) continuation progress
  | .sequence first second, continuation, progress =>
    search mode text first (search mode text second continuation) progress
  | .choice first second, continuation, progress =>
    search mode text first continuation progress <|> search mode text second continuation progress
  | .group number body, continuation, progress =>
    search mode text body (fun reached => continuation
      { reached with
        captures := (number, progress.position, reached.position) :: reached.captures }) progress
  | .backreference number, continuation, progress =>
    match progress.captures.lookup number with
    | none => none
    | some (start, stop) =>
      match takeWord? mode text (text.extract start stop).toList progress.position with
      | none => none
      | some position => continuation { progress with position }
  | .repetition least most greedy body, continuation, progress =>
    repeatBody (search mode text body) least most greedy continuation
      (least + (text.size - progress.position) + 3) 0 none progress
  | .atomic body, continuation, progress =>
    (search mode text body some progress).bind continuation
  | .ahead negated body, continuation, progress =>
    match search mode text body some progress with
    | some reached =>
      if negated then none else continuation { progress with captures := reached.captures }
    | none => if negated then continuation progress else none
  | .behind negated width body, continuation, progress =>
    let found := if progress.position < width then none
      else search mode text body some { progress with position := progress.position - width }
    match found with
    | some reached =>
      if negated then none else continuation { progress with captures := reached.captures }
    | none => if negated then continuation progress else none
  | .anchor condition, continuation, progress =>
    if RegexAnchor.holds mode text progress.position condition then continuation progress else none

/-- The end of the match of an expression at a position of a text. A position beyond the end counts
as the end. -/
def matchEnd? (mode : RegexMode) (regex : Regex) (text : Text) (start : Nat) : Option Nat :=
  (search mode text regex some { position := min start text.size }).map Progress.position

/-- The end of the match of an expression for bytes at the start of some bytes. A byte stands for
the character of the same number. -/
def matchBytes? (mode : RegexMode) (regex : Regex) (bytes : List UInt8) : Option Nat :=
  regex.matchEnd? mode (bytes.map fun byte => Char.ofNat byte.toNat).toArray 0

end TextGrammar.Regex
