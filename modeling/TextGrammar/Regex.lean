import TextGrammar.Character.Blank
import TextGrammar.Character.Case
import TextGrammar.Character.Word

/-!
Regular expressions as trees, and what their parts match. An expression is read for characters or
for bytes; a byte is represented by the character of the same number, and then only the characters
of ASCII have classes.
-/
namespace TextGrammar

/-- How an expression is to be read: for bytes, and under which options. -/
structure RegexMode where
  ofBytes : Bool := false
  ignoreCase : Bool := false
  multiline : Bool := false
  dotAll : Bool := false
  ascii : Bool := false

namespace RegexMode

/-- Whether only characters of ASCII belong to the classes. -/
def plainClasses (mode : RegexMode) : Bool :=
  mode.ofBytes || mode.ascii

end RegexMode

/-- A class of characters with a letter of its own. -/
inductive RegexCategory
  | digit
  | blank
  | word

namespace RegexCategory

/-- Whether a character belongs to the class. -/
def contains (mode : RegexMode) (category : RegexCategory) (character : Char) : Bool :=
  if mode.plainClasses then
    match category with
    | .digit => character.isDigit
    | .blank => Character.isPlainBlank character
    | .word => character.isAlphanum || character == '_'
  else
    match category with
    | .digit => Character.isDecimal character
    | .blank => Character.isBlank character
    | .word => Character.isWord character

end RegexCategory

/-- A part of a set of characters. The ends of a range are code points, of which some are no
characters. -/
inductive RegexItem
  | range (first last : Nat)
  | category (named : RegexCategory) (negated : Bool)

namespace RegexItem

/-- Whether a character belongs to the part in just this case. -/
def contains (mode : RegexMode) (item : RegexItem) (character : Char) : Bool :=
  match item with
  | .range first last => first ≤ character.toNat && character.toNat ≤ last
  | .category named negated => named.contains mode character != negated

end RegexItem

/-- A condition on a position. -/
inductive RegexAnchor
  | textStart
  | textEnd
  | lineStart
  | lineEnd
  /-- The end of the text, or a line break that ends it. -/
  | lastLineEnd
  | wordEdge
  | noWordEdge

/-- A regular expression. -/
inductive Regex
  | empty
  /-- The character of a code point, if there is one. -/
  | literal (code : Nat)
  | any
  | set (negated : Bool) (items : List RegexItem)
  | sequence (first second : Regex)
  | choice (first second : Regex)
  /-- A group whose match can be referred to by its number. -/
  | group (number : Nat) (body : Regex)
  /-- What the group of this number matched last. -/
  | backreference (number : Nat)
  /-- From `least` to `most` repetitions, as many as possible or as few. -/
  | repetition (least : Nat) (most : Option Nat) (greedy : Bool) (body : Regex)
  /-- The first match of the body, without going back into it. -/
  | atomic (body : Regex)
  /-- A condition on what follows. -/
  | ahead (negated : Bool) (body : Regex)
  /-- A condition on what comes before, of a fixed width. -/
  | behind (negated : Bool) (width : Nat) (body : Regex)
  | anchor (condition : RegexAnchor)

namespace Regex

/-- Whether a single character matches under `test`, either in its own case or, when case is
ignored, in another one. -/
def anyCase (mode : RegexMode) (test : Char → Bool) (character : Char) : Bool :=
  test character || (mode.ignoreCase && (Character.caseVariants character).any fun variant =>
    test variant && (!mode.plainClasses || variant.toNat < 0x80))

/-- Whether two characters of a text are the same, letter case considered as the mode says. -/
def sameCharacter (mode : RegexMode) (first second : Char) : Bool :=
  first == second ||
    (mode.ignoreCase && Character.toLower first == Character.toLower second)

end Regex

end TextGrammar
