import TextGrammar.Fault
import TextGrammar.Number.Index

/-!
Texts and offsets into them. A text is an array of characters, and an offset counts the characters
before it. A match starts at an offset from zero up to and including the size. The functions of a
client may nevertheless go back behind the start or on beyond the end, so offsets are integers: a
negative one counts from the end where a character is looked up or a text is cut.
-/
namespace TextGrammar

/-- A text, with its characters in constant reach. -/
abbrev Text := Array Char

namespace Text

def ofString (text : String) : Text :=
  text.toList.toArray

def toString (text : Text) : String :=
  String.ofList text.toList

/-- The place where a text is cut at an offset. One outside of the text is moved to the nearer
edge. -/
def place (text : Text) (offset : Int) : Nat :=
  (if 0 ≤ offset then min offset text.size else text.size + offset).toNat

/-- The characters from the offset `start` up to the offset `stop`. -/
def slice (text : Text) (start stop : Int) : String :=
  String.ofList (text.extract (text.place start) (text.place stop)).toList

/-- The rest of a text after an offset; nothing remains beyond the end. -/
def suffix (text : Text) (start : Int) : Text :=
  text.extract (text.place start) text.size

/-- Refuses an integer that is no valid offset into the text. -/
def checkOffset (text : Text) (offset : Int) : Except Fault Unit :=
  if 0 ≤ offset ∧ offset ≤ text.size then .ok ()
  else .error (.offsetOutOfRange offset text.size)

/-- The number of characters between two offsets. -/
def distance (start stop : Int) : Int :=
  stop - start

/-- The offset `count` characters after `start`, if the text is long enough. -/
def advance (text : Text) (start count : Int) : Option Int :=
  if start + count ≤ text.size then some (start + count) else none

/-- The fault of an offset where no character is. -/
def outside (offset : Int) : Fault :=
  if isIndex offset then .noCharacter else .noIndex

/-- The character at an offset. -/
def characterAt (text : Text) (offset : Int) : Except Fault Char :=
  let index := if 0 ≤ offset then offset else text.size + offset
  match if 0 ≤ index then text[index.toNat]? else none with
  | some character => .ok character
  | none => .error (outside offset)

/-- The characters met from an offset on: behind a negative one the last of the text in their
order, and then the whole text. There is none if the text is too short. -/
def window (text : Text) (start : Int) : Option (List Char) :=
  if 0 ≤ start then some (text.toList.drop start.toNat)
  else if -start ≤ text.size then
    some (text.toList.drop (text.size - (-start).toNat) ++ text.toList)
  else none

/-- The end of the longest run of characters that satisfy `member`, from the offset `start` on. -/
def runEnd (text : Text) (member : Char → Bool) (start : Int) : Except Fault Int :=
  if start < text.size then
    match text.characterAt start with
    | .error fault => .error fault
    | .ok character => if member character then text.runEnd member (start + 1) else .ok start
  else .ok start
termination_by (text.size - start).toNat

/-- Whether `word` stands in the text at an offset. Beyond the end not even the empty word does. -/
def hasAt (text : Text) (word : List Char) (start : Int) : Bool :=
  start ≤ text.size && go word (text.place start)
where
  go : List Char → Nat → Bool
    | [], _ => true
    | character :: rest, index => text[index]? == some character && go rest (index + 1)

end Text

end TextGrammar
