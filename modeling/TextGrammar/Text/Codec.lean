import TextGrammar.Text

/-!
Storage units of text encodings. A codec says how many units a character takes, and positions are
converted by walking over characters, never by arithmetic on units. In the codec that counts
characters themselves a distance is already a number of units, so nothing has to be walked over.
-/
namespace TextGrammar

/-- A text encoding, seen through the units that it stores characters in. -/
structure Codec where
  name : String
  /-- The units of one character, or nothing where units are characters. A caller's own measure may
  give any integer. -/
  width? : Option (Char → Int)

namespace Codec

/-- The codec whose units are the characters themselves. -/
def characters : Codec := ⟨"characters", none⟩

/-- The bytes of a character in UTF-8. -/
def utf8Width (character : Char) : Int :=
  if character.toNat < 0x80 then 1
  else if character.toNat < 0x800 then 2
  else if character.toNat < 0x10000 then 3
  else 4

/-- The 16-bit units of a character in UTF-16. -/
def utf16Width (character : Char) : Int :=
  if 0xffff < character.toNat then 2 else 1

def utf8 : Codec := ⟨"utf-8", some utf8Width⟩

def utf16 : Codec := ⟨"utf-16", some utf16Width⟩

/-- A codec with units of its own. -/
def ofWidth (name : String) (width : Char → Int) : Codec := ⟨name, some width⟩

/-- Codecs are told apart by their names. -/
def same (first second : Codec) : Bool :=
  first.name == second.name

/-- A codec as text. -/
def printed (codec : Codec) : String :=
  s!"Codec(name={Quoted.quote codec.name})"

/-- The units of the first `count` of some characters; all of them have to be there. -/
def sumWidths (width : Char → Int) : Nat → List Char → Option Int
  | 0, _ => some 0
  | _ + 1, [] => none
  | count + 1, character :: rest => (sumWidths width count rest).map (width character + ·)

/-- The number of storage units between two offsets. -/
def units (codec : Codec) (text : Text) (start stop : Int) : Except Fault Int :=
  match codec.width? with
  | none => .ok (stop - start)
  | some width =>
    if stop ≤ start then .ok 0
    else
      match text.window start with
      | none => .error (Text.outside start)
      | some window =>
        -- the count need not be walked down further than the characters go
        match sumWidths width (min (stop - start).toNat (window.length + 1)) window with
        | none => .error (Text.outside start)
        | some total => .ok total

/-- How a walk over characters may end before it has used up its units exactly. -/
inductive Stray
  | beyondEnd
  | insideCharacter

/-- The number of characters that take exactly these units. -/
def walk (width : Char → Int) (units : Int) : List Char → Except Stray Nat
  | [] => if 0 < units then .error .beyondEnd
    else if units < 0 then .error .insideCharacter
    else .ok 0
  | character :: rest =>
    if 0 < units then (· + 1) <$> walk width (units - width character) rest
    else if units < 0 then .error .insideCharacter
    else .ok 0

/-- The offset that lies `units` storage units after `start`. -/
def charactersAfter (codec : Codec) (text : Text) (start units : Int) : Except Fault Int :=
  match codec.width? with
  | none =>
    if 0 ≤ units ∧ units ≤ text.size - start then .ok (start + units)
    else .error (.charactersOutOfRange units start text.size)
  | some width =>
    match text.window start with
    | none =>
      if 0 < units then .error (Text.outside start)
      else if units < 0 then .error (.unitsInsideCharacter units codec.name start)
      else .ok start
    | some window =>
      match walk width units window with
      | .ok count => .ok (start + count)
      | .error .beyondEnd => .error (.unitsBeyondEnd units codec.name start)
      | .error .insideCharacter => .error (.unitsInsideCharacter units codec.name start)

end Codec

end TextGrammar
