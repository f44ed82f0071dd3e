import TextGrammar.Character.Range

/-!
Blank characters: the separators of Unicode 14.0 and the controls that move the writing position.
-/
namespace TextGrammar.Character

/-- Code points of blanks, in ascending ranges with both ends included. -/
def blankRanges : List (Nat × Nat) :=
  [(0x9, 0xd), (0x1c, 0x20), (0x85, 0x85), (0xa0, 0xa0), (0x1680, 0x1680), (0x2000, 0x200a),
    (0x2028, 0x2029), (0x202f, 0x202f), (0x205f, 0x205f), (0x3000, 0x3000)]

/-- A blank of any script, the separators of records and fields included. -/
def isBlank (character : Char) : Bool :=
  inRanges blankRanges character

/-- A blank of the first 128 code points; the separators of records and fields do not count. -/
def isPlainBlank (character : Char) : Bool :=
  character == ' ' || ('\t' ≤ character && character ≤ '\r')

end TextGrammar.Character
