/-!
Letter case as far as texts with the letters of ASCII, one accented pair and signs without case
need it. Some letters from outside of ASCII have a letter of ASCII for their other case.
-/
namespace TextGrammar.Character

/-- An upper-case letter: `A` to `Z`, or the capital with an acute accent. -/
def isUpper (character : Char) : Bool :=
  ('A' ≤ character && character ≤ 'Z') || character == 'É'

/-- A lower-case letter: `a` to `z`, or the small letter with an acute accent. -/
def isLower (character : Char) : Bool :=
  ('a' ≤ character && character ≤ 'z') || character == 'é'

/-- The lower-case form of `A` to `Z`; every other character is its own. -/
def toLower (character : Char) : Char :=
  if 'A' ≤ character ∧ character ≤ 'Z' then Char.ofNat (character.toNat + 32) else character

/-- The upper-case form of `a` to `z`; every other character is its own. -/
def toUpper (character : Char) : Char :=
  if 'a' ≤ character ∧ character ≤ 'z' then Char.ofNat (character.toNat - 32) else character

/-- Small letters of ASCII with the letters from outside that differ from them in case only: the
dotted capital and the dotless small I, the long S, and the sign for kelvins. -/
def foreignCases : List (Char × Char) :=
  [('i', '\u0130'), ('i', '\u0131'), ('s', '\u017f'), ('k', '\u212a')]

/-- The letters that differ from one of ASCII in case only, itself included. -/
def caseVariants (character : Char) : List Char :=
  let small := toLower character
  [small, toUpper character] ++ (foreignCases.filter (·.1 == small)).map (·.2)

end TextGrammar.Character
