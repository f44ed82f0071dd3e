/-!
Templates: texts with places where values are to be filled in. A place begins with a percent sign,
then come marks, a width, a precision and a letter for the form of the value; two percent signs with
nothing between them stand for one. All that is asked of a template here is whether a single number
fills it.
-/
namespace TextGrammar.Template

/-- Why a single number does not fill a template. -/
inductive Defect
  /-- There is no place for the number. -/
  | noPlace
  /-- There are more places than numbers. -/
  | tooManyPlaces
  /-- A place asks for a value by its name. -/
  | namedPlace
  /-- The template ends inside of a place. -/
  | unfinished
  /-- The letter for the form of the value is none. -/
  | unknownForm (letter : Char) (index : Nat)
  | widthTooLarge
  | precisionTooLarge

namespace Defect

/-- The number of a character in hexadecimal digits. -/
def codeText (character : Char) : String :=
  String.ofList (Nat.toDigits 16 character.toNat)

/-- A character as the message about it shows it, or a question mark for one outside of ASCII. -/
def shown (character : Char) : Char :=
  if 31 ≤ character.toNat ∧ character.toNat ≤ 126 then character else '?'

def message : Defect → String
  | noPlace => "not all arguments converted during string formatting"
  | tooManyPlaces => "not enough arguments for format string"
  | namedPlace => "format requires a mapping"
  | unfinished => "incomplete format"
  | unknownForm letter index =>
    s!"unsupported format character '{shown letter}' (0x{codeText letter}) at index {index}"
  | widthTooLarge => "width too big"
  | precisionTooLarge => "precision too big"

end Defect

/-- The marks that may stand in front of a width. -/
def marks : List Char := ['-', '+', ' ', '#', '0']

/-- The letters in front of a form that are without meaning. -/
def sizeLetters : List Char := ['h', 'l', 'L']

/-- The letters for the forms that a number can have. -/
def forms : List Char :=
  ['d', 'i', 'u', 'o', 'x', 'X', 'e', 'E', 'f', 'F', 'g', 'G', 'c', 'r', 's', 'a']

/-- What is left to read of a template, and whether the number is used up. -/
structure Progress where
  rest : List Char
  used : Bool

/-- Uses the number. -/
def Progress.use (progress : Progress) (rest : List Char) : Except Defect Progress :=
  if progress.used then .error .tooManyPlaces else .ok ⟨rest, true⟩

/-- Reads a size below `limit`, if there is one: digits, or a star that takes the number for it. -/
def readSize (limit : Nat) (tooLarge : Defect) (progress : Progress) : Except Defect Progress :=
  match progress.rest with
  | '*' :: rest => progress.use rest
  | rest =>
    let size := (rest.takeWhile Char.isDigit).foldl
      (fun value digit => 10 * value + (digit.toNat - '0'.toNat)) 0
    if size < limit then .ok { progress with rest := rest.dropWhile Char.isDigit }
    else .error tooLarge

/-- Reads the form of a place in a template of some length, and fills it. -/
def readForm (length : Nat) (progress : Progress) : Except Defect Progress := do
  let rest := match progress.rest with
    | first :: rest => if sizeLetters.contains first then rest else first :: rest
    | [] => []
  match rest with
  | [] => .error .unfinished
  | letter :: behind =>
    let filled ← progress.use behind
    if forms.contains letter then return filled
    else .error (.unknownForm letter (length - rest.length))

/-- Fills the place behind a percent sign in a template of some length. -/
def fillPlace (length : Nat) (progress : Progress) : Except Defect Progress :=
  match progress.rest with
  | '%' :: rest => .ok { progress with rest }
  | '(' :: _ => .error .namedPlace
  | rest => do
    let sized ← readSize (1 <<< 63) .widthTooLarge
      { progress with rest := rest.dropWhile marks.contains }
    match sized.rest with
    | '.' :: behind =>
      readForm length (← readSize (1 <<< 31) .precisionTooLarge { sized with rest := behind })
    | _ => readForm length sized

/-- Fills the places of a template of some length one after the other. -/
def fillAll (length : Nat) : Nat → Progress → Except Defect Progress
  | 0, progress => .ok progress
  | fuel + 1, progress =>
    match progress.rest with
    | [] => .ok progress
    | '%' :: rest => do fillAll length fuel (← fillPlace length { progress with rest })
    | _ :: rest => fillAll length fuel { progress with rest }

/-- Fills a template with a single number. -/
def fill (template : String) : Except Defect Unit := do
  let characters := template.toList
  let filled ← fillAll characters.length characters.length ⟨characters, false⟩
  if filled.used then return () else .error .noPlace

end TextGrammar.Template
