import TextGrammar.Character.Blank
import TextGrammar.Character.Decimal
import TextGrammar.Number.Binary64

/-!
Reading of numerals. Digits of every script count by their values; an integer may be surrounded by
blanks, signed, and have single underscores between its digits, and one to the base sixteen may
carry its prefix `0x`. A decimal fraction has digits on both sides of its point and may have an
exponent. Decimal integers of too many digits are neither read nor written.
-/
namespace TextGrammar.Numeral

/-- The most digits of a decimal integer that is read or written. -/
def digitLimit : Nat := 4300

/-- Whether an integer has few enough digits to be written. -/
def isWritable (integer : Int) : Bool :=
  integer.natAbs < Nat.pow 10 digitLimit

/-- A numeral's character with blanks and digits of other scripts replaced by plain ones. What is
neither becomes a character that no numeral has. -/
def plain (character : Char) : Char :=
  if character.toNat < 127 then character
  else if Character.isBlank character then ' '
  else match Character.decimalValue? character with
    | some value => Char.ofNat ('0'.toNat + value)
    | none => '?'

/-- Without the plain blanks at both ends. -/
def trim (characters : List Char) : List Char :=
  ((characters.dropWhile Character.isPlainBlank).reverse.dropWhile Character.isPlainBlank).reverse

/-- The value of a digit to a base of at most sixteen. -/
def digitValue? (base : Nat) (character : Char) : Option Nat :=
  (Character.hexValue? character).filter (· < base)

/-- The value of a sequence of digits that continues a number. An underscore has to stand before
a digit. -/
def continueDigits (base : Nat) : Nat → List Char → Option Nat
  | value, [] => some value
  | value, '_' :: digit :: rest => do
    let next ← digitValue? base digit
    continueDigits base (value * base + next) rest
  | value, digit :: rest => do
    let next ← digitValue? base digit
    continueDigits base (value * base + next) rest

/-- The value of a sequence of digits; at least one is required, and in first place. -/
def digits? (base : Nat) : List Char → Option Nat
  | [] => none
  | first :: rest => do
    let value ← digitValue? base first
    continueDigits base value rest

/-- The digits of a numeral to the base sixteen without their prefix, after which one underscore
is allowed. -/
def dropBasePrefix (base : Nat) (characters : List Char) : List Char :=
  if base = 16 then
    match characters with
    | '0' :: 'x' :: '_' :: rest | '0' :: 'X' :: '_' :: rest => rest
    | '0' :: 'x' :: rest | '0' :: 'X' :: rest => rest
    | rest => rest
  else characters

/-- A sign and the rest of a numeral. -/
def splitSign : List Char → Bool × List Char
  | '-' :: rest => (true, rest)
  | '+' :: rest => (false, rest)
  | rest => (false, rest)

/-- Why a text is no numeral that can be read. -/
inductive Defect
  | malformed
  /-- The numeral has this many digits, which is too many. -/
  | tooLong (digits : Nat)

/-- The digits that some characters begin with, underscores included. -/
def leadingDigits (characters : List Char) : List Char :=
  characters.takeWhile fun character => character.isDigit || character == '_'

/-- The number of digits at the start of some characters, if they are well placed but too many.
What follows them does not matter. -/
def excessDigits? (characters : List Char) : Option Nat :=
  let leading := leadingDigits characters
  let count := (leading.filter Char.isDigit).length
  if digitLimit < count && (digits? 10 leading).isSome then some count else none

/-- The integer that a text denotes to a base of ten or sixteen. -/
def integer (base : Nat) (text : String) : Except Defect Int :=
  let (negative, rest) := splitSign (trim (text.toList.map plain))
  match if base = 10 then excessDigits? rest else none with
  | some count => .error (.tooLong count)
  | none => match digits? base (dropBasePrefix base rest) with
    | some value => .ok (if negative then -value else value)
    | none => .error .malformed

/-- The parts of a decimal numeral before and after the first character that `isMark` accepts. -/
def splitAtMark (isMark : Char → Bool) (characters : List Char) : List Char × Option (List Char) :=
  match characters.dropWhile (!isMark ·) with
  | [] => (characters, none)
  | _ :: rest => (characters.takeWhile (!isMark ·), some rest)

/-- The number that a decimal numeral denotes, rounded to the nearest: an optional minus sign,
digits, an optional fraction and an optional exponent. -/
def decimal? (text : String) : Option Binary64 := do
  let (negative, rest) := splitSign (text.toList.map plain)
  let (mantissa, exponentPart) := splitAtMark (fun mark => mark == 'e' || mark == 'E') rest
  let exponent ← match exponentPart with
    | none => some 0
    | some part =>
      let (below, exponentDigits) := splitSign part
      (digits? 10 exponentDigits).map fun value => if below then -(value : Int) else value
  let (whole, fractionPart) := splitAtMark (· == '.') mantissa
  let fraction := fractionPart.getD []
  let value ← digits? 10 (whole ++ fraction)
  some (Binary64.ofDecimal negative value (exponent - fraction.length))

end TextGrammar.Numeral
