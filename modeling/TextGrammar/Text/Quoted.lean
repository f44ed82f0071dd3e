import TextGrammar.Character.Printable

/-!
Quoted texts, as names and messages show them. A text stands between single quotes, or between
double quotes when it holds a single quote and no double one; what cannot be printed is escaped
by its code point with as few digits as its size needs.
-/
namespace TextGrammar.Quoted

/-- The digit of a value below sixteen, in lower case. -/
def hexDigit (value : Nat) : Char :=
  if value < 10 then Char.ofNat ('0'.toNat + value) else Char.ofNat ('a'.toNat + (value - 10))

/-- The last `width` hexadecimal digits of `value`, leading zeros included. -/
def hex : Nat → Nat → List Char
  | 0, _ => []
  | width + 1, value => hex width (value / 16) ++ [hexDigit (value % 16)]

/-- The quotation mark for a text: double only to save escaping a single one. -/
def mark (characters : List Char) : Char :=
  if characters.contains '\'' && !characters.contains '"' then '"' else '\''

/-- The escapes that do not depend on what is printable: the backslash, the surrounding quotation
mark and the three controls with letters of their own. -/
def escapeShort? (quotation : Char) (character : Char) : Option (List Char) :=
  if character = quotation ∨ character = '\\' then some ['\\', character]
  else if character = '\t' then some ['\\', 't']
  else if character = '\n' then some ['\\', 'n']
  else if character = '\r' then some ['\\', 'r']
  else none

/-- A character as it stands in a quoted text. -/
def escape (quotation : Char) (character : Char) : List Char :=
  match escapeShort? quotation character with
  | some escaped => escaped
  | none =>
    let code := character.toNat
    if Character.isPrintable character then [character]
    else if code < 0x100 then '\\' :: 'x' :: hex 2 code
    else if code < 0x10000 then '\\' :: 'u' :: hex 4 code
    else '\\' :: 'U' :: hex 8 code

/-- A text between its quotation marks. -/
def quote (text : String) : String :=
  let quotation := mark text.toList
  String.ofList (quotation :: text.toList.flatMap (escape quotation) ++ [quotation])

/-- A byte, given as the character of the same number, as it stands in quoted bytes: only the
printable part of ASCII stands for itself. -/
def escapeByte (quotation : Char) (byte : Char) : List Char :=
  match escapeShort? quotation byte with
  | some escaped => escaped
  | none =>
    if 0x20 ≤ byte.toNat ∧ byte.toNat < 0x7f then [byte]
    else '\\' :: 'x' :: hex 2 byte.toNat

/-- Bytes between their quotation marks, with the letter that tells them from a text. -/
def quoteBytes (bytes : String) : String :=
  let quotation := mark bytes.toList
  String.ofList ('b' :: quotation :: bytes.toList.flatMap (escapeByte quotation) ++ [quotation])

end TextGrammar.Quoted
