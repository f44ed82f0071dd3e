import TextGrammar.Sample.Number

/-!
The JSON format. Blanks of all scripts may stand between tokens and around the document, and digits
of all scripts in numbers; a repeated key keeps its place and takes the last value.
-/
namespace TextGrammar.Sample

def space : Expression := .optional (.constant .whitespace)

def comma : Expression := .literal "," + space

/-- The characters with letters of their own behind a backslash. -/
def escapes : List (Char × Char) :=
  [('"', '"'), ('\\', '\\'), ('/', '/'), ('b', '\x08'), ('f', '\x0c'), ('n', '\n'), ('r', '\r'),
    ('t', '\t')]

def unescaped : Expression := .captured (.charactersNotIn (.ofString "\"\\"))

def simpleEscape : Expression :=
  .either .parser <| escapes.map fun (letter, character) =>
    .returning (.literal (String.ofList ['\\', letter])) (.str (String.singleton character))

/-- The character of a code point in hexadecimal digits. -/
def toCharacter (value : Value) : Except Fault Value := do
  match ← value.toIntegerHex with
  | .int code => return .str (String.singleton (Char.ofNat code.toNat))
  | other => return other

def unicodeEscape : Expression :=
  .shifted ("\\u" + Expression.captured
    (.times (.characterIn (.ofString "0123456789abcdefABCDEF")) (.int 4))) toCharacter

def stringPart : Expression := unescaped ||| simpleEscape ||| unicodeEscape

def string : Expression :=
  .shifted ("\"" + Expression.many stringPart + "\"") Value.joined

def fraction : Expression := .literal "." + digits

def exponent : Expression :=
  .characterIn (.ofString "eE") + .optional (.characterIn (.ofString "+-")) + digits

/-- An integer if a numeral has neither fraction nor exponent, and a fraction otherwise. -/
def toNumber (value : Value) : Except Fault Value :=
  match value with
  | .str text =>
    let unsigned := text.toList.dropWhile (· == '-')
    if !unsigned.isEmpty && unsigned.all Character.isDecimal then value.toInteger
    else toFraction value
  | _ => .error (.notNumeral value.typeName)

def number : Expression :=
  .shifted (.captured
    (.optional (.literal "-") + digits + .optional fraction + .optional exponent)) toNumber

/-- A value and the blanks behind it. -/
def element : Expression := .variable "value" + space

def array : Expression :=
  .shifted ("[" + space + Expression.optional (.separatedBy element comma) + "]")
    Value.Transform.orEmpty

def member : Expression := string + space + ":" + space + element

def object : Expression :=
  .shifted ("\x7b" + space + Expression.optional (.separatedBy member comma) + "\x7d")
    Value.toDict

def jsonValue : Expression :=
  .fix .parser "value"
    (.either .parser
      [string, number, object, array,
        .returning (.literal "true") (.bool true),
        .returning (.literal "false") (.bool false),
        .returning (.literal "null") .null])
    none

/-- A JSON document. -/
def json : Expression := space + jsonValue + space

end TextGrammar.Sample
