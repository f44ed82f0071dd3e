import TextGrammar.Character.Identifier
import TextGrammar.Number.Numeral
import TextGrammar.Regex

/-!
Tokens of regular expressions. What a character means depends on the characters that follow it
only: a brace that opens no complete count stands for itself, a closing bracket in first place of a
set does so too, and three octal digits after a backslash are a character where fewer digits are
the number of a group.
-/
namespace TextGrammar.Regex

/-- How a repetition tries its counts. -/
inductive Eagerness
  | greedy
  | lazy
  | possessive

/-- What a parenthesis opens. -/
inductive Opener
  | capture (name : Option String)
  | plain
  | atomic
  | ahead (negated : Bool)
  | behind (negated : Bool)

/-- A token of an expression. -/
inductive Token
  /-- Something that matches one character. -/
  | single (regex : Regex)
  | anchor (condition : RegexAnchor)
  | bar
  | opening (opener : Opener)
  | closing
  | quantifier (least : Nat) (most : Option Nat) (eagerness : Eagerness)
  | reference (number : Nat)
  | namedReference (name : String)

/-- Why a text is no regular expression. -/
inductive Defect
  | malformed
  /-- A count of repetitions is beyond all that can be counted. -/
  | countTooLarge
  /-- A count of repetitions has this many digits, which is too many to be read. -/
  | countTooLong (digits : Nat)

/-- What comes of reading, unless there is a defect. -/
abbrev Reading := Except Defect

/-- What is there, or else the expression is malformed. -/
def demand {α : Type} : Option α → Reading α
  | some found => .ok found
  | none => .error .malformed

/-- A condition without which the expression is malformed. -/
def require (condition : Bool) : Reading Unit :=
  if condition then .ok () else .error .malformed

/-- Something at the front of an expression, and the characters behind it. -/
abbrev Front (α : Type) := α × List Char

/-- The value of some digits to a base. -/
def numberOf (base : Nat) (digits : List Char) : Nat :=
  digits.foldl (fun value digit => value * base + ((Character.hexValue? digit).getD 0)) 0

def isOctal (character : Char) : Bool := '0' ≤ character && character ≤ '7'

def isHex (character : Char) : Bool :=
  character.isDigit || ('a' ≤ character && character ≤ 'f') || ('A' ≤ character && character ≤ 'F')

/-- The greatest code point. -/
def lastCode : Nat := 0x10ffff

/-- A code point given by exactly `count` hexadecimal digits. -/
def hexCode (count : Nat) (rest : List Char) : Reading (Front Nat) := do
  let digits := rest.take count
  require (digits.length == count && digits.all isHex)
  let code := numberOf 16 digits
  require (code ≤ lastCode)
  return (code, rest.drop count)

/-- A code point given by octal digits, of which there may be three in all. -/
def octalCode (digits : List Char) (rest : List Char) : Reading (Front Nat) := do
  let more := (rest.take (3 - digits.length)).takeWhile isOctal
  let code := numberOf 8 (digits ++ more)
  require (code ≤ 255)
  return (code, rest.drop more.length)

/-- The characters that have letters of their own after a backslash. -/
def controlCharacter? : Char → Option Char
  | 'a' => some '\x07'
  | 'f' => some '\x0c'
  | 'n' => some '\n'
  | 'r' => some '\r'
  | 't' => some '\t'
  | 'v' => some '\x0b'
  | '\\' => some '\\'
  | _ => none

/-- The classes that have letters of their own after a backslash. -/
def categoryItem? : Char → Option RegexItem
  | 'd' => some (.category .digit false)
  | 'D' => some (.category .digit true)
  | 's' => some (.category .blank false)
  | 'S' => some (.category .blank true)
  | 'w' => some (.category .word false)
  | 'W' => some (.category .word true)
  | _ => none

/-- The positions that have letters of their own after a backslash. -/
def anchor? : Char → Option RegexAnchor
  | 'A' => some .textStart
  | 'Z' => some .textEnd
  | 'b' => some .wordEdge
  | 'B' => some .noWordEdge
  | _ => none

/-- A code point written after a backslash by its number, or by its character. Other letters have no
meaning there. -/
def escapedCode (ofBytes : Bool) (letter : Char) (rest : List Char) : Reading (Front Nat) :=
  match controlCharacter? letter with
  | some control => .ok (control.toNat, rest)
  | none =>
    if letter = 'x' then hexCode 2 rest
    else if letter = 'u' ∧ !ofBytes then hexCode 4 rest
    else if letter = 'U' ∧ !ofBytes then hexCode 8 rest
    else if letter.isAlpha then .error .malformed
    else .ok (letter.toNat, rest)

/-- The token of a code point. -/
def literalToken (step : Reading (Front Nat)) : Reading (Front Token) :=
  step.map fun (code, rest) => (.single (.literal code), rest)

/-- The number of a group after a backslash, or three octal digits for a character. -/
def digitsToken (first : Char) (rest : List Char) : Reading (Front Token) :=
  if first = '0' then literalToken (octalCode [first] rest)
  else
    match rest with
    | second :: third :: more =>
      if second.isDigit then
        if isOctal first && isOctal second && isOctal third then
          literalToken (octalCode [first, second, third] more)
        else .ok (.reference (numberOf 10 [first, second]), third :: more)
      else .ok (.reference (numberOf 10 [first]), rest)
    | [second] =>
      if second.isDigit then .ok (.reference (numberOf 10 [first, second]), [])
      else .ok (.reference (numberOf 10 [first]), rest)
    | [] => .ok (.reference (numberOf 10 [first]), [])

/-- The token behind a backslash. -/
def escapeToken (ofBytes : Bool) : List Char → Reading (Front Token)
  | [] => .error .malformed
  | letter :: rest =>
    match anchor? letter, categoryItem? letter with
    | some condition, _ => .ok (.anchor condition, rest)
    | none, some item => .ok (.single (.set false [item]), rest)
    | none, none =>
      if letter.isDigit then digitsToken letter rest
      else literalToken (escapedCode ofBytes letter rest)

/-- One end of a range in a set, or a class in it. -/
def setMember (ofBytes : Bool) : List Char → Reading (Front RegexItem)
  | [] | ['\\'] => .error .malformed
  | '\\' :: letter :: rest =>
    match categoryItem? letter with
    | some item => .ok (item, rest)
    | none =>
      let escaped :=
        if letter = 'b' then .ok (0x08, rest)
        else if isOctal letter then octalCode [letter] rest
        else if letter.isDigit then .error .malformed
        else escapedCode ofBytes letter rest
      escaped.map fun (code, rest) => (.range code code, rest)
  | character :: rest => .ok (.range character.toNat character.toNat, rest)

/-- The parts of a set up to its closing bracket, in reverse order. -/
def setItems (ofBytes : Bool) : Nat → List RegexItem → List Char → Reading (Front (List RegexItem))
  | 0, _, _ => .error .malformed
  | fuel + 1, items, characters => do
    if characters.head? = some ']' ∧ !items.isEmpty then return (items, characters.drop 1)
    let (item, rest) ← setMember ofBytes characters
    match rest with
    | '-' :: ']' :: rest => return (.range '-'.toNat '-'.toNat :: item :: items, rest)
    | '-' :: rest =>
      let (last, rest) ← setMember ofBytes rest
      match item, last with
      | .range low _, .range high _ =>
        require (low ≤ high)
        setItems ofBytes fuel (.range low high :: items) rest
      | _, _ => .error .malformed
    | _ => setItems ofBytes fuel (item :: items) rest

/-- The set behind an opening bracket. -/
def setToken (ofBytes : Bool) (characters : List Char) : Reading (Front Token) := do
  let (negated, rest) := match characters with
    | '^' :: rest => (true, rest)
    | rest => (false, rest)
  let (items, rest) ← setItems ofBytes (rest.length + 1) [] rest
  return (.single (.set negated items.reverse), rest)

/-- The mark behind a count that says how the counts are tried. -/
def eagerness : List Char → Eagerness × List Char
  | '?' :: rest => (.lazy, rest)
  | '+' :: rest => (.possessive, rest)
  | rest => (.greedy, rest)

/-- The digits of the least and the greatest count behind an opening brace, and the characters
behind the closing one; what is no complete count is no quantifier. -/
def bounds? (characters : List Char) : Option (List Char × List Char × List Char) :=
  let low := characters.takeWhile Char.isDigit
  match characters.dropWhile Char.isDigit with
  | '}' :: rest => if low.isEmpty then none else some (low, low, rest)
  | ',' :: more =>
    match more.dropWhile Char.isDigit with
    | '}' :: rest => some (low, more.takeWhile Char.isDigit, rest)
    | _ => none
  | _ => none

/-- The least number that is no count of repetitions. -/
def countLimit : Nat := 0xffffffff

/-- The count of repetitions that some digits stand for, if there are any. -/
def count? (digits : List Char) : Reading (Option Nat) :=
  if digits.isEmpty then .ok none
  else if Numeral.digitLimit < digits.length then .error (.countTooLong digits.length)
  else if countLimit ≤ numberOf 10 digits then .error .countTooLarge
  else .ok (some (numberOf 10 digits))

/-- A quantifier with its bounds, of which the greater must not be the first. -/
def quantifierToken (least : Nat) (most : Option Nat) (rest : List Char) :
    Reading (Front Token) := do
  require (most.all (least ≤ ·))
  let (eagerness, rest) := eagerness rest
  return (.quantifier least most eagerness, rest)

/-- A quantifier with its bounds in digits. A lone backslash at the end of the expression is met
before the digits are read. -/
def countedToken (low high rest : List Char) : Reading (Front Token) := do
  require (rest != ['\\'])
  let least ← count? low
  let most ← count? high
  quantifierToken (least.getD 0) most rest

/-- A name up to a closing character. -/
def name (closing : Char) (characters : List Char) : Reading (Front String) := do
  let name := characters.takeWhile (· != closing)
  let rest ← demand (characters.dropWhile (· != closing)).tail?
  require (Character.isIdentifier name)
  return (String.ofList name, rest)

/-- The characters behind a remark. A parenthesis behind a backslash does not end it. -/
def skipRemark : List Char → Reading (List Char)
  | [] => .error .malformed
  | ')' :: rest => .ok rest
  | '\\' :: _ :: rest => skipRemark rest
  | _ :: rest => skipRemark rest

/-- The token behind an opening parenthesis; a remark is none. -/
def openingToken : List Char → Reading (Front (Option Token))
  | '?' :: 'P' :: '<' :: rest => do
    let (name, rest) ← name '>' rest
    return (some (.opening (.capture (some name))), rest)
  | '?' :: 'P' :: '=' :: rest => do
    let (name, rest) ← name ')' rest
    return (some (.namedReference name), rest)
  | '?' :: ':' :: rest => .ok (some (.opening .plain), rest)
  | '?' :: '>' :: rest => .ok (some (.opening .atomic), rest)
  | '?' :: '=' :: rest => .ok (some (.opening (.ahead false)), rest)
  | '?' :: '!' :: rest => .ok (some (.opening (.ahead true)), rest)
  | '?' :: '<' :: '=' :: rest => .ok (some (.opening (.behind false)), rest)
  | '?' :: '<' :: '!' :: rest => .ok (some (.opening (.behind true)), rest)
  | '?' :: '#' :: rest => do return (none, ← skipRemark rest)
  | '?' :: _ => .error .malformed
  | rest => .ok (some (.opening (.capture none)), rest)

/-- The next token of an expression; none for a remark. -/
def nextToken (mode : RegexMode) (first : Char) (rest : List Char) :
    Reading (Front (Option Token)) :=
  let known := fun step : Reading (Front Token) => step.map fun (token, rest) => (some token, rest)
  match first with
  | '\\' => known (escapeToken mode.ofBytes rest)
  | '[' => known (setToken mode.ofBytes rest)
  | '.' => .ok (some (.single .any), rest)
  | '^' => .ok (some (.anchor (if mode.multiline then .lineStart else .textStart)), rest)
  | '$' => .ok (some (.anchor (if mode.multiline then .lineEnd else .lastLineEnd)), rest)
  | '|' => .ok (some .bar, rest)
  | ')' => .ok (some .closing, rest)
  | '(' => openingToken rest
  | '*' => known (quantifierToken 0 none rest)
  | '+' => known (quantifierToken 1 none rest)
  | '?' => known (quantifierToken 0 (some 1) rest)
  | '{' => match bounds? rest with
    | some (low, high, rest) => known (countedToken low high rest)
    | none => .ok (some (.single (.literal '{'.toNat)), rest)
  | character => .ok (some (.single (.literal character.toNat)), rest)

end TextGrammar.Regex
