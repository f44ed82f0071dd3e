import Mathlib.Data.List.Induction
import Mathlib.Data.List.Nodup
import TextGrammar.Character.Blank
import TextGrammar.Number.Numeral
import TextGrammar.Value.Operation

/-! The texts that stand for JSON values, told without a grammar that reads them. Blanks may be of
all scripts, and so may the digits of numbers. The digits of an escape are plain. -/

namespace TextGrammar.Json

/-- Any number of blanks. -/
def Blank (run : List Char) : Prop := ∀ character ∈ run, Character.isBlank character

/-- Decimal digits, at least one. -/
def Digits (run : List Char) : Prop := run ≠ [] ∧ ∀ character ∈ run, Character.isDecimal character

/-- A minus sign, or none. -/
def Sign (run : List Char) : Prop := run = [] ∨ run = ['-']

/-- A point and digits, or nothing. -/
def Fraction (run : List Char) : Prop := run = [] ∨ ∃ digits, Digits digits ∧ run = '.' :: digits

/-- A sign of an exponent, or none. -/
def ExponentSign (run : List Char) : Prop := run = [] ∨ run = ['+'] ∨ run = ['-']

/-- An exponent, or nothing. -/
def Exponent (run : List Char) : Prop :=
  run = [] ∨ ∃ mark sign digits, (mark = 'e' ∨ mark = 'E') ∧ ExponentSign sign ∧ Digits digits ∧
    run = mark :: (sign ++ digits)

/-- A numeral without fraction and exponent. -/
inductive Integer : List Char → Prop
  | of {sign digits : List Char} : Sign sign → Digits digits → Integer (sign ++ digits)

/-- A numeral with a fraction or an exponent. -/
inductive Decimal : List Char → Prop
  | of {sign digits fraction exponent : List Char} : Sign sign → Digits digits → Fraction fraction →
      Exponent exponent → ¬(fraction = [] ∧ exponent = []) →
        Decimal (sign ++ digits ++ fraction ++ exponent)

/-- The character for a letter behind a backslash. -/
def escaped? : Char → Option Char
  | '"' => some '"'
  | '\\' => some '\\'
  | '/' => some '/'
  | 'b' => some '\x08'
  | 'f' => some '\x0c'
  | 'n' => some '\n'
  | 'r' => some '\r'
  | 't' => some '\t'
  | _ => none

def isHexadecimal (character : Char) : Bool :=
  "0123456789abcdefABCDEF".toList.contains character

/-- The value of a hexadecimal digit. -/
def hexadecimal (digit : Char) : Nat :=
  if digit ≤ '9' then digit.toNat - '0'.toNat
  else if digit ≤ 'F' then digit.toNat - 'A'.toNat + 10
  else digit.toNat - 'a'.toNat + 10

/-- The code point that four hexadecimal digits stand for. -/
def codePoint (digits : List Char) : Nat :=
  digits.foldl (fun code digit => code * 16 + hexadecimal digit) 0

/-- What may stand between the quotes of a string, and the characters that it stands for. The code
point of a surrogate stands for no character, so there is nothing to choose for it. -/
inductive Quotes : List Char → List Char → Prop
  | nil : Quotes [] []
  | raw {character : Char} {body characters : List Char} : character ≠ '"' → character ≠ '\\' →
      Quotes body characters → Quotes (character :: body) (character :: characters)
  | simple {letter character : Char} {body characters : List Char} :
      escaped? letter = some character → Quotes body characters →
        Quotes ('\\' :: letter :: body) (character :: characters)
  | unicode {digits body characters : List Char} : digits.length = 4 →
      (∀ digit ∈ digits, isHexadecimal digit) → Quotes body characters →
        Quotes ('\\' :: 'u' :: (digits ++ body)) (Char.ofNat (codePoint digits) :: characters)

/-- An element of an array, with the blanks around it. -/
structure Element where
  before : List Char
  text : List Char
  after : List Char
  value : Value

namespace Element

/-- All that stands for an element. -/
def whole (element : Element) : List Char := element.before ++ element.text ++ element.after

def Spaced (element : Element) : Prop := Blank element.before ∧ Blank element.after

end Element

/-- A member of an object: what stands between the quotes of its key, the key, the blanks in front of
and behind the colon, and the value as an element. -/
structure Member where
  before : List Char
  name : List Char
  key : List Char
  beforeColon : List Char
  element : Element

namespace Member

/-- All that stands for a member. -/
def whole (member : Member) : List Char :=
  member.before ++ '"' :: member.name ++ '"' :: member.beforeColon ++ ':' :: member.element.whole

structure Spaced (member : Member) : Prop where
  before : Blank member.before
  beforeColon : Blank member.beforeColon
  element : member.element.Spaced

/-- The key and the value of a member. -/
def pair (member : Member) : String × Value := (String.ofList member.key, member.element.value)

end Member

/-- The entries of an object: a key that is repeated keeps its first place and has its last value. -/
def entries (pairs : List (String × Value)) : List (Value × Value) :=
  (pairs.map Prod.fst).eraseDups.map fun key =>
    (.str key, (pairs.reverse.lookup key).getD .null)

/-- The texts of values, without blanks around them. -/
inductive Renders : List Char → Value → Prop
  | null : Renders "null".toList .null
  | true : Renders "true".toList (.bool true)
  | false : Renders "false".toList (.bool false)
  | integer {token : List Char} {integer : Int} : Integer token →
      Value.ofNumeral 10 (String.ofList token) = .ok integer → Renders token (.int integer)
  | decimal {token : List Char} {number : Binary64} : Decimal token →
      Numeral.decimal? (String.ofList token) = some number → Renders token (.float number)
  | string {body characters : List Char} : Quotes body characters →
      Renders ('"' :: body ++ ['"']) (.str (String.ofList characters))
  | emptyArray {blanks : List Char} : Blank blanks → Renders ('[' :: blanks ++ [']']) (.list [])
  | array {elements : List Element} : elements ≠ [] → (∀ element ∈ elements, element.Spaced) →
      (∀ element ∈ elements, Renders element.text element.value) →
        Renders ('[' :: [','].intercalate (elements.map Element.whole) ++ [']'])
          (.list (elements.map Element.value))
  | emptyObject {blanks : List Char} : Blank blanks →
      Renders ('\x7b' :: blanks ++ ['\x7d']) (.dict [])
  | object {members : List Member} : members ≠ [] → (∀ member ∈ members, member.Spaced) →
      (∀ member ∈ members, Quotes member.name member.key) →
      (∀ member ∈ members, Renders member.element.text member.element.value) →
        Renders ('\x7b' :: [','].intercalate (members.map Member.whole) ++ ['\x7d'])
          (.dict (entries (members.map Member.pair)))

/-- The texts of documents. -/
inductive Document : List Char → Value → Prop
  | of {before body after : List Char} {value : Value} : Blank before → Renders body value →
      Blank after → Document (before ++ body ++ after) value

section Entries

theorem eraseDups_concat (keys : List String) (key : String) :
    (keys ++ [key]).eraseDups = if key ∈ keys then keys.eraseDups else keys.eraseDups ++ [key] := by
  rw [List.eraseDups_append, List.removeAll]
  by_cases known : key ∈ keys
  · simp [known]
  · simp [known, List.eraseDups_cons]

theorem nodup_eraseDups (keys : List String) : keys.eraseDups.Nodup := by
  induction keys using List.reverseRecOn with
  | nil => exact List.nodup_nil
  | append_singleton keys key ih =>
    rw [eraseDups_concat]
    by_cases known : key ∈ keys
    · rw [if_pos known]
      exact ih
    · rw [if_neg known]
      have fresh : key ∉ keys.eraseDups := mt List.mem_eraseDups.mp known
      rw [← List.concat_eq_append]
      exact .concat fresh ih

theorem same_str (first second : String) : Value.same (.str first) (.str second) = (first == second) := by
  simp [Value.same, Value.sameBy]

theorem insertEntry_map {keys : List String} (distinct : keys.Nodup) (key : String) (value : Value)
    (valueOf : String → Value) :
    Value.insertEntry (.str key) value (keys.map fun other => (.str other, valueOf other)) =
      (if key ∈ keys then keys else keys ++ [key]).map fun other =>
        (.str other, if other = key then value else valueOf other) := by
  induction keys with
  | nil => simp [Value.insertEntry]
  | cons first rest ih =>
    obtain ⟨fresh, distinct⟩ := List.nodup_cons.mp distinct
    rw [List.map_cons, Value.insertEntry, same_str]
    by_cases found : first = key
    · subst found
      have others : ∀ other ∈ rest, other ≠ first := by
        intro other there equal
        exact fresh (equal ▸ there)
      simp only [beq_self_eq_true, ↓reduceIte, List.mem_cons, true_or, List.map_cons, List.cons.injEq,
        true_and]
      refine List.map_congr_left fun other there => ?_
      rw [if_neg (others other there)]
    · have absent : key ≠ first := fun equal => found equal.symm
      rw [beq_false_of_ne found, ih distinct]
      by_cases known : key ∈ rest
      · simp [known, found]
      · simp [known, found, absent]

theorem entries_concat (pairs : List (String × Value)) (key : String) (value : Value) :
    entries (pairs ++ [(key, value)]) = Value.insertEntry (.str key) value (entries pairs) := by
  rw [entries, entries, insertEntry_map (nodup_eraseDups _), List.map_append, List.map_singleton,
    eraseDups_concat, List.reverse_append, List.reverse_singleton, List.singleton_append]
  simp only [List.mem_eraseDups]
  refine List.map_congr_left fun other _ => ?_
  rw [List.lookup_cons]
  by_cases found : other = key
  · simp [found]
  · rw [beq_false_of_ne found, if_neg found]

/-- The entries of an object are those of the dictionary that takes its members in order. -/
theorem dictOfPairs_eq (pairs : List (String × Value)) :
    Value.dictOfPairs (pairs.map fun pair => (.str pair.1, pair.2)) = .dict (entries pairs) := by
  induction pairs using List.reverseRecOn with
  | nil => rfl
  | append_singleton pairs pair ih =>
    have known := Value.dict.inj ih
    rw [Value.dictOfPairs, List.map_append, List.foldl_append, known, entries_concat]
    rfl

end Entries

end TextGrammar.Json
