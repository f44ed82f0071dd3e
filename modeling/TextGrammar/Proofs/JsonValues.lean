import TextGrammar.Proofs.JsonLists
import TextGrammar.Proofs.JsonStrings

/-! Values of all sorts. Where the placeholder of values decides their form as far as a number of
characters from the end, the definition decides it a character further: arrays and objects begin with
a bracket. -/

namespace TextGrammar.Json
open Sample

variable {scope : Scope} {known : Trial → Nat → Prop} {slack : Nat} {body rest after : List Char}
  {value : Option Value}

/-- What a value begins with. -/
def Opens (first : Char) : Prop :=
  first ∈ ['"', '-', '\x7b', '[', 't', 'f', 'n'] ∨ Character.isDecimal first

/-- A value of any sort. -/
def valueForm : Form where
  kind := .parser
  denotes body value := ∃ given, value = some given ∧ Renders body given
  empty := none
  begins rest := ∃ first ∈ rest.head?, Opens first
  ends := Ended

theorem numeral_opens {sign digits : List Char} (signs : Sign sign) (whole : Digits digits)
    (after : List Char) :
    ∃ first ∈ (sign ++ digits ++ after).head?, first = '-' ∨ Character.isDecimal first := by
  obtain ⟨some, decimal⟩ := whole
  rcases signs with rfl | rfl
  · cases digits with
    | nil => exact absurd rfl some
    | cons first digits => exact ⟨first, rfl, .inr (decimal first (by simp))⟩
  · exact ⟨'-', rfl, .inl rfl⟩

theorem Opens.of_numeral {first : Char} (numeral : first = '-' ∨ Character.isDecimal first) : Opens first := by
  rcases numeral with rfl | decimal
  · exact .inl (by simp)
  · exact .inr decimal

theorem valueForm_lawful : valueForm.Lawful where
  starts denotes := by
    obtain ⟨given, rfl, renders⟩ := denotes
    have known : ∀ (first : Char) (tail : List Char), Opens first → first :: tail ≠ [] ∧
        ∀ after, valueForm.begins (first :: tail ++ after) :=
      fun first _ opens => ⟨by simp, fun _ => ⟨first, rfl, opens⟩⟩
    have number : ∀ {sign digits : List Char} (others : List Char), Sign sign → Digits digits →
        sign ++ digits ++ others ≠ [] ∧ ∀ after, valueForm.begins (sign ++ digits ++ others ++ after) := by
      intro sign digits others signs whole
      refine ⟨by simp [whole.1], fun after => ?_⟩
      obtain ⟨first, here, numeral⟩ := numeral_opens signs whole (others ++ after)
      rw [List.append_assoc _ others]
      exact ⟨first, here, .of_numeral numeral⟩
    right
    cases renders with
    | null => exact known 'n' _ (.inl (by simp))
    | true => exact known 't' _ (.inl (by simp))
    | false => exact known 'f' _ (.inl (by simp))
    | integer integer =>
      obtain ⟨signs, whole⟩ := integer
      have all := number [] signs whole
      rw [List.append_nil] at all
      exact all
    | decimal decimal =>
      obtain @⟨_, _, fraction, exponent, signs, whole, -⟩ := decimal
      have all := number (fraction ++ exponent) signs whole
      rw [← List.append_assoc] at all
      exact all
    | string => exact known '"' _ (.inl (by simp))
    | emptyArray => exact known '[' _ (.inl (by simp))
    | array => exact known '[' _ (.inl (by simp))
    | emptyObject => exact known '\x7b' _ (.inl (by simp))
    | object => exact known '\x7b' _ (.inl (by simp))
  suits denotes _ := by
    obtain ⟨given, rfl, -⟩ := denotes
    rfl

/-- A value and the blanks behind it. -/
def elementForm : Form := valueForm.followedBy gapForm

theorem Opens.listed {first : Char} (opens : Opens first) : ¬Character.isBlank first ∧ ¬Closes first := by
  rcases opens with listed | decimal
  · have each : ∀ first ∈ ['"', '-', '\x7b', '[', 't', 'f', 'n'],
        ¬Character.isBlank first ∧ first ≠ ',' ∧ first ≠ ']' ∧ first ≠ '\x7d' :=
      List.all_iff_forall_prop.mp (by decide)
    have apart := each first listed
    simp [Closes, apart]
  · refine ⟨Character.not_isBlank_of_isDecimal decimal, ?_⟩
    rintro (rfl | rfl | rfl) <;> exact absurd decimal (by decide)

theorem elementForm_ends {first : Char} (closes : Closes first) (tail : List Char) :
    elementForm.ends (first :: tail) := by
  rcases closes with rfl | rfl | rfl <;> constructor <;> rintro _ ⟨⟩ <;> decide

theorem elementForm_listed : Listed elementForm where
  kind := rfl
  empty := rfl
  lawful := valueForm_lawful.followedBy <| gapForm_refines.lawful
    (blankForm_refines.lawful ((Form.run_lawful _).optional rfl) rfl) rfl
  begins begins := by
    obtain ⟨first, here, opens⟩ := Form.begins_of_followedBy begins rfl
    exact ⟨first, here, opens.listed⟩
  stops := And.right
  ends closes := elementForm_ends closes _

def memberForm : Form :=
  (((stringForm.followedBy blankForm).followedBy (.word ":")).followedBy blankForm).followedBy elementForm

theorem blankForm_lawful : blankForm.Lawful :=
  blankForm_refines.lawful ((Form.run_lawful _).optional rfl) rfl

theorem memberForm_listed : Listed memberForm where
  kind := rfl
  empty := rfl
  lawful := (((stringForm_lawful.followedBy blankForm_lawful).followedBy
    (Form.word_lawful (by simp))).followedBy blankForm_lawful).followedBy elementForm_listed.lawful
  begins begins := by
    have quote := Form.begins_of_followedBy begins rfl
    have quote := Form.begins_of_followedBy (Form.begins_of_followedBy quote rfl) rfl
    exact ⟨'"', Form.begins_of_followedBy quote rfl, Opens.listed (.inl (by simp))⟩
  stops := And.right
  ends closes := elementForm_ends closes _

section Itemises

theorem elementForm_itemises : Itemises elementForm Element.whole Element.value
    fun element => element.Spaced ∧ Renders element.text element.value := by
  intro text value
  constructor
  · rintro ⟨before, _, rfl, leading, body, after, _, _, rfl, ⟨given, rfl, renders⟩, ⟨trailing, -⟩, rfl⟩
    exact ⟨⟨before, body, after, given⟩, ⟨⟨leading, trailing⟩, renders⟩, (List.append_assoc _ _ _).symm, rfl⟩
  · rintro ⟨element, ⟨⟨leading, trailing⟩, renders⟩, rfl, rfl⟩
    exact ⟨element.before, element.text ++ element.after, List.append_assoc _ _ _, leading, element.text,
      element.after, _, none, rfl, ⟨element.value, rfl, renders⟩, ⟨trailing, rfl⟩, rfl⟩

/-- The value of a member, as it is read. -/
def tupleOf (member : Member) : Value := .tuple [.str (String.ofList member.key), member.element.value]

theorem memberForm_itemises : Itemises memberForm Member.whole tupleOf
    fun member => member.Spaced ∧ Quotes member.name member.key ∧
      Renders member.element.text member.element.value := by
  intro text value
  constructor
  · rintro ⟨before, _, rfl, leading, _, core, _, _, rfl, ⟨_, first, _, _, rfl, ⟨_, _, _, _, rfl,
      ⟨_, gap, _, _, rfl, ⟨name, key, rfl, quotes, rfl⟩, ⟨spaced, -⟩, rfl⟩, ⟨rfl, -⟩, rfl⟩, ⟨blank, -⟩, rfl⟩,
      denotes, rfl⟩
    obtain ⟨element, ⟨around, renders⟩, whole, rfl⟩ :=
      elementForm_itemises.mp ⟨first, core, rfl, blank, denotes⟩
    refine ⟨⟨before, name, key, gap, element⟩, ⟨⟨leading, spaced, around⟩, quotes, renders⟩, ?_, rfl⟩
    rw [Member.whole, ← whole]
    simp
  · rintro ⟨member, ⟨⟨leading, spaced, around⟩, quotes, renders⟩, rfl, rfl⟩
    obtain ⟨first, core, whole, blank, denotes⟩ := elementForm_itemises.mpr ⟨member.element, ⟨around, renders⟩, rfl, rfl⟩
    refine ⟨member.before, '"' :: (member.name ++ ['"']) ++ member.beforeColon ++ [':'] ++ first ++ core,
      ?_, leading, ?_⟩
    · rw [Member.whole, whole]
      simp
    · exact ⟨_, core, some (.str (String.ofList member.key)), _, rfl, ⟨_, first, some _, none, rfl, ⟨_, [':'], some _, none, rfl,
        ⟨_, member.beforeColon, some _, none, rfl, ⟨member.name, member.key, rfl, quotes, rfl⟩, ⟨spaced, rfl⟩, rfl⟩,
        ⟨rfl, rfl⟩, rfl⟩, ⟨blank, rfl⟩, rfl⟩, denotes, rfl⟩

end Itemises

section Collections

def arrayForm : Form := (bracketed "[" "]" elementForm).mapped Value.Transform.orEmpty

def objectForm : Form := (bracketed "\x7b" "\x7d" memberForm).mapped Value.toDict

theorem arrayForm_denotes : arrayForm.denotes body value ↔
    (∃ blanks, Blank blanks ∧ body = '[' :: blanks ++ [']'] ∧ value = some (.list [])) ∨
    ∃ elements : List Element, elements ≠ [] ∧
      (∀ element ∈ elements, element.Spaced ∧ Renders element.text element.value) ∧
        body = '[' :: [','].intercalate (elements.map Element.whole) ++ [']'] ∧
          value = some (.list (elements.map Element.value)) := by
  have inner (given : Value) : (bracketed "[" "]" elementForm).denotes body (some given) ↔ _ :=
    bracketed_denotes elementForm_itemises rfl
  constructor
  · rintro ⟨given, changed, denotes, made, rfl⟩
    obtain ⟨blanks, blank, rfl, ⟨⟩⟩ | ⟨elements, there, all, rfl, ⟨⟩⟩ := (inner given).mp denotes
    · cases made
      exact .inl ⟨blanks, blank, rfl, rfl⟩
    · cases made
      exact .inr ⟨elements, there, all, rfl, rfl⟩
  · rintro (⟨blanks, blank, rfl, rfl⟩ | ⟨elements, there, all, rfl, rfl⟩)
    · exact ⟨.null, _, (inner _).mpr (.inl ⟨blanks, blank, rfl, rfl⟩), rfl, rfl⟩
    · exact ⟨.list _, _, (inner _).mpr (.inr ⟨elements, there, all, rfl, rfl⟩), rfl, rfl⟩

theorem pairs_tuples (members : List Member) (index : Nat) :
    Value.pairs index (members.map tupleOf) =
      .ok ((members.map Member.pair).map fun pair => (.str pair.1, pair.2)) := by
  induction members generalizing index with
  | nil => rfl
  | cons member members ih =>
    rw [List.map_cons, Value.pairs]
    simp only [tupleOf, Value.items?, Value.unhashable?]
    rw [ih]
    rfl

/-- The dictionary of members. -/
theorem toDict_tuples {members : List Member} (there : members ≠ []) :
    Value.toDict (.list (members.map tupleOf)) = .ok (.dict (entries (members.map Member.pair))) := by
  have true : (Value.list (members.map tupleOf)).truth = true := by simp [Value.truth, there]
  rw [← dictOfPairs_eq]
  simp only [Value.toDict, true, Value.items, Value.items?, ↓reduceIte]
  change (do return Value.dictOfPairs (← Value.pairs 0 (members.map tupleOf))) = _
  rw [pairs_tuples]
  rfl

theorem objectForm_denotes : objectForm.denotes body value ↔
    (∃ blanks, Blank blanks ∧ body = '\x7b' :: blanks ++ ['\x7d'] ∧ value = some (.dict [])) ∨
    ∃ members : List Member, members ≠ [] ∧
      (∀ member ∈ members, member.Spaced ∧ Quotes member.name member.key ∧
        Renders member.element.text member.element.value) ∧
        body = '\x7b' :: [','].intercalate (members.map Member.whole) ++ ['\x7d'] ∧
          value = some (.dict (entries (members.map Member.pair))) := by
  have inner (given : Value) : (bracketed "\x7b" "\x7d" memberForm).denotes body (some given) ↔ _ :=
    bracketed_denotes memberForm_itemises rfl
  constructor
  · rintro ⟨given, changed, denotes, made, rfl⟩
    obtain ⟨blanks, blank, rfl, ⟨⟩⟩ | ⟨members, there, all, rfl, ⟨⟩⟩ := (inner given).mp denotes
    · cases made
      exact .inl ⟨blanks, blank, rfl, rfl⟩
    · rw [toDict_tuples there] at made
      cases made
      exact .inr ⟨members, there, all, rfl, rfl⟩
  · rintro (⟨blanks, blank, rfl, rfl⟩ | ⟨members, there, all, rfl, rfl⟩)
    · exact ⟨.null, _, (inner _).mpr (.inl ⟨blanks, blank, rfl, rfl⟩), rfl, rfl⟩
    · exact ⟨.list _, _, (inner _).mpr (.inr ⟨members, there, all, rfl, rfl⟩), toDict_tuples there, rfl⟩

end Collections

section Alternatives

/-- The forms of values by their sorts, in the order in which they are tried. -/
def valueForms : List Form :=
  [stringForm, numberForm, objectForm, arrayForm, (Form.word "true").worth fun _ => .bool true,
    (Form.word "false").worth fun _ => .bool false, (Form.word "null").worth fun _ => .null]

theorem renders_iff {given : Value} :
    Renders body given ↔ ∃ form ∈ valueForms, form.denotes body (some given) := by
  constructor
  · intro renders
    cases renders with
    | null => exact ⟨(Form.word "null").worth fun _ => .null, by simp [valueForms], ⟨none, rfl, rfl⟩, rfl⟩
    | true =>
      exact ⟨(Form.word "true").worth fun _ => .bool true, by simp [valueForms], ⟨none, rfl, rfl⟩, rfl⟩
    | false =>
      exact ⟨(Form.word "false").worth fun _ => .bool false, by simp [valueForms], ⟨none, rfl, rfl⟩, rfl⟩
    | integer integer read =>
      exact ⟨numberForm, by simp [valueForms], _, rfl, .inl ⟨_, integer, read, rfl⟩⟩
    | decimal decimal read =>
      exact ⟨numberForm, by simp [valueForms], _, rfl, .inr ⟨_, decimal, read, rfl⟩⟩
    | string quotes => exact ⟨stringForm, by simp [valueForms], _, _, rfl, quotes, rfl⟩
    | emptyArray blank =>
      exact ⟨arrayForm, by simp [valueForms], arrayForm_denotes.mpr (.inl ⟨_, blank, rfl, rfl⟩)⟩
    | @array elements there spaced each =>
      have all : ∀ element ∈ elements, element.Spaced ∧ Renders element.text element.value :=
        fun element member => ⟨spaced element member, each element member⟩
      exact ⟨arrayForm, by simp [valueForms], arrayForm_denotes.mpr (.inr ⟨elements, there, all, rfl, rfl⟩)⟩
    | emptyObject blank =>
      exact ⟨objectForm, by simp [valueForms], objectForm_denotes.mpr (.inl ⟨_, blank, rfl, rfl⟩)⟩
    | @object members there spaced names each =>
      have all : ∀ member ∈ members, member.Spaced ∧ Quotes member.name member.key ∧
          Renders member.element.text member.element.value :=
        fun member inside => ⟨spaced member inside, names member inside, each member inside⟩
      exact ⟨objectForm, by simp [valueForms],
        objectForm_denotes.mpr (.inr ⟨members, there, all, rfl, rfl⟩)⟩
  · rintro ⟨form, member, denotes⟩
    simp only [valueForms, List.mem_cons, List.not_mem_nil, or_false] at member
    rcases member with rfl | rfl | rfl | rfl | rfl | rfl | rfl
    · obtain ⟨_, _, rfl, quotes, ⟨⟩⟩ := denotes
      exact .string quotes
    · obtain ⟨_, ⟨⟩, ⟨integer, numeral, read, rfl⟩ | ⟨float, numeral, read, rfl⟩⟩ := denotes
      · exact .integer numeral read
      · exact .decimal numeral read
    · obtain ⟨_, blank, rfl, ⟨⟩⟩ | ⟨members, there, all, rfl, ⟨⟩⟩ := objectForm_denotes.mp denotes
      · exact .emptyObject blank
      · exact .object there (fun member inside => (all member inside).1)
          (fun member inside => (all member inside).2.1) fun member inside => (all member inside).2.2
    · obtain ⟨_, blank, rfl, ⟨⟩⟩ | ⟨elements, there, all, rfl, ⟨⟩⟩ := arrayForm_denotes.mp denotes
      · exact .emptyArray blank
      · exact .array there (fun element inside => (all element inside).1)
          fun element inside => (all element inside).2
    · obtain ⟨⟨_, rfl, -⟩, ⟨⟩⟩ := denotes
      exact .true
    · obtain ⟨⟨_, rfl, -⟩, ⟨⟩⟩ := denotes
      exact .false
    · obtain ⟨⟨_, rfl, -⟩, ⟨⟩⟩ := denotes
      exact .null

/-- What tells the sorts of values apart. -/
def keyOf (rest : List Char) : Option Char :=
  rest.head?.map fun first => if first = '-' ∨ Character.isDecimal first then '0' else first

theorem keyOf_of_head? {first : Char} (here : first ∈ rest.head?) :
    keyOf rest = some (if first = '-' ∨ Character.isDecimal first then '0' else first) := by
  rw [keyOf, Option.mem_def.mp here, Option.map_some]

theorem keyOf_of_word {word : String} {first : Char} {tail : List Char} (is : word.toList = first :: tail)
    (begins : word.toList <+: rest) : first ∈ rest.head? := by
  obtain ⟨after, rfl⟩ := begins
  rw [is]
  rfl

theorem keyOf_of_begins {first key : Char} {form : Form}
    (begins : ∀ {rest}, form.begins rest → first ∈ rest.head?)
    (is : (if first = '-' ∨ Character.isDecimal first then '0' else first) = key) :
    ∀ rest, form.begins rest → keyOf rest = some key := by
  intro rest there
  rw [keyOf_of_head? (begins there), is]

theorem valueForms_keys : List.Forall₂ (fun form key => ∀ rest, form.begins rest → keyOf rest = some key)
    valueForms ['"', '0', '\x7b', '[', 't', 'f', 'n'] := by
  have number : ∀ rest, numberForm.begins rest → keyOf rest = some '0' := by
    rintro rest ⟨first, here, numeral⟩
    rw [keyOf_of_head? here, if_pos numeral]
  have bracket : ∀ {opening closing : String} {form : Form} {rest : List Char},
      (bracketed opening closing form).begins rest → opening.toList <+: rest := fun begins =>
    Form.begins_of_followedBy (Form.begins_of_followedBy (Form.begins_of_followedBy begins rfl) rfl) rfl
  refine .cons (keyOf_of_begins id (by decide)) <| .cons number <|
    .cons (keyOf_of_begins (fun begins => keyOf_of_word rfl (bracket begins)) (by decide)) <|
    .cons (keyOf_of_begins (fun begins => keyOf_of_word rfl (bracket begins)) (by decide)) <|
    .cons (keyOf_of_begins (keyOf_of_word rfl) (by decide)) <|
    .cons (keyOf_of_begins (keyOf_of_word rfl) (by decide)) <|
    .cons (keyOf_of_begins (keyOf_of_word rfl) (by decide)) .nil

end Alternatives

section Definition

theorem string_recognises : string.Recognises scope known slack stringForm where
  lawful := stringForm_lawful
  makes := string_makes.imp fun recognises trial _ _ rest _ =>
    recognises trial (rest.length + 1) trivial rest (Nat.lt_succ_self _)

/-- Blanks end a value. -/
theorem valueForm_meets : valueForm.Meets gapForm := by
  intro back value after denotes ends first here
  obtain ⟨blank, -⟩ := denotes
  cases back with
  | nil => exact ends.1 first here
  | cons blank' back =>
    cases here
    have is := blank _ List.mem_cons_self
    refine ⟨fun decimal => Character.not_isBlank_of_isDecimal decimal is, ?_, ?_, ?_⟩ <;> rintro rfl <;>
      exact absurd is (by decide)

theorem word_recognises (word : String) (some : word.toList ≠ []) (given : Value) :
    (Expression.returning (.literal word) given).Recognises scope known slack
      ((Form.word word).worth fun _ => given) :=
  (Expression.Recognises.literal scope known slack some).returning rfl given

/-- Members make a dictionary. -/
theorem toDict_of_denotes {given : Value}
    (denotes : (bracketed "\x7b" "\x7d" memberForm).denotes body (some given)) :
    ∃ changed, Value.toDict given = .ok changed := by
  obtain ⟨_, -, -, ⟨⟩⟩ | ⟨members, there, -, -, ⟨⟩⟩ := (bracketed_denotes memberForm_itemises rfl).mp denotes
  · exact ⟨_, rfl⟩
  · exact ⟨_, toDict_tuples there⟩

theorem valueForm_refines (apart : Form.Apart .parser valueForms) :
    valueForm.Refines (.oneOf .parser valueForms) where
  denotes {body value} := by
    constructor
    · rintro ⟨given, rfl, renders⟩
      exact renders_iff.mp renders
    · intro denotes
      have some := (Form.Lawful.oneOf apart).suits denotes rfl
      obtain ⟨given, rfl⟩ := Option.isSome_iff_exists.mp some
      exact ⟨given, rfl, renders_iff.mpr denotes⟩
  empty := rfl
  begins begins := by
    obtain ⟨form, member, begins⟩ := begins
    obtain ⟨key, known, is⟩ := Form.exists_key valueForms_keys member begins
    obtain ⟨first, here, rfl⟩ := Option.map_eq_some_iff.mp is
    refine ⟨first, here, ?_⟩
    by_cases numeral : first = '-' ∨ Character.isDecimal first
    · exact .of_numeral numeral
    · have other : first ≠ '0' := by
        rintro rfl
        exact numeral (.inr (by decide))
      rw [if_neg numeral] at known
      left
      simp only [List.mem_cons, List.not_mem_nil, or_false] at known ⊢
      tauto
  ends ends := by
    intro form member
    simp only [valueForms, List.mem_cons, List.not_mem_nil, or_false] at member
    rcases member with rfl | rfl | rfl | rfl | rfl | rfl | rfl
    · trivial
    · exact ends
    all_goals trivial

theorem valueForms_kinds : ∀ form ∈ valueForms, form.kind = .parser ∧ form.empty = none := by
  intro form member
  simp only [valueForms, List.mem_cons, List.not_mem_nil, or_false] at member
  rcases member with rfl | rfl | rfl | rfl | rfl | rfl | rfl <;> exact ⟨rfl, rfl⟩

/-- What values are defined by, in terms of themselves. -/
def valueDefinition : Expression :=
  .either .parser [string, number, object, array, .returning (.literal "true") (.bool true),
    .returning (.literal "false") (.bool false), .returning (.literal "null") .null]

section Recursion
variable (recursion : (Expression.variable "value").Recognises scope known 0 valueForm)
include recursion

theorem element_recognises : element.Recognises scope known 0 elementForm :=
  recursion.sum (space_recognises.refine gapForm_refines rfl) valueForm_meets

theorem array_recognises : array.Recognises scope known 1 arrayForm := by
  have list : (("[" : Expression) + space + Expression.optional (.separatedBy element comma) +
      ("]" : Expression)).Recognises scope known 1 (bracketed "[" "]" elementForm) :=
    bracketed_recognises elementForm_listed ⟨']', rfl, .inr (.inl rfl), by decide⟩
      (element_recognises recursion) (by simp)
  apply list.shifted rfl rfl
  intro trial bound _ body given fault _ denotes failed
  cases given <;> cases failed

theorem member_recognises : member.Recognises scope known 0 memberForm := by
  have colon : ((stringForm.followedBy blankForm)).Meets (.word ":") := by
    rintro _ _ after ⟨rfl, -⟩ _ first ⟨⟩
    decide
  have name : (string + space + (":" : Expression)).Recognises scope known 0
      ((stringForm.followedBy blankForm).followedBy (.word ":")) :=
    (string_recognises.sum space_recognises fun _ _ => trivial).sum_word (by simp) colon
  exact (name.sum space_recognises fun _ _ => trivial).sum (element_recognises recursion)
    fun denotes _ => elementForm_listed.not_blank denotes _

theorem object_recognises : object.Recognises scope known 1 objectForm := by
  have list : (("\x7b" : Expression) + space + Expression.optional (.separatedBy member comma) +
      ("\x7d" : Expression)).Recognises scope known 1 (bracketed "\x7b" "\x7d" memberForm) :=
    bracketed_recognises memberForm_listed ⟨'\x7d', rfl, .inr (.inr rfl), by decide⟩
      (member_recognises recursion) (by simp)
  apply list.shifted rfl rfl
  intro trial bound _ body given fault _ denotes failed
  obtain ⟨changed, made⟩ := toDict_of_denotes denotes
  cases made.symm.trans failed

/-- The definition of values, given its placeholder. -/
theorem definition_recognises (blames : ∀ {trial bound}, known trial bound → Blames trial) :
    valueDefinition.Recognises scope known 1 valueForm := by
  have all : List.Forall₂ (fun expression form => expression.Recognises scope known 1 form)
      [string, number, object, array, .returning (.literal "true") (.bool true),
        .returning (.literal "false") (.bool false), .returning (.literal "null") .null] valueForms :=
    .cons string_recognises <| .cons (number_recognises blames) <| .cons (object_recognises recursion) <|
      .cons (array_recognises recursion) <| .cons (word_recognises "true" (by simp) _) <|
      .cons (word_recognises "false" (by simp) _) <| .cons (word_recognises "null" (by simp) _) .nil
  have apart : Form.Apart .parser valueForms :=
    { kinds := fun form member => (valueForms_kinds form member).1
      empty := fun form member => (valueForms_kinds form member).2
      lawful := Expression.Recognises.all_lawful all
      begins := Form.begins_apart (valueForms_keys) (by decide) }
  exact (Expression.Recognises.either all apart).refine (valueForm_refines apart) rfl

end Recursion

end Definition

end TextGrammar.Json
