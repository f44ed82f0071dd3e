import TextGrammar.Proofs.Integers
import TextGrammar.Proofs.WholeTexts
import TextGrammar.Sample.Csv

/-! The language of tables. A cell is a text between quotes or an integer, and neither can be taken for
the other, nor for a part of a longer one, by what stands in front of a comma or a line break. -/

namespace TextGrammar.Csv
open Sample Json

/-- A cell as it is written. -/
inductive Cell
  | quoted (content : List Char) (some : content ≠ []) (plain : '"' ∉ content)
  | number (numeral : List Char) (integer : Integer numeral)

namespace Cell

def text : Cell → List Char
  | quoted content _ _ => '"' :: (content ++ ['"'])
  | number numeral _ => numeral

def value : Cell → Except Fault Value
  | quoted content _ _ => .ok (.str (String.ofList content))
  | number numeral _ => (Value.ofNumeral 10 (String.ofList numeral)).map .int

end Cell

/-- A line of cells. -/
structure Row where
  cells : List Cell
  some : cells ≠ []

namespace Row

def text (row : Row) : List Char := [','].intercalate (row.cells.map Cell.text) ++ ['\n']

def value (row : Row) : Except Fault Value := .list <$> row.cells.mapM Cell.value

end Row

/-- The text of the lines of a table. -/
def text (table : List Row) : List Char := table.flatMap Row.text

def values (table : List Row) : Except Fault (List Value) := table.mapM Row.value

section Unique
variable {after later : List Char}

/-- What stands in front of a quote. -/
theorem quoted_unique {content other : List Char} (plain : '"' ∉ content) (bare : '"' ∉ other)
    (same : content ++ '"' :: after = other ++ '"' :: later) : content = other ∧ after = later := by
  induction content generalizing other with
  | nil =>
    cases other with
    | nil => exact ⟨rfl, (List.cons.inj same).2⟩
    | cons first tail => exact absurd (List.mem_cons.mpr (.inl (List.cons.inj same).1)) bare
  | cons first tail ih =>
    cases other with
    | nil => exact absurd (List.mem_cons.mpr (.inl (List.cons.inj same).1.symm)) plain
    | cons second rest =>
      obtain ⟨rfl, tails⟩ := List.cons.inj same
      obtain ⟨rfl, ends⟩ := ih (mt (List.mem_cons_of_mem _) plain) (mt (List.mem_cons_of_mem _) bare) tails
      exact ⟨rfl, ends⟩

theorem Cell.unique {one two : Cell} (ends : digitsForm.ends after) (ended : digitsForm.ends later)
    (same : one.text ++ after = two.text ++ later) : one = two ∧ after = later := by
  have apart {numeral : List Char} (integer : Integer numeral) (rest after : List Char) :
      numeral ++ after ≠ '"' :: rest := by
    intro same
    obtain ⟨-, first, here, begins⟩ := integer_begins integer after
    rw [same] at here
    cases here
    obtain is | is := begins
    · exact absurd is (by decide)
    · exact absurd is (by decide)
  cases one with
  | quoted content some plain =>
    cases two with
    | quoted other _ bare =>
      simp only [text, List.cons_append, List.append_assoc, List.nil_append, List.cons.injEq, true_and] at same
      obtain ⟨rfl, rfl⟩ := quoted_unique plain bare same
      exact ⟨rfl, rfl⟩
    | number numeral integer => exact absurd same.symm (apart integer _ _)
  | number numeral integer =>
    cases two with
    | quoted content some plain => exact absurd same (apart integer _ _)
    | number other whole =>
      obtain ⟨rfl, rfl⟩ := integer_unique integer whole ends ended same
      exact ⟨rfl, rfl⟩

/-- Commas and line breaks end a cell. -/
theorem ends_cons {first : Char} (closes : first = ',' ∨ first = '\n') (tail : List Char) :
    digitsForm.ends (first :: tail) := by
  rintro _ ⟨⟩
  obtain rfl | rfl := closes <;> decide

/-- The cells behind the first one, up to the line break. -/
def others (cells : List Cell) (after : List Char) : List Char :=
  (cells.flatMap fun cell => ',' :: cell.text) ++ '\n' :: after

theorem others_ends (cells : List Cell) (after : List Char) : digitsForm.ends (others cells after) := by
  cases cells with
  | nil => exact ends_cons (.inr rfl) _
  | cons cell cells => exact ends_cons (.inl rfl) _

theorem others_unique {one two : List Cell} (same : others one after = others two later) :
    one = two ∧ after = later := by
  induction one generalizing two with
  | nil =>
    cases two with
    | nil => exact ⟨rfl, (List.cons.inj same).2⟩
    | cons cell cells => exact absurd (List.cons.inj same).1 (by decide)
  | cons cell cells ih =>
    cases two with
    | nil => exact absurd (List.cons.inj same).1 (by decide)
    | cons next more =>
      simp only [others, List.flatMap_cons, List.cons_append, List.append_assoc, List.cons.injEq, true_and] at same
      obtain ⟨rfl, tails⟩ := Cell.unique (others_ends _ _) (others_ends _ _) same
      obtain ⟨rfl, rfl⟩ := ih tails
      exact ⟨rfl, rfl⟩

theorem Row.text_append (cell : Cell) (cells : List Cell) (some : cell :: cells ≠ []) (after : List Char) :
    (Row.mk (cell :: cells) some).text ++ after = cell.text ++ others cells after := by
  simp only [text, List.map_cons, Form.intercalate_cons, others, List.flatMap_map, List.append_assoc,
    List.cons_append, List.nil_append]

theorem Row.unique {one two : Row} (same : one.text ++ after = two.text ++ later) :
    one = two ∧ after = later := by
  obtain ⟨_ | ⟨cell, cells⟩, some⟩ := one
  · exact absurd rfl some
  obtain ⟨_ | ⟨next, more⟩, some'⟩ := two
  · exact absurd rfl some'
  rw [text_append, text_append] at same
  obtain ⟨rfl, tails⟩ := Cell.unique (others_ends _ _) (others_ends _ _) same
  obtain ⟨rfl, rfl⟩ := others_unique tails
  exact ⟨rfl, rfl⟩

/-- No text is the text of two tables. -/
theorem text_injective : Function.Injective text := by
  have taken (row : Row) : row.text ≠ [] := List.append_ne_nil_of_right_ne_nil _ (List.cons_ne_nil _ _)
  intro one two same
  induction one generalizing two with
  | nil =>
    cases two with
    | nil => rfl
    | cons row rows => exact absurd (List.append_eq_nil_iff.mp same.symm).1 (taken row)
  | cons row rows ih =>
    cases two with
    | nil => exact absurd (List.append_eq_nil_iff.mp same).1 (taken row)
    | cons next more =>
      obtain ⟨rfl, tails⟩ := Row.unique same
      rw [ih tails]

end Unique

section Forms
variable {scope : Scope} {known : Trial → Nat → Prop} {slack : Nat} {body rest after : List Char}

/-- A form of written items, each worth what it is worth by itself. -/
abbrev Spells {ι : Type} (form : Form) (text : ι → List Char) (value : ι → Except Fault Value) : Prop :=
  form.Itemises (fun item : ι × Value => text item.1) (fun item => some item.2) fun item =>
    value item.1 = .ok item.2

/-- Values of items one by one. -/
theorem mapM_iff {ι : Type} {value : ι → Except Fault Value} {items : List ι} {values : List Value} :
    items.mapM value = .ok values ↔ ∃ worth : List (ι × Value), (∀ item ∈ worth, value item.1 = .ok item.2) ∧
      worth.map Prod.fst = items ∧ worth.map Prod.snd = values := by
  induction items generalizing values with
  | nil =>
    constructor
    · rintro ⟨⟩
      exact ⟨[], by simp⟩
    · rintro ⟨worth, -, none, rfl⟩
      rw [List.map_eq_nil_iff.mp none]
      rfl
  | cons item items ih =>
    rw [List.mapM_cons]
    constructor
    · intro given
      cases first : value item with
      | error fault =>
        rw [first] at given
        cases given
      | ok one =>
        cases others : items.mapM value with
        | error fault =>
          rw [first, others] at given
          cases given
        | ok more =>
          rw [first, others] at given
          cases given
          obtain ⟨worth, all, rfl, rfl⟩ := ih.mp others
          exact ⟨(item, one) :: worth, List.forall_mem_cons.mpr ⟨first, all⟩, rfl, rfl⟩
    · rintro ⟨_ | ⟨one, worth⟩, all, same, rfl⟩
      · cases same
      · cases same
        obtain ⟨first, all⟩ := List.forall_mem_cons.mp all
        rw [first, ih.mpr ⟨worth, all, rfl, rfl⟩]
        rfl

/-- What may stand between quotes. -/
def inner (character : Char) : Bool := !(Expression.CharacterClass.ofString "\"").member character

theorem inner_iff {character : Char} : inner character ↔ character ≠ '"' := by
  simp [inner, Expression.CharacterClass.ofString]

/-- A text between quotes. -/
def quotedForm : Form :=
  ((Form.word "\"").followedBy ((Form.run inner).worth fun body => .str (String.ofList body))).followedBy
    (.word "\"")

theorem quoted_recognises : quoted.Recognises scope known slack quotedForm := by
  have content : (Expression.captured (.charactersNotIn (.ofString "\""))).Recognises scope known slack
      ((Form.run inner).worth fun body => .str (String.ofList body)) :=
    (Expression.Recognises.charactersNotIn scope known slack (.ofString "\"")).captured
  have opened : ("\"" + Expression.captured (.charactersNotIn (.ofString "\""))).Recognises scope known
      slack _ := content.word_sum (by decide) fun _ _ => trivial
  refine opened.sum_word (by decide) ?_
  rintro _ _ after ⟨rfl, -⟩ - _ ⟨⟩
  exact Bool.false_ne_true

theorem quotedForm_denotes {value : Option Value} :
    quotedForm.denotes body value ↔ ∃ content, content ≠ [] ∧ '"' ∉ content ∧
      body = '"' :: (content ++ ['"']) ∧ value = some (.str (String.ofList content)) := by
  have bare {content : List Char} : (∀ character ∈ content, inner character) ↔ '"' ∉ content := by
    simp only [inner_iff]
    exact ⟨fun all member => all _ member rfl, fun absent _ member same => absent (same ▸ member)⟩
  constructor
  · rintro ⟨_, _, _, _, rfl, ⟨_, content, _, _, rfl, ⟨rfl, -⟩, ⟨⟨_, some, plain, -⟩, rfl⟩, rfl⟩, ⟨rfl, -⟩, rfl⟩
    exact ⟨content, some, bare.mp plain, rfl, rfl⟩
  · rintro ⟨content, some, plain, rfl, rfl⟩
    exact ⟨_, _, _, none, rfl, ⟨_, content, none, _, rfl, ⟨rfl, rfl⟩, ⟨⟨none, some, bare.mpr plain, rfl⟩, rfl⟩,
      rfl⟩, ⟨rfl, rfl⟩, rfl⟩

/-- A cell. -/
def cellForm : Form := .oneOf .parser [quotedForm, integerForm]

theorem cells_apart : Form.Apart .parser [quotedForm, integerForm] where
  kinds := List.forall_mem_cons.mpr ⟨rfl, List.forall_mem_singleton.mpr rfl⟩
  empty := List.forall_mem_cons.mpr ⟨rfl, List.forall_mem_singleton.mpr rfl⟩
  lawful := by
    have quoted : quoted.Recognises [] (fun _ _ => True) 0 quotedForm := quoted_recognises
    exact List.forall_mem_cons.mpr ⟨quoted.lawful, List.forall_mem_singleton.mpr integerForm_lawful⟩
  begins := by
    refine List.pairwise_cons.mpr ⟨?_, List.pairwise_singleton _ _⟩
    intro _ member rest begins integer
    obtain rfl := List.mem_singleton.mp member
    obtain ⟨first, here, is⟩ := integer
    obtain ⟨tail, rfl⟩ : ['"'] <+: rest := Form.begins_of_followedBy (Form.begins_of_followedBy begins rfl) rfl
    cases here
    obtain is | is := is
    · exact absurd is (by decide)
    · exact absurd is (by decide)

theorem cell_recognises (blames : ∀ {trial bound}, known trial bound → Blames trial) :
    cell.Recognises scope known slack cellForm :=
  quoted_recognises.union (integer_recognises blames) cells_apart

theorem cellForm_spells : Spells cellForm Cell.text Cell.value := by
  intro body value
  constructor
  · rintro ⟨form, member, denotes⟩
    obtain rfl | rfl := List.mem_pair.mp member
    · obtain ⟨content, some, plain, rfl, rfl⟩ := quotedForm_denotes.mp denotes
      exact ⟨(.quoted content some plain, _), rfl, rfl, rfl⟩
    · obtain ⟨number, integer, given, rfl⟩ := denotes
      refine ⟨(.number body integer, .int number), ?_, rfl, rfl⟩
      simp only [Cell.value, given]
      rfl
  · rintro ⟨⟨cell, worth⟩, given, rfl, rfl⟩
    cases cell with
    | quoted content some plain =>
      cases given
      exact ⟨quotedForm, by simp, quotedForm_denotes.mpr ⟨content, some, plain, rfl, rfl⟩⟩
    | number numeral integer =>
      refine ⟨integerForm, by simp, ?_⟩
      simp only [Cell.value] at given
      cases read : Value.ofNumeral 10 (String.ofList numeral) with
      | error fault =>
        rw [read] at given
        cases given
      | ok number =>
        rw [read] at given
        cases given
        exact ⟨number, integer, read, rfl⟩

/-- A comma and a cell. -/
def nextForm : Form := (Form.word ",").followedBy cellForm

/-- A line of cells with its line break. -/
def lineForm : Form := (cellForm.separated nextForm).followedBy (.word "\n")

theorem cellForm_ends {first : Char} (closes : first = ',' ∨ first = '\n') (tail : List Char) :
    cellForm.ends (first :: tail) :=
  List.forall_mem_cons.mpr ⟨trivial, List.forall_mem_singleton.mpr (ends_cons closes tail)⟩

theorem nextForm_begins (begins : nextForm.begins rest) : ∃ tail, rest = ',' :: tail := by
  obtain ⟨tail, rfl⟩ : [','] <+: rest := Form.begins_of_followedBy begins rfl
  exact ⟨tail, rfl⟩

theorem line_recognises (blames : ∀ {trial bound}, known trial bound → Blames trial) :
    (row + "\n").Recognises scope known slack lineForm := by
  have chains : cellForm.Chains nextForm := by
    refine ⟨rfl, rfl, rfl, fun begins => ?_⟩
    obtain ⟨tail, rfl⟩ := nextForm_begins begins
    exact ⟨cellForm_ends (.inl rfl) tail, cellForm_ends (.inl rfl) tail⟩
  have cells : row.Recognises scope known slack (cellForm.separated nextForm) :=
    (cell_recognises blames).separatedBy_word (by decide) (fun _ _ => trivial) chains
  refine cells.sum_word (by decide) ?_
  rintro _ _ after ⟨rfl, -⟩ -
  refine ⟨cellForm_ends (.inr rfl) after, cellForm_ends (.inr rfl) after, fun begins => ?_⟩
  obtain ⟨tail, same⟩ := nextForm_begins begins
  exact absurd (List.cons.inj same).1 (by decide)

theorem nextForm_denotes {value : Option Value} :
    nextForm.denotes body value ↔ ∃ back, body = ',' :: back ∧ cellForm.denotes back value := by
  constructor
  · rintro ⟨_, back, _, _, rfl, ⟨rfl, -⟩, denotes, rfl⟩
    exact ⟨back, rfl, denotes⟩
  · rintro ⟨back, rfl, denotes⟩
    exact ⟨[','], back, none, _, rfl, ⟨rfl, rfl⟩, denotes, rfl⟩

theorem gathered_values {ι : Type} (items : List (ι × Value)) :
    Kind.parser.gathered (items.map fun item => some item.2) = some (.list (items.map Prod.snd)) := by
  simp [Kind.gathered]

theorem lineForm_spells : Spells lineForm Row.text Row.value := by
  have separated {body : List Char} {value : Option Value} :
      (cellForm.separated nextForm).denotes body value ↔ _ :=
    cellForm_spells.separated_iff nextForm_denotes
  intro body value
  constructor
  · rintro ⟨_, _, _, _, rfl, denotes, ⟨rfl, -⟩, rfl⟩
    obtain ⟨items, some, all, rfl, rfl⟩ := separated.mp denotes
    refine ⟨(⟨items.map Prod.fst, by simpa using some⟩, .list (items.map Prod.snd)), ?_, ?_, ?_⟩
    · simp only [Row.value, mapM_iff.mpr ⟨items, all, rfl, rfl⟩]
      rfl
    · simp only [Row.text, List.map_map]
      rfl
    · exact gathered_values items
  · rintro ⟨⟨⟨cells, some⟩, worth⟩, given, rfl, rfl⟩
    cases values : cells.mapM Cell.value with
    | error fault =>
      simp only [Row.value, values] at given
      cases given
    | ok list =>
      simp only [Row.value, values] at given
      cases given
      obtain ⟨items, all, rfl, rfl⟩ := mapM_iff.mp values
      refine ⟨[','].intercalate (items.map fun item => item.1.text), ['\n'], _, none, ?_,
        separated.mpr ⟨items, by simpa using some, all, rfl, rfl⟩, ⟨rfl, rfl⟩, (gathered_values items).symm⟩
      simp only [Row.text, List.map_map]
      rfl

/-- What the lines of a table are worth. -/
theorem tableForm_denotes {value : Option Value} : lineForm.many.denotes body value ↔
    ∃ table rows, text table = body ∧ values table = .ok rows ∧ value = some (.list rows) := by
  constructor
  · rintro ⟨_, repeated, rfl⟩
    obtain ⟨items, all, rfl, rfl⟩ := lineForm_spells.repeated_iff.mp repeated
    refine ⟨items.map Prod.fst, items.map Prod.snd, ?_, mapM_iff.mpr ⟨items, all, rfl, rfl⟩,
      gathered_values items⟩
    rw [text, List.flatMap_map]
  · rintro ⟨table, rows, rfl, given, rfl⟩
    obtain ⟨items, all, rfl, rfl⟩ := mapM_iff.mp given
    refine ⟨_, lineForm_spells.repeated_iff.mpr ⟨items, all, ?_, rfl⟩, (gathered_values items).symm⟩
    rw [text, List.flatMap_map]

theorem lineForm_begins : ¬lineForm.begins [] := by
  intro begins
  obtain ⟨form, member, begins⟩ := Form.begins_of_followedBy begins rfl
  obtain rfl | rfl := List.mem_pair.mp member
  · have quote : ['"'] <+: [] := Form.begins_of_followedBy (Form.begins_of_followedBy begins rfl) rfl
    cases List.prefix_nil.mp quote
  · obtain ⟨_, ⟨⟩, _⟩ := begins

theorem csv_recognises (blames : ∀ {trial bound}, known trial bound → Blames trial) :
    csv.Recognises scope known slack lineForm.many :=
  (line_recognises blames).many rfl fun _ => trivial

end Forms

/-- The grammar of tables accepts the texts of tables, which are told apart by their texts, and answers
with the lists of their values, line by line. Any other text is worth null, unless an integer in it has
too many digits to be read. -/
theorem parsing_csv (history : List Command) (text : Text) :
    (∃ enough, ∀ fuel, enough ≤ fuel → ∃ outcome : Except Fault Value,
      ((Session.parsingOrNull fuel csv text).exec (Store.afterAll history)).1 = outcome.mapError .fault ∧
      (∀ rows, outcome = .ok (.list rows) ↔
        ∃ table, Csv.text table = text.toList ∧ values table = .ok rows) ∧
      (∀ value, outcome = .ok value → value = .null ∨ ∃ rows, value = .list rows) ∧
      ∀ fault, outcome = .error fault → Unreadable text fault) ∧
    ∀ one two, Csv.text one = Csv.text two → one = two := by
  have recognises : csv.Recognises [] (fun trial _ => Blames trial) 0 lineForm.many := csv_recognises id
  have blames : Blames ⟨⟨text, .any⟩, Unreadable text⟩ := fun inside integer failed =>
    ⟨_, inside, integer, failed⟩
  obtain ⟨reading, explains, enough, parses⟩ :=
    (recognises.parses rfl text blames (Store.afterAll history)).parsingOrNull
  have ends : lineForm.many.ends [] := ⟨trivial, lineForm_begins⟩
  refine ⟨⟨enough, fun fuel least => ⟨_, parses fuel least, fun rows => ?_, fun value parsed => ?_, ?_⟩⟩,
    fun _ _ same => text_injective same⟩
  · rw [explains.whole ends Value.noConfusion, tableForm_denotes]
    constructor
    · rintro ⟨table, _, written, given, ⟨⟩⟩
      exact ⟨table, written, given⟩
    · rintro ⟨table, written, given⟩
      exact ⟨table, rows, written, given, rfl⟩
  · by_cases null : value = .null
    · exact .inl null
    · obtain ⟨_, rows, -, -, ⟨⟩⟩ := tableForm_denotes.mp ((explains.whole ends null).mp parsed)
      exact .inr ⟨rows, rfl⟩
  · exact fun fault => explains.whole_fault

end TextGrammar.Csv
