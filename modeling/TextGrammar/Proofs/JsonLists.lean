import TextGrammar.Proofs.JsonNumbers

/-! Lists of items between brackets, with blanks around the items. Where the last item is followed by
a comma, nothing closes the list. -/

namespace TextGrammar.Json
open Sample

variable {scope : Scope} {known : Trial → Nat → Prop} {slack : Nat} {body rest after : List Char}
  {value : Option Value}

/-- Blanks, as many as there are. -/
def blankForm : Form where
  kind := .pattern
  denotes body value := Blank body ∧ value = none
  empty := some none
  begins rest := ∃ first ∈ rest.head?, Character.isBlank first
  ends after := ∀ first ∈ after.head?, ¬Character.isBlank first

theorem blankForm_refines : blankForm.Refines (Form.run Character.isBlank).optional where
  denotes {body value} := by
    constructor
    · rintro ⟨blank, rfl⟩
      by_cases none : body = []
      · exact .inl ⟨none, rfl⟩
      · exact .inr ⟨none, blank, rfl⟩
    · rintro (⟨rfl, rfl⟩ | ⟨-, blank, rfl⟩)
      · exact ⟨List.forall_mem_nil _, rfl⟩
      · exact ⟨blank, rfl⟩
  empty := rfl
  begins := id
  ends ends := by
    refine ⟨ends, ?_⟩
    intro begins
    obtain ⟨first, here, blank⟩ := begins
    exact ends first here blank

theorem space_recognises : space.Recognises scope known slack blankForm := by
  have blank : (Expression.constant .whitespace).Recognises scope known slack
      (.run Character.isBlank) := .constant scope known slack rfl
  exact (blank.optional rfl).refine blankForm_refines rfl

/-- The blanks behind a value, in front of what ends it. -/
def gapForm : Form := { blankForm with ends := fun after => Ended after ∧ blankForm.ends after }

theorem gapForm_refines : gapForm.Refines blankForm where
  denotes := Iff.rfl
  empty := rfl
  begins := id
  ends := And.right

def commaForm : Form := (Form.word ",").followedBy blankForm

theorem comma_recognises : comma.Recognises scope known slack commaForm := by
  have word : (Expression.literal ",").Recognises scope known slack (.word ",") :=
    .literal scope known slack (by simp)
  exact word.sum space_recognises fun _ _ => trivial

/-- What ends an item of a list. -/
def Closes (first : Char) : Prop := first = ',' ∨ first = ']' ∨ first = '\x7d'

/-- A form of items of lists. -/
structure Listed (form : Form) : Prop where
  kind : form.kind = .parser
  empty : form.empty = none
  lawful : form.Lawful
  begins : ∀ {rest}, form.begins rest → ∃ first ∈ rest.head?, ¬Character.isBlank first ∧ ¬Closes first
  stops : ∀ {after}, form.ends after → blankForm.ends after
  ends : ∀ {first tail}, Closes first → form.ends (first :: tail)

/-- Items between brackets. -/
def bracketed (opening closing : String) (form : Form) : Form :=
  (((Form.word opening).followedBy blankForm).followedBy
    (form.separated (commaForm.followedBy form)).optional).followedBy (.word closing)

section Bracketed
variable {form : Form} (listed : Listed form)
include listed

theorem Listed.not_blank (denotes : form.denotes body value) (after : List Char) :
    blankForm.ends (body ++ after) := by
  intro first here
  obtain ⟨other, there, visible, -⟩ := listed.begins ((listed.lawful.taken listed.empty denotes).2 after)
  cases Option.mem_unique here there
  exact visible

omit listed in
theorem next_begins (begins : (commaForm.followedBy form).begins rest) : ',' ∈ rest.head? :=
  head?_of_begins (Form.begins_of_followedBy (Form.begins_of_followedBy begins rfl) rfl)

theorem Listed.ends_of_head? {first : Char} (here : first ∈ rest.head?) (closes : Closes first) :
    form.ends rest := by
  cases rest with
  | nil => cases here
  | cons other tail =>
    cases here
    exact listed.ends closes

theorem Listed.chains : form.Chains (commaForm.followedBy form) where
  kind := rfl
  empty := listed.empty
  none := rfl
  begins begins := by
    have ends := listed.ends_of_head? (next_begins begins) (.inl rfl)
    exact ⟨ends, ends⟩

/-- Behind the opening bracket stand items, or what ends them. -/
theorem Listed.opening_meets (opening : String) :
    ((Form.word opening).followedBy blankForm).Meets (form.separated (commaForm.followedBy form)).optional := by
  intro back value after denotes ends
  obtain ⟨rfl, -⟩ | ⟨front, more, _, _, rfl, denotes, -, -⟩ := denotes
  · exact listed.stops ends.1.1
  · rw [List.append_assoc]
    exact listed.not_blank denotes _

variable {closing : String}
  (closes : ∃ first, closing.toList = [first] ∧ Closes first ∧ first ≠ ',')
include closes

theorem Listed.closing_meets (before : Form) :
    (before.followedBy (form.separated (commaForm.followedBy form)).optional).Meets (.word closing) := by
  intro back value after denotes _
  obtain ⟨rfl, -⟩ := denotes
  obtain ⟨first, same, closes, other⟩ := closes
  rw [same]
  have ends : form.ends (first :: after) := listed.ends closes
  refine ⟨⟨ends, ends, ?_⟩, ?_⟩
  · intro begins
    cases next_begins begins
    exact other rfl
  · intro begins
    obtain ⟨_, ⟨⟩, -, item⟩ := listed.begins begins
    exact item closes

theorem bracketed_recognises {item : Expression} {opening : String}
    (recognises : item.Recognises scope known 0 form) (opens : opening.toList ≠ []) :
    ((opening : Expression) + space + Expression.optional (.separatedBy item comma) +
      (closing : Expression)).Recognises scope known 1 (bracketed opening closing form) := by
  have items := (recognises.separatedBy comma_recognises rfl
    (fun denotes _ => listed.not_blank denotes _) listed.chains).optional rfl
  have first : ((opening : Expression) + space).Recognises scope known 1
      ((Form.word opening).followedBy blankForm) :=
    space_recognises.word_sum opens fun _ _ => trivial
  have second := first.guarded_sum items rfl (listed.opening_meets opening)
  apply second.sum_word _ (listed.closing_meets closes _)
  obtain ⟨first, same, -⟩ := closes
  simp [same]

end Bracketed

section Items
variable {ι : Type} {form : Form} {whole : ι → List Char} {valueOf : ι → Value} {good : ι → Prop}

/-- A form of items, told by the items with the blanks in front of them. -/
def Itemises (form : Form) (whole : ι → List Char) (valueOf : ι → Value) (good : ι → Prop) : Prop :=
  ∀ {text value}, (∃ before core, text = before ++ core ∧ Blank before ∧ form.denotes core value) ↔
    ∃ item, good item ∧ text = whole item ∧ value = some (valueOf item)

theorem intercalate_cons (first : List Char) (others : List (List Char)) :
    [','].intercalate (first :: others) = first ++ others.flatMap fun other => ',' :: other := by
  induction others generalizing first with
  | nil => simp
  | cons second others ih => simp [ih]

theorem next_denotes : (commaForm.followedBy form).denotes body value ↔
    ∃ text, body = ',' :: text ∧
      ∃ before core, text = before ++ core ∧ Blank before ∧ form.denotes core value := by
  constructor
  · rintro ⟨_, core, _, _, rfl, ⟨_, before, _, _, rfl, ⟨rfl, -⟩, ⟨blank, -⟩, -⟩, denotes, rfl⟩
    exact ⟨before ++ core, by simp, before, core, rfl, blank, denotes⟩
  · rintro ⟨_, rfl, before, core, rfl, blank, denotes⟩
    exact ⟨',' :: before, core, none, value, rfl,
      ⟨[','], before, none, none, rfl, ⟨rfl, rfl⟩, ⟨blank, rfl⟩, rfl⟩, denotes, rfl⟩

variable (itemises : Itemises form whole valueOf good)
include itemises

theorem repeated_iff {values : List (Option Value)} :
    (commaForm.followedBy form).Repeated body values ↔ ∃ items : List ι, (∀ item ∈ items, good item) ∧
      body = (items.map whole).flatMap (fun text => ',' :: text) ∧
        values = items.map fun item => some (valueOf item) := by
  constructor
  · intro repeated
    induction repeated with
    | nil => exact ⟨[], by simp⟩
    | cons denotes _ ih =>
      obtain ⟨text, rfl, parts⟩ := next_denotes.mp denotes
      obtain ⟨item, is, rfl, rfl⟩ := itemises.mp parts
      obtain ⟨items, all, rfl, rfl⟩ := ih
      exact ⟨item :: items, List.forall_mem_cons.mpr ⟨is, all⟩, by simp, rfl⟩
  · rintro ⟨items, all, rfl, rfl⟩
    induction items with
    | nil => exact .nil
    | cons item items ih =>
      obtain ⟨is, all⟩ := List.forall_mem_cons.mp all
      have denotes := next_denotes.mpr ⟨whole item, rfl, itemises.mpr ⟨item, is, rfl, rfl⟩⟩
      exact .cons denotes (ih all)

theorem bracketed_denotes {opening closing : String} (kind : form.kind = .parser) :
    (bracketed opening closing form).denotes body value ↔
      (∃ blanks, Blank blanks ∧ body = opening.toList ++ blanks ++ closing.toList ∧
        value = some .null) ∨
      ∃ items : List ι, items ≠ [] ∧ (∀ item ∈ items, good item) ∧
        body = opening.toList ++ [','].intercalate (items.map whole) ++ closing.toList ∧
          value = some (.list (items.map valueOf)) := by
  have outer : ∀ value other, Kind.paired form.kind .pattern value other = value := by
    rw [kind]
    exact fun _ _ => rfl
  have nothing : form.kind.nothing = some .null := by
    rw [kind]
    rfl
  have list : ∀ values, form.kind.gathered values = some (.list (values.filterMap id)) := by
    rw [kind]
    exact fun _ => rfl
  constructor
  · rintro ⟨_, _, _, _, rfl, ⟨_, _, _, _, rfl, ⟨_, blanks, _, _, rfl, ⟨rfl, -⟩, ⟨blank, -⟩, -⟩, inner, rfl⟩,
      ⟨rfl, -⟩, rfl⟩
    obtain ⟨rfl, rfl⟩ | ⟨front, back, one, values, rfl, denotes, repeated, rfl⟩ := inner
    · refine .inl ⟨blanks, blank, by simp, (outer _ _).trans nothing⟩
    · obtain ⟨first, is, text, rfl⟩ := itemises.mp ⟨blanks, front, rfl, blank, denotes⟩
      obtain ⟨items, all, rfl, rfl⟩ := (repeated_iff itemises).mp repeated
      refine .inr ⟨first :: items, by simp, List.forall_mem_cons.mpr ⟨is, all⟩, ?_, (outer _ _).trans ?_⟩
      · rw [List.map_cons, intercalate_cons, ← text]
        simp
      · refine (list _).trans ?_
        simp
  · rintro (⟨blanks, blank, rfl, rfl⟩ | ⟨items, there, all, rfl, rfl⟩)
    · refine ⟨opening.toList ++ blanks, closing.toList, some .null, none, rfl, ?_, ⟨rfl, rfl⟩,
        (outer _ _).symm⟩
      exact ⟨_, [], none, some .null, (List.append_nil _).symm,
        ⟨opening.toList, blanks, none, none, rfl, ⟨rfl, rfl⟩, ⟨blank, rfl⟩, rfl⟩, .inl ⟨rfl, nothing.symm⟩,
        rfl⟩
    · cases items with
      | nil => exact absurd rfl there
      | cons first items =>
        obtain ⟨is, all⟩ := List.forall_mem_cons.mp all
        obtain ⟨before, core, text, blank, denotes⟩ := itemises.mpr ⟨first, is, rfl, rfl⟩
        have repeated := (repeated_iff itemises).mpr ⟨items, all, rfl, rfl⟩
        have given : some (.list ((first :: items).map valueOf)) =
            form.kind.gathered (some (valueOf first) :: items.map fun item => some (valueOf item)) := by
          rw [list]
          simp
        refine ⟨opening.toList ++ before ++ (core ++ (items.map whole).flatMap fun text => ',' :: text),
          closing.toList, _, none, ?_, ?_, ⟨rfl, rfl⟩, (outer _ _).symm⟩
        · rw [List.map_cons, intercalate_cons, text]
          simp
        · exact ⟨_, _, none, _, rfl,
            ⟨opening.toList, before, none, none, rfl, ⟨rfl, rfl⟩, ⟨blank, rfl⟩, rfl⟩,
            .inr ⟨core, _, _, _, rfl, denotes, repeated, given⟩, rfl⟩

end Items

end TextGrammar.Json
