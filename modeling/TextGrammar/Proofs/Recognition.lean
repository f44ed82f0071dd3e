import TextGrammar.Proofs.Answers
import TextGrammar.Proofs.LeafForms
import TextGrammar.Proofs.RepeatedForms
import TextGrammar.Proofs.ValueForms

/-! Expressions that recognise forms. What is known of other rules, such as a placeholder, is known
where less than a number of characters is left. The grammar decides its form as far as that, or a
character further, where something stands in front of all that the other rules read. -/

namespace TextGrammar

/-- A rule that decides a form, as far as other rules are known and somewhat further. -/
def Rule.Recognises (known : Trial → Nat → Prop) (slack : Nat) (form : Form) (rule : Rule) : Prop :=
  ∀ trial bound, known trial bound → trial.Below form rule (bound + slack)

/-- An expression for such a rule. -/
structure Expression.Recognises (scope : Scope) (known : Trial → Nat → Prop) (slack : Nat) (form : Form)
    (expression : Expression) : Prop where
  lawful : form.Lawful
  makes : expression.Makes scope form.kind (Rule.Recognises known slack form)

namespace Expression.Recognises
variable {scope : Scope} {known : Trial → Nat → Prop} {slack : Nat} {form other first second : Form}
  {expression one two : Expression}

/-- What is recognised in one guise is recognised in another. -/
theorem refine (recognises : expression.Recognises scope known slack form) (refines : other.Refines form)
    (kind : other.kind = form.kind) :
    expression.Recognises scope known slack other where
  lawful := refines.lawful recognises.lawful kind
  makes := by
    rw [kind]
    apply recognises.makes.imp
    intro rule decides trial bound knowing rest short inside
    obtain ⟨reading, reads, explains⟩ := decides trial bound knowing rest short inside
    exact ⟨reading, reads, explains.refine refines⟩

section Leaves
variable (scope known slack)

theorem literal {word : String} (some : word.toList ≠ []) :
    (Expression.literal word).Recognises scope known slack (.word word) where
  lawful := Form.word_lawful some
  makes := by
    apply Makes.leaf
    intro tag traced trial bound _ rest _
    exact (trial.decides_word word).object tag traced

theorem characterIn (members : CharacterClass) :
    (Expression.characterIn members).Recognises scope known slack (.character members.member) where
  lawful := Form.character_lawful _
  makes := by
    apply Makes.leaf
    intro tag traced trial bound _ rest _
    exact (trial.decides_character members.member).object tag traced

theorem charactersNotIn (members : CharacterClass) :
    (Expression.charactersNotIn members).Recognises scope known slack
      (.run fun character => !members.member character) where
  lawful := Form.run_lawful _
  makes := by
    apply Makes.leaf
    intro tag traced trial bound _ rest _
    exact (trial.decides_run _).object tag traced

theorem constant {shared : Constant} {member : Char → Bool}
    (runs : shared.recognise = Leaf.charactersIn member) :
    (Expression.constant shared).Recognises scope known slack (.run member) where
  lawful := Form.run_lawful _
  makes := by
    apply Makes.constant
    intro trial bound _ rest _
    have decides : trial.Decides (.run member) _ rest := (trial.decides_run member).object shared.tag false
    rw [← runs] at decides
    exact decides

end Leaves

theorem placeholder {name : String} {placeholder : Placeholder}
    (found : scope.lookup name = some placeholder) (kind : placeholder.kind = form.kind)
    (standsIn : placeholder.captured = false) (lawful : form.Lawful)
    (knows : ∀ {trial bound}, known trial bound → trial.Below form (.placeholder placeholder.cell) bound) :
    (Expression.variable name).Recognises scope known 0 form where
  lawful := lawful
  makes := by
    rw [← kind]
    apply Makes.placeholder found standsIn
    intro trial bound knowing rest short
    exact (knows knowing rest short).object placeholder.tag placeholder.traced

section Sums

theorem sum (before : one.Recognises scope known slack first)
    (after : two.Recognises scope known slack second) (meets : first.Meets second) :
    (one + two).Recognises scope known slack (first.followedBy second) where
  lawful := before.lawful.followedBy after.lawful
  makes := by
    apply before.makes.sum after.makes
    intro rule later begins continues tag traced trial bound knowing rest short
    have both := (begins trial bound knowing).sequence (continues trial bound knowing) before.lawful
      after.lawful meets
    exact (both rest short).object tag traced

/-- Behind something, less needs to be known. -/
theorem guarded_sum (before : one.Recognises scope known 1 first)
    (after : two.Recognises scope known 0 second) (taken : first.empty = none)
    (meets : first.Meets second) :
    (one + two).Recognises scope known 1 (first.followedBy second) where
  lawful := before.lawful.followedBy after.lawful
  makes := by
    apply before.makes.sum after.makes
    intro rule later begins continues tag traced trial bound knowing rest short
    have both := (begins trial bound knowing).guarded taken (continues trial bound knowing) before.lawful
      after.lawful meets
    exact (both rest short).object tag traced

theorem sum_word {word : String} (some : word.toList ≠ [])
    (before : one.Recognises scope known slack first) (meets : first.Meets (.word word)) :
    (one + (word : Expression)).Recognises scope known slack (first.followedBy (.word word)) where
  lawful := before.lawful.followedBy (Form.word_lawful some)
  makes := by
    apply before.makes.sum_word
    intro rule begins inner around tag traced trial bound knowing rest short
    have ends : trial.Below (.word word) (.object inner around (.leaf (Leaf.literal word)))
        (bound + slack) := fun rest _ => (trial.decides_word word).object inner around
    have both := (begins trial bound knowing).sequence ends before.lawful (Form.word_lawful some) meets
    exact (both rest short).object tag traced

theorem word_sum {word : String} (some : word.toList ≠ [])
    (after : two.Recognises scope known slack second) (meets : (Form.word word).Meets second) :
    ((word : Expression) + two).Recognises scope known slack ((Form.word word).followedBy second) where
  lawful := (Form.word_lawful some).followedBy after.lawful
  makes := by
    apply after.makes.word_sum
    intro rule continues inner around tag traced trial bound knowing rest short
    have begins : trial.Below (.word word) (.object inner around (.leaf (Leaf.literal word)))
        (bound + slack) := fun rest _ => (trial.decides_word word).object inner around
    have both := begins.sequence (continues trial bound knowing) (Form.word_lawful some) after.lawful meets
    exact (both rest short).object tag traced

end Sums

theorem optional (recognises : expression.Recognises scope known slack form) (empty : form.empty = none) :
    (Expression.optional expression).Recognises scope known slack form.optional where
  lawful := recognises.lawful.optional empty
  makes := by
    apply recognises.makes.optional
    intro rule decides tag traced trial bound knowing rest short
    exact ((decides trial bound knowing rest short).optional empty).object tag traced

theorem captured (recognises : expression.Recognises scope known slack form) :
    (Expression.captured expression).Recognises scope known slack
      (form.worth fun body => .str (String.ofList body)) where
  lawful := recognises.lawful.worth _
  makes := by
    apply recognises.makes.captured
    intro rule decides tag traced trial bound knowing rest short
    exact ((decides trial bound knowing rest short).captured recognises.lawful).object tag traced

theorem returning (recognises : expression.Recognises scope known slack form)
    (kind : form.kind = .pattern) (value : Value) :
    (Expression.returning expression value).Recognises scope known slack (form.worth fun _ => value) where
  lawful := recognises.lawful.worth _
  makes := by
    have makes := recognises.makes
    rw [kind] at makes
    apply makes.returning
    intro rule decides tag traced trial bound knowing rest short
    exact ((decides trial bound knowing rest short).valued value).object tag traced

theorem shifted {transform : Value → Except Fault Value} {functionType : String}
    (recognises : expression.Recognises scope known slack form) (kind : form.kind = .parser)
    (empty : form.empty = none)
    (blames : ∀ {trial bound}, known trial bound → ∀ {body given fault}, body <:+: trial.text.toList →
      form.denotes body (some given) → transform given = .error fault → trial.blamed fault) :
    (Expression.shifted expression transform functionType).Recognises scope known slack
      (form.mapped transform) where
  lawful := recognises.lawful.mapped empty transform
  makes := by
    have makes := recognises.makes
    rw [kind] at makes
    apply makes.shifted
    intro rule decides tag traced trial bound knowing rest short
    exact ((decides trial bound knowing rest short).map recognises.lawful kind empty
      (blames knowing)).object tag traced

theorem separatedBy (item : one.Recognises scope known slack form)
    (between : two.Recognises scope known slack other) (kind : other.kind = .pattern)
    (meets : other.Meets form) (chains : form.Chains (other.followedBy form)) :
    (Expression.separatedBy one two).Recognises scope known slack
      (form.separated (other.followedBy form)) where
  lawful := item.lawful.separated chains.empty
  makes := by
    have separator := between.makes
    rw [kind] at separator
    apply item.makes.separatedBy separator
    intro rule separator decides separates inner around tag traced trial bound knowing rest short
    have items := decides trial bound knowing
    have next := (separates trial bound knowing).sequence items between.lawful item.lawful meets
    rw [kind] at next
    have all := items.separated (fun rest short => (next rest short).object inner around) item.lawful
      (between.lawful.followedBy item.lawful) chains
    exact (all rest short).object tag traced

theorem many (recognises : expression.Recognises scope known slack form) (empty : form.empty = none)
    (meets : ∀ {rest}, form.begins rest → form.ends rest) :
    (Expression.many expression).Recognises scope known slack form.many where
  lawful := recognises.lawful.many empty
  makes := by
    apply recognises.makes.many
    intro rule decides item tag traced trial bound knowing rest short
    have all := (decides trial bound knowing).many recognises.lawful empty meets item
    exact (all rest short).object tag traced

theorem separatedBy_word {word : String} (item : one.Recognises scope known slack form)
    (some : word.toList ≠ []) (meets : (Form.word word).Meets form)
    (chains : form.Chains ((Form.word word).followedBy form)) :
    (Expression.separatedBy one word).Recognises scope known slack
      (form.separated ((Form.word word).followedBy form)) where
  lawful := item.lawful.separated chains.empty
  makes := by
    apply item.makes.separatedBy_word
    intro rule decides first second inner around tag traced trial bound knowing rest short
    have items := decides trial bound knowing
    have separates : trial.Below (.word word) (.object first second (.leaf (Leaf.literal word)))
        (bound + slack) := fun rest _ => (trial.decides_word word).object first second
    have lawful := Form.word_lawful some
    have next := separates.sequence items lawful item.lawful meets
    have all := items.separated (fun rest short => (next rest short).object inner around) item.lawful
      (lawful.followedBy item.lawful) chains
    exact (all rest short).object tag traced

/-- A choice between two forms that begin in different ways. -/
theorem union {kind : Kind} (before : one.Recognises scope known slack first)
    (after : two.Recognises scope known slack second) (apart : Form.Apart kind [first, second]) :
    (one ||| two).Recognises scope known slack (.oneOf kind [first, second]) where
  lawful := .oneOf apart
  makes := by
    have makes := before.makes
    have others := after.makes
    rw [apart.kinds first (by simp)] at makes
    rw [apart.kinds second (by simp)] at others
    apply makes.union others
    intro rule later decides continues tag traced trial bound knowing rest short
    have either := Trial.Decides.union (decides trial bound knowing rest short)
      (continues trial bound knowing rest short) apart
    exact either.object tag traced

section Either
variable {kind : Kind} {expressions : List Expression} {forms : List Form}
  (all : List.Forall₂ (fun expression form => expression.Recognises scope known slack form) expressions
    forms)
include all

theorem all_lawful : ∀ form ∈ forms, form.Lawful := by
  induction all with
  | nil => exact List.forall_mem_nil _
  | cons recognises _ ih => exact List.forall_mem_cons.mpr ⟨recognises.lawful, ih⟩

/-- An ordered choice between forms that begin in different ways. -/
theorem either (apart : Form.Apart kind forms) :
    (Expression.either kind expressions).Recognises scope known slack (.oneOf kind forms) where
  lawful := .oneOf apart
  makes := by
    have makes : List.Forall₂ (fun expression property => expression.Makes scope kind property)
        expressions (forms.map (Rule.Recognises known slack)) := by
      rw [List.forall₂_map_right_iff]
      have kinds := apart.kinds
      clear apart
      induction all with
      | nil => exact .nil
      | cons recognises _ ih =>
        obtain ⟨same, kinds⟩ := List.forall_mem_cons.mp kinds
        have makes := recognises.makes
        rw [same] at makes
        exact .cons makes (ih kinds)
    apply Makes.either makes
    intro rules each tag traced trial bound knowing rest short
    have decides : List.Forall₂ (fun rule form => trial.Decides form rule rest) rules forms := by
      rw [List.forall₂_map_right_iff] at each
      exact each.imp fun _ _ decides => decides trial bound knowing rest short
    exact (Trial.Decides.either decides apart).object tag traced

end Either

end Expression.Recognises

end TextGrammar
