import TextGrammar.Fault.Class
import TextGrammar.Proofs.JsonValues
import TextGrammar.Proofs.Recursions
import TextGrammar.Proofs.WholeTexts

/-! Parsing of whole JSON documents. What the definition of values recognises of longer and longer
texts is known of its placeholder as well, so that the grammar decides the texts of documents, of
any nesting depth. -/

namespace TextGrammar.Json
open TextGrammar.Action Sample

/-- A value with blanks around it. -/
def documentForm : Form := (blankForm.followedBy valueForm).followedBy gapForm

theorem documentForm_denotes {body : List Char} {value : Option Value} :
    documentForm.denotes body value ↔ ∃ given, value = some given ∧ Document body given := by
  constructor
  · rintro ⟨_, after, _, _, rfl, ⟨before, text, _, _, rfl, ⟨leading, -⟩, ⟨given, rfl, renders⟩, rfl⟩,
      ⟨trailing, -⟩, rfl⟩
    exact ⟨given, rfl, .of leading renders trailing⟩
  · rintro ⟨given, rfl, ⟨leading, renders, trailing⟩⟩
    exact ⟨_, _, some given, none, rfl, ⟨_, _, none, _, rfl, ⟨leading, rfl⟩, ⟨given, rfl, renders⟩, rfl⟩,
      ⟨trailing, rfl⟩, rfl⟩

theorem documentForm_ends : documentForm.ends [] := ⟨nofun, nofun⟩

/-- A value begins with something else than a blank. -/
theorem blankForm_meets : blankForm.Meets valueForm := by
  intro text value after denotes _ first here blank
  obtain ⟨other, here', opens⟩ := (valueForm_lawful.taken rfl denotes).2 after
  cases Option.mem_unique here here'
  exact opens.listed.1 blank

section Recursion
variable {cell : CellId} {rule : Rule}

/-- What is known of the placeholder of values. -/
def Knows (cell : CellId) (trial : Trial) (bound : Nat) : Prop :=
  Blames trial ∧ trial.Below valueForm (.placeholder cell) bound

/-- The definition makes a rule that decides values, given that its placeholder does so further on. -/
theorem definition_comes {placeholder : Placeholder} (kind : placeholder.kind = .parser)
    (standsIn : placeholder.captured = false) (verbose : Bool) (names : Array String) :
    ∃ rule, valueDefinition.Comes [("value", placeholder)] verbose names .parser rule ∧
      rule.Recognises (Knows placeholder.cell) 1 valueForm := by
  have recursion : (Expression.variable "value").Recognises [("value", placeholder)]
      (Knows placeholder.cell) 0 valueForm :=
    .placeholder rfl kind standsIn valueForm_lawful And.right
  exact (definition_recognises recursion And.left).makes.comes verbose names

variable {text : Text} {blamed : Fault → Prop}

/-- During an invocation the definition decides values of any length. -/
theorem definition_below (recognises : rule.Recognises (Knows cell) 1 valueForm)
    (blames : ∀ moment, Blames ⟨⟨text, moment⟩, blamed⟩) (bound : Nat) :
    (⟨⟨text, .within cell rule⟩, blamed⟩ : Trial).Below valueForm rule bound := by
  induction bound with
  | zero => exact fun _ short => absurd short (Nat.not_lt_zero _)
  | succ bound ih =>
    refine recognises _ bound ⟨blames _, fun rest short inside => ?_⟩
    obtain ⟨reading, reads, explains⟩ := ih rest short inside
    exact ⟨reading, reads.placeholder, explains⟩

end Recursion

/-- What is read between blanks. -/
theorem decides_document {trial : Trial} {leading core trailing : Rule} {bound : Nat}
    (blank : leading.Recognises (fun _ _ => True) 0 blankForm)
    (value : trial.Below valueForm core bound)
    (gap : trailing.Recognises (fun _ _ => True) 0 gapForm) (inner around : Tag) (one two : Bool) :
    trial.Below documentForm (.object around two (.sequence .parser .pattern
      (.object inner one (.sequence .pattern .parser leading core)) trailing)) bound := by
  have gap_lawful := gapForm_refines.lawful blankForm_lawful rfl
  have front := (blank trial bound trivial).sequence value blankForm_lawful valueForm_lawful
    blankForm_meets
  have wrapped : trial.Below (blankForm.followedBy valueForm)
      (.object inner one (.sequence .pattern .parser leading core)) bound :=
    fun rest short => (front rest short).object inner one
  have meets : (blankForm.followedBy valueForm).Meets gapForm :=
    fun denotes ends => valueForm_meets denotes ends
  have whole := wrapped.sequence (gap trial bound trivial)
    (blankForm_lawful.followedBy valueForm_lawful) gap_lawful meets
  exact fun rest short => (whole rest short).object around two

/-- A grammar that decides documents, as it is found in the store where it was made. -/
structure Reader (text : Text) (blamed : Fault → Prop) (made : Grammar) (store : Store) : Prop where
  kind : made.kind = .parser
  decides : ∃ moment : Moment, (∀ running, moment.holds { store with running }) ∧
    ∀ bound, (⟨⟨text, moment⟩, blamed⟩ : Trial).Below documentForm made.rule bound

theorem space_makes {form : Form} (refines : form.Refines blankForm) (kind : form.kind = .pattern) :
    space.Makes [] .pattern (Rule.Recognises (fun _ _ => True) 0 form) := by
  have recognises : space.Recognises [] (fun _ _ => True) 0 form := space_recognises.refine refines kind
  have makes := recognises.makes
  rw [kind] at makes
  exact makes

/-- The document grammar decides documents where it is made. -/
theorem json_makes {text : Text} {blamed : Fault → Prop}
    (blames : ∀ moment, Blames ⟨⟨text, moment⟩, blamed⟩) (store : Store) :
    ∃ made next, (json.evaluate []).exec store = (.ok (.grammar made), next) ∧
      Reader text blamed made next := by
  obtain ⟨_, named, ⟨front, rfl, leading⟩, first⟩ :=
    space_makes ⟨Iff.rfl, rfl, id, id⟩ rfl store.verbose store.names
  obtain ⟨placeholder, core, made, second, kind, cell, standsIn, is, fresh⟩ :=
    Expression.exec_fix .parser "value" valueDefinition [] { store with names := named }
  have joins : (Operand.grammar <$> front.followedByGrammar core).Answers (Operand.Is .parser
      (∃ tag traced, · = .object tag traced (.sequence .pattern .parser front.rule core.rule))) :=
    Expression.Makes.made (Grammar.followedByGrammar_answers ⟨leading.kind, rfl⟩ ⟨is.kind, rfl⟩
      fun one two tag traced => ⟨tag, traced, by rw [one, two]⟩)
  obtain ⟨_, joined, ⟨inner, rfl, innerIs⟩, third⟩ := joins made.verbose made.names
  obtain ⟨_, spaced, ⟨back, rfl, trailing⟩, fourth⟩ :=
    space_makes gapForm_refines rfl made.verbose joined
  have closes : (Operand.grammar <$> inner.followedByGrammar back).Answers (Operand.Is .parser
      (∃ tag traced, · = .object tag traced (.sequence .parser .pattern inner.rule back.rule))) :=
    Expression.Makes.made (Grammar.followedByGrammar_answers ⟨innerIs.kind, rfl⟩ ⟨trailing.kind, rfl⟩
      fun one two tag traced => ⟨tag, traced, by rw [one, two]⟩)
  obtain ⟨_, closed, ⟨whole, rfl, wholeIs⟩, fifth⟩ := closes made.verbose spaced
  have evaluated : (json.evaluate []).exec store =
      (.ok (.grammar whole), { made with names := closed }) := by
    have begun : ((space + jsonValue).evaluate []).exec store =
        (.ok (.grammar inner), { made with names := joined }) :=
      (exec_bind_ok (first store rfl rfl)).trans ((exec_bind_ok second).trans (third made rfl rfl))
    have ended := fourth { made with names := joined } rfl rfl
    exact (exec_bind_ok begun).trans <|
      (exec_bind_ok ended).trans (fifth { made with names := spaced } rfl rfl)
  refine ⟨whole, _, evaluated, wholeIs.kind, ?_⟩
  obtain ⟨rule, comes, recognises⟩ := definition_comes kind standsIn made.verbose closed
  rw [cell] at recognises
  refine ⟨.prepared store.cells.size .parser [("value", placeholder)] valueDefinition made.verbose
    closed rule, fun running => ?_, fun bound => ?_⟩
  · exact .inr ⟨⟨fresh.inside, fresh.kind, fresh.undefined, fresh.idle, fresh.builder,
      fresh.unlimited⟩, rfl, rfl⟩
  · obtain ⟨around, two, wholeRule⟩ := wholeIs.rule
    obtain ⟨tag, one, innerRule⟩ := innerIs.rule
    obtain ⟨own, traced, coreRule⟩ := is.rule
    rw [wholeRule, innerRule]
    refine decides_document leading.rule (fun rest short inside => ?_) trailing.rule tag around one two
    rw [coreRule]
    obtain ⟨reading, reads, explains⟩ := definition_below recognises blames bound rest short inside
    exact ⟨reading, (Setting.Reads.recursive comes reads).object own traced, explains⟩

end TextGrammar.Json

namespace TextGrammar
open TextGrammar.Action

namespace Json
open Sample
variable {text : Text} {made : Grammar} {store : Store}

/-- What parsing comes to where a grammar decides documents. -/
theorem Reader.parses {blamed : Fault → Prop} (reader : Reader text blamed made store) :
    ∃ enough, ∀ fuel, enough ≤ fuel → ∃ outcome : Except Fault Value,
      ((Runner.parseOrFail (Rule.run fuel) (.grammar made) text).exec store).1 =
        outcome.mapError Halt.fault ∧
      (∀ value, outcome = .ok value ↔ Document text.toList value) ∧
      ∀ fault, outcome = .error fault → blamed fault ∨ fault.class = .noParse := by
  obtain ⟨moment, holds, decides⟩ := reader.decides
  obtain ⟨reading, ⟨enough, settles⟩, explains⟩ := decides (text.size + 1) text.toList
    (by simp) (List.suffix_refl _)
  have start : text.offsetOf text.toList = 0 := by simp [Text.offsetOf]
  have complete : ∀ {value}, Document text.toList value →
      reading = .ok (some (some value, [])) := fun document =>
    explains.complete (List.append_nil _).symm documentForm_ends
      (documentForm_denotes.mpr ⟨_, rfl, document⟩)
  have refused {fault : Fault} (absent : ∀ value, ¬Document text.toList value) (value : Value) :
      (Except.error fault : Except Fault Value) = .ok value ↔ Document text.toList value :=
    iff_of_false (by simp) (absent value)
  refine ⟨enough, fun fuel least => ?_⟩
  obtain ⟨next, run, -⟩ := settles fuel least _ (holds (made.rule :: store.running))
  simp only [start] at run
  rcases reading with fault | _ | ⟨value, after⟩
  · refine ⟨.error fault, Runner.parseOrFail_halt reader.kind run, refused fun _ document => ?_, ?_⟩
    · cases complete document
    · rintro _ ⟨⟩
      exact .inl (explains.faults rfl)
  · obtain ⟨name, parsed⟩ := Runner.parseOrFail_none reader.kind run
    refine ⟨.error (.notMatched name), parsed, refused fun _ document => ?_, ?_⟩
    · cases complete document
    · rintro _ ⟨⟩
      exact .inr rfl
  · obtain ⟨body, parted, denotes⟩ := explains.sound rfl
    obtain ⟨given, rfl, document⟩ := documentForm_denotes.mp denotes
    by_cases finished : after = []
    · subst finished
      rw [List.append_nil] at parted
      rw [← parted] at document
      have stops : text.offsetOf [] = text.size := Text.offsetOf_nil text
      simp only [Setting.outcomeOf, Text.matchOf, Except.map, Option.map, stops] at run
      refine ⟨.ok given, Runner.parseOrFail_whole reader.kind run, fun value => ⟨?_, fun other => ?_⟩, ?_⟩
      · rintro ⟨⟩
        exact document
      · cases complete other
        rfl
      · rintro _ ⟨⟩
    · obtain ⟨name, parsed⟩ :=
        Runner.parseOrFail_part reader.kind (mt Text.offsetOf_eq_size.mp finished) run
      refine ⟨.error (.partlyMatched name _ _), parsed, refused fun _ document => ?_, ?_⟩
      · cases complete document
        exact finished rfl
      · rintro _ ⟨⟩
        exact .inr rfl

/-- The document grammar accepts the texts of documents and nothing else, of any nesting depth, and
answers with what they stand for. Any other text is no match, unless a whole numeral in it cannot be
read. So no text stands for two values. -/
theorem parsing_json (history : List Command) (text : Text) :
    (∃ enough, ∀ fuel, enough ≤ fuel → ∃ outcome : Except Fault Value,
      ((Session.parsing fuel json text).exec (Store.afterAll history)).1 = outcome.mapError .fault ∧
      (∀ value, outcome = .ok value ↔ Document text.toList value) ∧
      ∀ fault, outcome = .error fault → fault.class = .noParse ∨ Unreadable text fault) ∧
    ∀ one two, Document text.toList one → Document text.toList two → one = two := by
  have blames : ∀ moment, Blames ⟨⟨text, moment⟩, Unreadable text⟩ :=
    fun _ token _ inside integer failed => ⟨token, inside, integer, failed⟩
  obtain ⟨made, next, evaluated, reader⟩ := json_makes blames (Store.afterAll history)
  obtain ⟨enough, parses⟩ := reader.parses
  constructor
  · refine ⟨enough, fun fuel least => ?_⟩
    obtain ⟨outcome, parsed, documents, faults⟩ := parses fuel least
    refine ⟨outcome, ?_, documents, fun fault failed => (faults fault failed).symm⟩
    rw [Session.parsing, Session.evaluate, exec_bind_ok evaluated, parsed]
  · intro one two first second
    obtain ⟨outcome, -, documents, -⟩ := parses enough le_rfl
    cases ((documents one).mpr first).symm.trans ((documents two).mpr second)
    rfl

end Json

end TextGrammar
