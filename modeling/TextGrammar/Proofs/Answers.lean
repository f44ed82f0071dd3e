import Mathlib.Data.List.Forall2
import TextGrammar.Grammar.Shorthand
import TextGrammar.Proofs.Readings

/-! What making grammars comes to. Apart from recursive grammars, all that it changes are the names
of objects, and all that it depends on are these names and whether the log is verbose. -/

namespace TextGrammar
open TextGrammar.Action

/-- A grammar of a kind whose rule has a property. -/
structure Grammar.Is (kind : Kind) (property : Rule → Prop) (made : Grammar) : Prop where
  kind : made.kind = kind
  rule : property made.rule

/-- An operand that is such a grammar. -/
def Operand.Is (kind : Kind) (property : Rule → Prop) (operand : Operand) : Prop :=
  ∃ made : Grammar, operand = .grammar made ∧ made.Is kind property

variable {α β : Type}

/-- An action that answers with what has a property, the same in all stores with the same names, and
changes nothing but these names. -/
def Action.Answers (property : α → Prop) (action : Action α) : Prop :=
  ∀ verbose names, ∃ answer named, property answer ∧
    ∀ store : Store, store.verbose = verbose → store.names = names →
      action.exec store = (.ok answer, { store with names := named })

namespace Action.Answers
variable {property : α → Prop} {result : β → Prop}

theorem pure {answer : α} (holds : property answer) : (Pure.pure answer : Action α).Answers property := by
  refine fun _ names => ⟨answer, names, holds, ?_⟩
  rintro store - rfl
  rfl

theorem bind {action : Action α} {next : α → Action β} (first : action.Answers property)
    (rest : ∀ answer, property answer → (next answer).Answers result) :
    (action >>= next).Answers result := by
  intro verbose names
  obtain ⟨answer, named, holds, one⟩ := first verbose names
  obtain ⟨last, renamed, held, two⟩ := rest answer holds verbose named
  refine ⟨last, renamed, held, fun store same equal => ?_⟩
  rw [exec_bind_ok (one store same equal)]
  exact two { store with names := named } same rfl

/-- What follows a known answer. -/
theorem bind_eq {action : Action α} {answer : α} {next : α → Action β}
    (first : action.Answers (· = answer)) (rest : (next answer).Answers result) :
    (action >>= next).Answers result := by
  refine first.bind fun other same => ?_
  rw [same]
  exact rest

theorem imp {action : Action α} {weaker : α → Prop} (first : action.Answers property)
    (holds : ∀ answer, property answer → weaker answer) : action.Answers weaker := by
  intro verbose names
  obtain ⟨answer, named, made, same⟩ := first verbose names
  exact ⟨answer, named, holds answer made, same⟩

theorem map {action : Action α} (first : action.Answers property) {change : α → β}
    (holds : ∀ answer, property answer → result (change answer)) :
    (change <$> action).Answers result := by
  rw [map_eq_pure_bind]
  exact first.bind fun answer made => .pure (holds answer made)

theorem nameOf (grammar : Grammar) : (Action.nameOf grammar).Answers fun _ => True := by
  refine fun _ names => ⟨names.getD grammar.tag "", names, trivial, ?_⟩
  rintro store - rfl
  rfl

theorem newGrammar (kind : Kind) (name : String) {body : Rule} {property : Rule → Prop}
    (holds : ∀ tag traced, property (.object tag traced body)) :
    (Action.newGrammar kind name body).Answers (Grammar.Is kind property) := by
  intro verbose names
  refine ⟨⟨kind, names.size, .object names.size verbose body⟩, names.push name,
    ⟨rfl, holds _ _⟩, ?_⟩
  rintro store rfl rfl
  rfl

/-- A new object that is named after an old one. -/
theorem around (grammar : Grammar) (kind : Kind) (name : String → String) {body : Rule}
    {property : Rule → Prop} (holds : ∀ tag traced, property (.object tag traced body)) :
    (do Action.newGrammar kind (name (← Action.nameOf grammar)) body : Action Grammar).Answers
      (Grammar.Is kind property) :=
  (nameOf grammar).bind fun _ _ => newGrammar kind _ holds

theorem each {items : List β} {action : β → Action α}
    (each : ∀ item ∈ items, (action item).Answers fun _ => True) :
    (items.mapM action).Answers fun _ => True := by
  induction items with
  | nil => exact .pure trivial
  | cons item rest ih =>
    rw [List.mapM_cons]
    refine (each item (by simp)).bind fun answer _ => ?_
    exact (ih fun other member => each other (by simp [member])).bind fun _ _ => .pure trivial

end Action.Answers

/-- An expression that makes a grammar of a kind whose rule has a property. -/
def Expression.Makes (scope : Scope) (kind : Kind) (property : Rule → Prop)
    (expression : Expression) : Prop :=
  (expression.evaluate scope).Answers (Operand.Is kind property)

variable {kind other : Kind} {property first second result : Rule → Prop}

namespace Grammar
variable {grammar next : Grammar}

theorem literal_answers {word : String}
    (holds : ∀ tag traced, property (.object tag traced (.leaf (Leaf.literal word)))) :
    (literal word).Answers (Is .pattern property) :=
  .newGrammar _ _ holds

theorem followedByGrammar_answers (one : grammar.Is kind first) (two : next.Is other second)
    (holds : ∀ {rule later}, first rule → second later →
      ∀ tag traced, result (.object tag traced (.sequence kind other rule later))) :
    (grammar.followedByGrammar next).Answers (Is (kind.joined other) result) := by
  obtain ⟨rfl, one⟩ := one
  obtain ⟨rfl, two⟩ := two
  exact (Action.Answers.nameOf grammar).bind fun _ _ => (Action.Answers.nameOf next).bind fun _ _ =>
    .newGrammar _ _ (holds one two)

theorem asAlternative_answers (is : grammar.Is kind property) :
    (asAlternative kind (.grammar grammar)).Answers (· = some grammar) := by
  simp only [asAlternative, is.kind, ↓reduceIte]
  exact .pure rfl

theorem choice_answers (one : grammar.Is kind first) (two : next.Is kind second)
    (holds : ∀ {rule later}, first rule → second later →
      ∀ tag traced, result (.object tag traced (.orElse rule later))) :
    (grammar.choice next).Answers (Is kind result) := by
  obtain ⟨rfl, one⟩ := one
  exact (Action.Answers.nameOf grammar).bind fun _ _ => (Action.Answers.nameOf next).bind fun _ _ =>
    .newGrammar _ _ (holds one two.rule)

theorem alternatives_answers {grammars : List Grammar} (kinds : ∀ made ∈ grammars, made.kind = kind) :
    (List.mapM (fun operand => do
      match ← asAlternative kind operand with
      | some alternative => return alternative
      | none => fail (← notAlternative kind operand)) (grammars.map Operand.grammar)).Answers
        (· = grammars) := by
  induction grammars with
  | nil => exact .pure rfl
  | cons made rest ih =>
    have is : made.Is kind fun _ => True := ⟨kinds made (by simp), trivial⟩
    have one : (do
        match ← asAlternative kind (.grammar made) with
        | some alternative => return alternative
        | none => fail (← notAlternative kind (.grammar made)) : Action Grammar).Answers
          (· = made) := (asAlternative_answers is).bind_eq (.pure rfl)
    rw [List.map_cons, List.mapM_cons]
    exact one.bind_eq ((ih fun other member => kinds other (by simp [member])).bind_eq (.pure rfl))

theorem either_answers {grammars : List Grammar} (kinds : ∀ made ∈ grammars, made.kind = kind)
    (holds : ∀ tag traced, result (.object tag traced (.either (grammars.map Grammar.rule)))) :
    (either kind (grammars.map Operand.grammar)).Answers (Is kind result) :=
  (alternatives_answers kinds).bind_eq <|
    (Action.Answers.each fun made _ => .nameOf made).bind fun _ _ => .newGrammar _ _ holds

theorem Is.optional_answers (is : grammar.Is kind property)
    (holds : ∀ {rule}, property rule →
      ∀ tag traced, result (.object tag traced (.optional kind rule))) :
    grammar.optional.Answers (Is kind result) := by
  obtain ⟨rfl, one⟩ := is
  exact .around grammar _ _ (holds one)

theorem Is.many_answers (is : grammar.Is kind property)
    (holds : ∀ {rule}, property rule →
      ∀ tag traced, result (.object tag traced (.many kind grammar.tag rule))) :
    grammar.many.Answers (Is kind result) := by
  obtain ⟨rfl, one⟩ := is
  exact .around grammar _ _ (holds one)

theorem Is.oneOrMore_answers (is : grammar.Is kind property)
    (holds : ∀ {rule}, property rule →
      ∀ tag traced, result (.object tag traced (.oneOrMore kind rule))) :
    grammar.oneOrMore.Answers (Is kind result) := by
  obtain ⟨rfl, one⟩ := is
  exact .around grammar _ _ (holds one)

theorem Is.captured_answers (is : grammar.Is kind property)
    (holds : ∀ {rule}, property rule →
      ∀ tag traced, result (.object tag traced (.captured kind rule))) :
    grammar.captured.Answers (Is .parser result) := by
  obtain ⟨rfl, one⟩ := is
  exact (Action.Answers.nameOf grammar).bind fun _ _ => .newGrammar _ _ (holds one)

theorem Is.times_answers {count : Nat} (is : grammar.Is kind property)
    (writable : Numeral.isWritable count)
    (holds : ∀ {rule}, property rule →
      ∀ tag traced, result (.object tag traced (.times kind count rule))) :
    (grammar.times (.int count)).Answers (Is kind result) := by
  obtain ⟨rfl, one⟩ := is
  have counted : (grammar.repetitions (.int count)).Answers (· = count) := by
    have short : ¬(!Numeral.isWritable count) = true := by
      rw [writable]
      exact Bool.false_ne_true
    have positive : ¬decide ((count : Int) < 0) = true := by
      rw [decide_eq_true_iff]
      omega
    unfold repetitions
    refine Action.Answers.bind_eq (.pure rfl) (Action.Answers.bind_eq (.pure rfl) ?_)
    dsimp only
    rw [if_neg short, if_neg positive]
    exact .pure (Int.toNat_natCast count)
  exact counted.bind_eq (.around grammar _ (fun name => s!"{name} * {count}") (holds one))

theorem asPattern_answers (is : grammar.Is .pattern property) :
    (asPattern (.grammar grammar)).Answers (· = grammar) := by
  simp only [asPattern, is.kind]
  exact .pure rfl

/-- Items between which a pattern stands. -/
theorem Is.separated_answers (is : grammar.Is kind first) (between : next.Is .pattern second)
    (holds : ∀ {rule separator}, first rule → second separator → ∀ inner around tag traced,
      result (.object tag traced (.separated kind rule
        (.object inner around (.sequence .pattern kind separator rule))))) :
    (do
      let rest ← next.followedByGrammar grammar
      newGrammar grammar.kind ("(" ++ (← nameOf grammar) ++ ", \x7b " ++ (← nameOf rest) ++ " \x7d)")
        (.separated grammar.kind grammar.rule rest.rule) : Action Grammar).Answers (Is kind result) := by
  have rests : (next.followedByGrammar grammar).Answers (Is kind fun rule =>
      ∃ inner around, rule = .object inner around (.sequence .pattern kind next.rule grammar.rule)) :=
    followedByGrammar_answers ⟨between.kind, rfl⟩ ⟨is.kind, rfl⟩ fun one two tag traced =>
      ⟨tag, traced, by rw [one, two]⟩
  refine rests.bind fun rest made => ?_
  obtain ⟨rfl, one⟩ := is
  obtain ⟨-, inner, around, sequence⟩ := made
  refine (Action.Answers.nameOf grammar).bind fun _ _ => (Action.Answers.nameOf rest).bind fun _ _ =>
    .newGrammar _ _ ?_
  rw [sequence]
  exact holds one between.rule inner around

theorem Is.separatedBy_answers (is : grammar.Is kind first) (between : next.Is .pattern second)
    (holds : ∀ {rule separator}, first rule → second separator → ∀ inner around tag traced,
      result (.object tag traced (.separated kind rule
        (.object inner around (.sequence .pattern kind separator rule))))) :
    (grammar.separatedBy (.grammar next)).Answers (Is kind result) :=
  (asPattern_answers between).bind_eq (is.separated_answers between holds)

theorem Is.separatedBy_word_answers {word : String} (is : grammar.Is kind first)
    (holds : ∀ {rule}, first rule → ∀ one two inner around tag traced,
      result (.object tag traced (.separated kind rule (.object inner around
        (.sequence .pattern kind (.object one two (.leaf (Leaf.literal word))) rule))))) :
    (grammar.separatedBy (.raw (.str word))).Answers (Is kind result) := by
  have literal : (literal word).Answers (Is .pattern fun rule =>
      ∃ one two, rule = .object one two (.leaf (Leaf.literal word))) :=
    literal_answers fun one two => ⟨one, two, rfl⟩
  refine literal.bind fun next between => is.separated_answers between ?_
  rintro rule _ made ⟨one, two, rfl⟩
  exact holds made one two

theorem Is.returning_answers {value : Value} (is : grammar.Is .pattern property)
    (holds : ∀ {rule}, property rule →
      ∀ tag traced, result (.object tag traced (.valued value rule))) :
    (grammar.returning value).Answers (Is .parser result) := by
  simp only [returning, is.kind]
  exact (asPattern_answers is).bind_eq (.around grammar _ id (holds is.rule))

theorem Is.map_answers {transform : Value → Except Fault Value} (is : grammar.Is .parser property)
    (holds : ∀ {rule}, property rule →
      ∀ tag traced, result (.object tag traced (.map transform rule))) :
    (grammar.map transform).Answers (Is .parser result) := by
  simp only [Grammar.map, ofParser, is.kind]
  exact .around grammar _ id (holds is.rule)

theorem Is.filter_answers {accept : Value → Except Fault Bool} (is : grammar.Is .parser property)
    (holds : ∀ {rule}, property rule →
      ∀ tag traced, result (.object tag traced (.filter accept rule))) :
    (grammar.filter accept).Answers (Is .parser result) := by
  simp only [Grammar.filter, ofParser, is.kind]
  exact .around grammar _ _ (holds is.rule)

theorem Is.kinds {grammars : List Grammar} {properties : List (Rule → Prop)}
    (all : List.Forall₂ (fun made property => Is kind property made) grammars properties) :
    ∀ made ∈ grammars, made.kind = kind := by
  induction all with
  | nil => exact List.forall_mem_nil _
  | cons is _ ih => exact List.forall_mem_cons.mpr ⟨is.kind, ih⟩

end Grammar

namespace Expression.Makes
variable {scope : Scope} {expression separator : Expression}

theorem imp (makes : expression.Makes scope kind first)
    (holds : ∀ {rule}, first rule → second rule) : expression.Makes scope kind second := by
  apply Action.Answers.imp makes
  intro operand is
  obtain ⟨made, equal, is⟩ := is
  exact ⟨made, equal, is.kind, holds is.rule⟩

/-- A grammar that is made becomes an operand. -/
theorem made {action : Action Grammar} (answers : action.Answers (Grammar.Is kind property)) :
    (Operand.grammar <$> action).Answers (Operand.Is kind property) :=
  answers.map fun grammar is => ⟨grammar, rfl, is⟩

/-- A grammar that is made from another one. -/
theorem madeFrom {member : String} {change : Grammar → Action Grammar}
    (makes : expression.Makes scope kind property)
    (answers : ∀ grammar : Grammar, grammar.Is kind property →
      (change grammar).Answers (Grammar.Is other result)) :
    (do return .grammar (← change (← (← expression.evaluate scope).asGrammar member)) :
      Action Operand).Answers (Operand.Is other result) := by
  refine makes.bind fun operand is => ?_
  obtain ⟨grammar, rfl, is⟩ := is
  exact Action.Answers.bind_eq (.pure rfl) <| (answers grammar is).bind fun last made =>
    .pure ⟨last, rfl, made⟩

theorem leaf (kind : Kind) (name : String) {recognise : Leaf}
    (holds : ∀ tag traced, property (.object tag traced (.leaf recognise))) :
    (Expression.leaf kind name recognise).Makes scope kind property :=
  made (.newGrammar _ _ holds)

theorem constant {shared : Constant} (holds : property shared.grammar.rule) :
    (Expression.constant shared).Makes scope .pattern property :=
  .pure ⟨_, rfl, rfl, holds⟩

theorem placeholder {name : String} {placeholder : Placeholder}
    (found : scope.lookup name = some placeholder) (standsIn : placeholder.captured = false)
    (holds : property (.object placeholder.tag placeholder.traced (.placeholder placeholder.cell))) :
    (Expression.variable name).Makes scope placeholder.kind property := by
  unfold Makes evaluate lookUp
  rw [found]
  refine .pure ⟨_, rfl, rfl, ?_⟩
  rw [Placeholder.grammar, Placeholder.rule, standsIn]
  exact holds

section Sums
variable {one two : Expression} {word : String}

theorem sum (before : one.Makes scope kind first) (after : two.Makes scope other second)
    (holds : ∀ {rule later}, first rule → second later →
      ∀ tag traced, result (.object tag traced (.sequence kind other rule later))) :
    (one + two).Makes scope (kind.joined other) result := by
  refine before.bind fun operand is => after.bind fun operand' is' => ?_
  obtain ⟨grammar, rfl, is⟩ := is
  obtain ⟨next, rfl, is'⟩ := is'
  exact made (Grammar.followedByGrammar_answers is is' holds)

theorem sum_word (before : one.Makes scope kind first)
    (holds : ∀ {rule}, first rule → ∀ inner around tag traced, result (.object tag traced
      (.sequence kind .pattern rule (.object inner around (.leaf (Leaf.literal word)))))) :
    (one + (word : Expression)).Makes scope (kind.joined .pattern) result := by
  refine before.bind fun operand is => Action.Answers.bind_eq (.pure rfl) ?_
  obtain ⟨grammar, rfl, is⟩ := is
  have literal : (Grammar.literal word).Answers (Grammar.Is .pattern fun rule =>
      ∃ inner around, rule = .object inner around (.leaf (Leaf.literal word))) :=
    Grammar.literal_answers fun inner around => ⟨inner, around, rfl⟩
  refine made (literal.bind fun next word => Grammar.followedByGrammar_answers is word ?_)
  rintro rule _ begins ⟨inner, around, rfl⟩
  exact holds begins inner around

theorem word_sum (after : two.Makes scope other second)
    (holds : ∀ {rule}, second rule → ∀ inner around tag traced, result (.object tag traced
      (.sequence .pattern other (.object inner around (.leaf (Leaf.literal word))) rule))) :
    ((word : Expression) + two).Makes scope other result := by
  refine Action.Answers.bind_eq (.pure rfl) (after.bind fun operand is => ?_)
  obtain ⟨grammar, rfl, is⟩ := is
  have literal : (Grammar.literal word).Answers (Grammar.Is .pattern fun rule =>
      ∃ inner around, rule = .object inner around (.leaf (Leaf.literal word))) :=
    Grammar.literal_answers fun inner around => ⟨inner, around, rfl⟩
  refine literal.bind fun made word => ?_
  refine (Grammar.followedByGrammar_answers word is ?_).bind fun both is => .pure ⟨both, rfl, is⟩
  rintro _ rule ⟨inner, around, rfl⟩ continues
  exact holds continues inner around

theorem union (before : one.Makes scope kind first) (after : two.Makes scope kind second)
    (holds : ∀ {rule later}, first rule → second later →
      ∀ tag traced, result (.object tag traced (.orElse rule later))) :
    (one ||| two).Makes scope kind result := by
  refine before.bind fun operand is => after.bind fun operand' is' => ?_
  obtain ⟨grammar, rfl, is⟩ := is
  obtain ⟨next, rfl, is'⟩ := is'
  have alternative : (Grammar.asAlternative grammar.kind (.grammar next)).Answers (· = some next) :=
    Grammar.asAlternative_answers ⟨is'.kind.trans is.kind.symm, is'.rule⟩
  exact alternative.bind_eq (made (Grammar.choice_answers is is' holds))

end Sums

theorem optional (makes : expression.Makes scope kind property)
    (holds : ∀ {rule}, property rule →
      ∀ tag traced, result (.object tag traced (.optional kind rule))) :
    (Expression.optional expression).Makes scope kind result :=
  makes.madeFrom fun _ is => is.optional_answers holds

theorem many (makes : expression.Makes scope kind property)
    (holds : ∀ {rule}, property rule →
      ∀ item tag traced, result (.object tag traced (.many kind item rule))) :
    (Expression.many expression).Makes scope kind result :=
  makes.madeFrom fun _ is => is.many_answers fun made => holds made _

theorem oneOrMore (makes : expression.Makes scope kind property)
    (holds : ∀ {rule}, property rule →
      ∀ tag traced, result (.object tag traced (.oneOrMore kind rule))) :
    (Expression.oneOrMore expression).Makes scope kind result :=
  makes.madeFrom fun _ is => is.oneOrMore_answers holds

theorem captured (makes : expression.Makes scope kind property)
    (holds : ∀ {rule}, property rule →
      ∀ tag traced, result (.object tag traced (.captured kind rule))) :
    (Expression.captured expression).Makes scope .parser result :=
  makes.madeFrom fun _ is => is.captured_answers holds

theorem returning {value : Value} (makes : expression.Makes scope .pattern property)
    (holds : ∀ {rule}, property rule →
      ∀ tag traced, result (.object tag traced (.valued value rule))) :
    (Expression.returning expression value).Makes scope .parser result :=
  makes.madeFrom fun _ is => is.returning_answers holds

theorem times {count : Nat} (makes : expression.Makes scope kind property)
    (writable : Numeral.isWritable count)
    (holds : ∀ {rule}, property rule →
      ∀ tag traced, result (.object tag traced (.times kind count rule))) :
    (Expression.times expression (.int count)).Makes scope kind result := by
  refine makes.bind fun operand is => ?_
  obtain ⟨grammar, rfl, is⟩ := is
  exact Action.Answers.bind_eq (.pure rfl) <| (is.times_answers writable holds).bind fun last made =>
    .pure ⟨last, rfl, made⟩

theorem mapped {transform : Value → Except Fault Value} (makes : expression.Makes scope .parser property)
    (holds : ∀ {rule}, property rule →
      ∀ tag traced, result (.object tag traced (.map transform rule))) :
    (Expression.map expression transform).Makes scope .parser result :=
  makes.madeFrom fun _ is => is.map_answers holds

theorem filter {accept : Value → Except Fault Bool} (makes : expression.Makes scope .parser property)
    (holds : ∀ {rule}, property rule →
      ∀ tag traced, result (.object tag traced (.filter accept rule))) :
    (Expression.filter expression accept).Makes scope .parser result :=
  makes.madeFrom fun _ is => is.filter_answers holds

theorem shifted {transform : Value → Except Fault Value} {functionType : String}
    (makes : expression.Makes scope .parser property)
    (holds : ∀ {rule}, property rule →
      ∀ tag traced, result (.object tag traced (.map transform rule))) :
    (Expression.shifted expression transform functionType).Makes scope .parser result := by
  refine makes.bind fun operand is => ?_
  obtain ⟨grammar, rfl, is⟩ := is
  simp only [Operand.shifted, is.kind]
  exact made (is.map_answers holds)

theorem separatedBy (makes : expression.Makes scope kind first)
    (between : separator.Makes scope .pattern second)
    (holds : ∀ {rule separator}, first rule → second separator → ∀ inner around tag traced,
      result (.object tag traced (.separated kind rule
        (.object inner around (.sequence .pattern kind separator rule))))) :
    (Expression.separatedBy expression separator).Makes scope kind result := by
  refine makes.bind fun operand is => between.bind fun operand' is' => ?_
  obtain ⟨grammar, rfl, is⟩ := is
  obtain ⟨next, rfl, is'⟩ := is'
  exact Action.Answers.bind_eq (.pure rfl) <|
    (is.separatedBy_answers is' holds).bind fun last made => .pure ⟨last, rfl, made⟩

theorem separatedBy_word {word : String} (makes : expression.Makes scope kind property)
    (holds : ∀ {rule}, property rule → ∀ one two inner around tag traced,
      result (.object tag traced (.separated kind rule (.object inner around
        (.sequence .pattern kind (.object one two (.leaf (Leaf.literal word))) rule))))) :
    (Expression.separatedBy expression word).Makes scope kind result := by
  refine makes.bind fun operand is => Action.Answers.bind_eq (.pure rfl) ?_
  obtain ⟨grammar, rfl, is⟩ := is
  exact Action.Answers.bind_eq (.pure rfl) <|
    (is.separatedBy_word_answers holds).bind fun last made => .pure ⟨last, rfl, made⟩

section Alternatives
variable {expressions : List Expression} {properties : List (Rule → Prop)}
  (all : List.Forall₂ (fun expression property => expression.Makes scope kind property) expressions
    properties)
include all

theorem evaluateAll_answers :
    (evaluateAll scope expressions).Answers fun operands => ∃ grammars : List Grammar,
      operands = grammars.map .grammar ∧
        List.Forall₂ (fun made property => made.Is kind property) grammars properties := by
  induction all with
  | nil => exact .pure ⟨[], rfl, .nil⟩
  | cons one others ih =>
    refine Action.Answers.bind one fun operand is => ih.bind fun operands made => ?_
    obtain ⟨grammar, rfl, is⟩ := is
    obtain ⟨grammars, rfl, all⟩ := made
    exact .pure ⟨grammar :: grammars, rfl, .cons is all⟩

theorem either
    (holds : ∀ {rules}, List.Forall₂ (fun rule property => property rule) rules properties →
      ∀ tag traced, result (.object tag traced (.either rules))) :
    (Expression.either kind expressions).Makes scope kind result := by
  refine (evaluateAll_answers all).bind fun operands made => ?_
  obtain ⟨grammars, rfl, all⟩ := made
  have rules : List.Forall₂ (fun rule property => property rule) (grammars.map Grammar.rule)
      properties := List.forall₂_map_left_iff.mpr (all.imp fun _ _ is => is.rule)
  exact (Grammar.either_answers (Grammar.Is.kinds all) (holds rules)).bind fun last is => .pure ⟨last, rfl, is⟩

end Alternatives

end Expression.Makes

end TextGrammar
