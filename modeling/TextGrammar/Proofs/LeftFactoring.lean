import TextGrammar.Proofs.Foretelling
import TextGrammar.Proofs.Refactorings

/-! A common first part of two alternatives. It can be put in front of the choice of what follows it, though
it is run once less then: what it comes to is the same the second time, as long as nothing has been built in
between that does more than to put grammars together. And what does not match can be left out in front of some
alternatives, though it is not run then. -/

namespace TextGrammar
open TextGrammar.Action

namespace Blueprint
variable (base : Store) (active : Key → Nat) (stage : Nat) (text : Text) (start : Int)

theorem limit_object (body : Blueprint) :
    limit base active stage (.object body) text start = limit base active stage body text start := by
  rw [limit_eq_step]
  rfl

theorem limit_orElse (first second : Blueprint) : limit base active stage (.orElse first second) text start = (do
    match ← limit base active stage first text start with
    | some found => return some found
    | none => limit base active stage second text start) := by
  rw [limit_eq_step]
  rfl

theorem limit_sequence (kind other : Kind) (first second : Blueprint) :
    limit base active stage (.sequence kind other first second) text start = (do
    let some found ← limit base active stage first text start | return none
    let some next ← limit base active stage second text (← (found.stopAs kind).mapError .fault) | return none
    return some (← (found.followedBy kind other next).mapError .fault)) := by
  rw [limit_eq_step]
  rfl

/-- A first part comes to the same every time, so it need not be run again for another alternative. -/
theorem limit_factored (kind other : Kind) (first second third : Blueprint) :
    limit base active stage (.object (.sequence kind other first (.object (.orElse second third)))) text start =
      limit base active stage (.object (.orElse (.object (.sequence kind other first second))
        (.object (.sequence kind other first third)))) text start := by
  have onward {α β : Type} (answer : α) (next : α → Except Halt β) : (Except.ok answer >>= next) = next answer := rfl
  simp only [limit_object, limit_orElse, limit_sequence]
  rcases limit base active stage first text start with halt | _ | found
  · rfl
  · rfl
  · simp only [onward]
    rcases found.stopAs kind with fault | stop
    · rfl
    · simp only [onward, Except.mapError]
      rcases limit base active stage second text stop with halt | _ | next
      · rfl
      · rfl
      · simp only [onward, pure_bind]
        cases found.followedBy kind other next <;> rfl

theorem limit_either (alternatives : List Blueprint) : limit base active stage (.either alternatives) text start =
    Player.firstOf (limit base active stage · text start) alternatives := by
  rw [limit_eq_step]
  rfl

/-- Choices one after the other come to the first of the alternatives that matches. -/
theorem limit_choices (first : Sketch) (others : List Sketch) :
    limit base active stage (others.foldl Sketch.choice first).body text start =
      Player.firstOf (limit base active stage · text start) (first.body :: others.map Sketch.body) := by
  induction others generalizing first with
  | nil =>
    rw [List.foldl_nil, List.map_nil, Player.firstOf]
    rcases limit base active stage first.body text start with halt | _ | found <;> rfl
  | cons other rest ih =>
    rw [List.foldl_cons, ih, List.map_cons]
    simp only [Player.firstOf, Sketch.choice, Sketch.new, limit_object, limit_orElse]
    rcases limit base active stage first.body text start with halt | _ | found <;> rfl

end Blueprint

namespace Session

/-- One grammar, and one of two others behind it. -/
abbrev factored (one two three : String) : Expression :=
  .followedBy (.variable one) (.orElse (.variable two) (.variable three))

/-- A grammar and another one behind it, or else the same one and a third. -/
abbrev distributed (one two three : String) : Expression :=
  .orElse (.followedBy (.variable one) (.variable two)) (.followedBy (.variable one) (.variable three))

/-- Alternatives one after the other, behind a first one. -/
abbrev oneByOne (first : String) (names : List String) : Expression :=
  (names.map Expression.variable).foldl .orElse (.variable first)

theorem plain_alternatives {known : String → Prop} {names : List String} (all : ∀ name ∈ names, known name) :
    Expression.AllPlain known (names.map .variable) := by
  induction names with
  | nil => trivial
  | cons name rest ih => exact ⟨(List.forall_mem_cons.mp all).1, ih (List.forall_mem_cons.mp all).2⟩

theorem plain_orElse {known : String → Prop} {names : List String} {first : Expression} (all : ∀ name ∈ names, known name)
    (plain : first.Plain known) : ((names.map Expression.variable).foldl .orElse first).Plain known := by
  induction names generalizing first with
  | nil => exact plain
  | cons name rest ih =>
    obtain ⟨one, others⟩ := List.forall_mem_cons.mp all
    exact ih others ⟨plain, one⟩

theorem globals_assigned {store : Store} {name : String} {operand : Operand} (is : store.assigned? name = some operand) :
    store.globals name = some operand.draft := by
  rw [Store.globals, is, Option.map_some]

theorem draft_variable {globals : String → Option Draft} {name : String} {draft : Draft} (is : globals name = some draft)
    (key : Key) : (Expression.variable name).draft globals key [] = return draft := by
  rw [Expression.draft, draftOf, is]
  rfl

section Alternatives
variable {globals : String → Option Draft} {kind : Kind} {names : List String} {alternative : String → Sketch}
  (alternatives : ∀ name ∈ names, ∃ draft, globals name = some draft ∧ draft.alternative kind = .ok (alternative name))
  (key : Key)
include alternatives

theorem draftAll_alternatives : ∃ drafts, Expression.draftAll globals key [] (names.map .variable) = pure drafts ∧
    drafts.mapM (Draft.alternative kind) = .ok (names.map alternative) := by
  induction names with
  | nil => exact ⟨[], rfl, rfl⟩
  | cons name rest ih =>
    obtain ⟨⟨draft, is, one⟩, others⟩ := List.forall_mem_cons.mp alternatives
    obtain ⟨drafts, all, made⟩ := ih others
    refine ⟨draft :: drafts, ?_, ?_⟩
    · rw [List.map_cons, Expression.draftAll, draft_variable is, all, pure_bind, pure_bind]
    · rw [List.mapM_cons, one, made]
      rfl

theorem draft_either : (Expression.either kind (names.map .variable)).draft globals key [] =
    return .grammar (.new kind (.either ((names.map alternative).map Sketch.body))) := by
  obtain ⟨drafts, all, made⟩ := draftAll_alternatives alternatives key
  rw [Expression.draft, all, pure_bind, Sketch.either, made]
  rfl

theorem draft_orElse {first : Expression} {sketch : Sketch} (is : first.draft globals key [] = return .grammar sketch)
    (same : sketch.kind = kind) : ((names.map Expression.variable).foldl .orElse first).draft globals key [] =
      return .grammar ((names.map alternative).foldl Sketch.choice sketch) := by
  induction names generalizing first sketch with
  | nil => exact is
  | cons name rest ih =>
    obtain ⟨⟨draft, named, one⟩, others⟩ := List.forall_mem_cons.mp alternatives
    refine ih others ?_ same
    have chosen : sketch.orElse draft = .ok (sketch.choice (alternative name)) := by
      rw [Sketch.orElse, same, one]
      rfl
    rw [Expression.draft, is, draft_variable named, pure_bind, pure_bind]
    change (do return .grammar (← (sketch.orElse draft : Except Fault Sketch)) : Drafting Draft) = _
    rw [chosen]
    rfl

end Alternatives

/-- What stands for a grammar is an alternative of its kind. -/
theorem alternative_draft {operand : Operand} {made : Grammar} (stands : operand.Stands made) :
    operand.draft.alternative made.kind = .ok ⟨made.kind, made.rule.blueprint⟩ := by
  cases stands with
  | grammar => rw [Operand.draft, Draft.alternative, Draft.asAlternative, if_pos rfl]
  | word => rfl

/-- Behind a grammar that does not match, alternatives come to the same at once and one after the other. -/
theorem foretold_oneByOne {store : Store} {never : String} {names : List String} {made : Grammar}
    (is : store.assigned? never = some (.grammar made))
    (stand : ∀ name ∈ names, ∃ operand other, store.assigned? name = some operand ∧ operand.Stands other ∧
      other.kind = made.kind) {text : Text} {start : Int}
    (nowhere : foretold store (.variable never) text start = .ok none) :
    foretold store (.either made.kind (names.map .variable)) text start = foretold store (oneByOne never names) text start := by
  have alternatives : ∀ name ∈ names, ∃ sketch : Sketch, ∃ draft, store.globals name = some draft ∧
      draft.alternative made.kind = .ok sketch := by
    intro name member
    obtain ⟨operand, other, named, stands, same⟩ := stand name member
    exact ⟨_, operand.draft, globals_assigned named, same ▸ alternative_draft stands⟩
  have : Nonempty Sketch := ⟨made.kind, made.rule.blueprint⟩
  choose! alternative alternatives using alternatives
  have drafted {subject : Expression} {sketch : Sketch}
      (is : subject.draft store.globals (.stage 0) [] = return .grammar sketch) :
      subject.drafted store.globals (.stage 0) [] = .ok (.grammar sketch) := by
    rw [Expression.drafted, is]
    rfl
  have first := draft_variable (globals_assigned is) (.stage 0)
  rw [foretold_drafted (drafted first)] at nowhere
  rw [foretold_drafted (drafted (draft_either alternatives (.stage 0))),
    foretold_drafted (drafted (draft_orElse alternatives (.stage 0) first rfl))]
  rcases checked : text.checkOffset start with fault | _
  · rw [checked] at nowhere
    cases nowhere
  · rw [checked] at nowhere
    have nowhere : Blueprint.limit store (fun _ => 0) 1 made.rule.blueprint text start = .ok none := nowhere
    refine bind_congr fun _ => ?_
    rw [Blueprint.limit_choices, Player.firstOf, nowhere, Sketch.new, Blueprint.limit_object, Blueprint.limit_either]
    rfl

section Drafts
variable {store : Store} {one two three : String} {first second third : Grammar}
  (one_ : store.assigned? one = some (.grammar first)) (two_ : store.assigned? two = some (.grammar second))
  (three_ : store.assigned? three = some (.grammar third)) (kinds : second.kind = third.kind)
include one_ two_ three_ kinds

theorem drafted_factored : (factored one two three).drafted store.globals (.stage 0) [] =
      .ok (.grammar (Sketch.followedByGrammar ⟨first.kind, first.rule.blueprint⟩
        (Sketch.choice ⟨second.kind, second.rule.blueprint⟩ ⟨third.kind, third.rule.blueprint⟩))) ∧
    (distributed one two three).drafted store.globals (.stage 0) [] =
      .ok (.grammar (Sketch.choice
        (Sketch.followedByGrammar ⟨first.kind, first.rule.blueprint⟩ ⟨second.kind, second.rule.blueprint⟩)
        (Sketch.followedByGrammar ⟨first.kind, first.rule.blueprint⟩ ⟨third.kind, third.rule.blueprint⟩))) := by
  have drafts {name : String} {made : Grammar} (is : store.assigned? name = some (.grammar made)) :
      store.globals name = some (.grammar ⟨made.kind, made.rule.blueprint⟩) := globals_assigned is
  have lifted {α : Type} (answer : α) : (liftM (Except.ok answer : Except Fault α) : Drafting α) = pure answer := rfl
  have chosen (made other : Sketch) (same : made.kind = other.kind) : made.orElse (.grammar other) = .ok (made.choice other) := by
    simp only [Sketch.orElse, Draft.alternative, Draft.asAlternative, same, if_true]
    rfl
  constructor <;>
    simp only [Expression.drafted, Expression.draft, draftOf, drafts one_, drafts two_, drafts three_, Names.draft?, List.lookup_nil,
      Option.map_none, Option.none_or, pure_bind, Draft.asGrammar, lifted, Sketch.followedBy]
  · rw [chosen _ _ kinds]
    rfl
  · rw [chosen _ _ (by simp only [Sketch.followedByGrammar, Sketch.new, kinds])]
    rfl

theorem foretold_factored (text : Text) (start : Int) :
    foretold store (factored one two three) text start = foretold store (distributed one two three) text start := by
  obtain ⟨front, back⟩ := drafted_factored one_ two_ three_ kinds
  rw [foretold_drafted front, foretold_drafted back]
  have same := Blueprint.limit_factored store (fun _ => 0) 1 text start first.kind second.kind first.rule.blueprint
    second.rule.blueprint third.rule.blueprint
  rw [kinds] at same
  exact congrArg (fun ended => (text.checkOffset start).mapError Halt.fault >>= fun _ => ended) (kinds ▸ same)

end Drafts

/-- Two grammars that come to the same, apart from the names of grammars in faults. -/
def ComeAlike (store : Store) (subject other : Expression) (text : Text) (start : Int) : Prop :=
  ∀ outcome,
    (Comes store subject text start outcome →
      ∃ result, Comes store other text start result ∧ result.mapError Fault.unnamed = outcome.mapError Fault.unnamed) ∧
    (Comes store other text start outcome →
      ∃ result, Comes store subject text start result ∧ result.mapError Fault.unnamed = outcome.mapError Fault.unnamed)

section Held
variable {history : List Command} {allowed : String → Prop} {live : CellId → Prop}
  (held : Scene.Held ⟨Store.afterAll history, allowed, live⟩)
include held

/-- Of what is foretold to be the same, if all that is built is put together of grammars. -/
theorem comeAlike_of_foretold {subject other : Expression} (plain : subject.Plain allowed) (others : other.Plain allowed)
    {text : Text} {start : Int}
    (same : foretold (Store.afterAll history) subject text start = foretold (Store.afterAll history) other text start) :
    ComeAlike (Store.afterAll history) subject other text start :=
  fun _ => ⟨fun comes => Scene.comes_other held.founded_afterAll plain others comes (congrArg _ same),
    fun comes => Scene.comes_other held.founded_afterAll others plain comes (congrArg _ same.symm)⟩

/-- A grammar and a choice of two others come to the same as the choice of the sequences. -/
theorem factored_comes {one two three : String} {first second third : Grammar}
    (names : ∀ name ∈ [one, two, three], allowed name)
    (one_ : (Store.afterAll history).assigned? one = some (.grammar first))
    (two_ : (Store.afterAll history).assigned? two = some (.grammar second))
    (three_ : (Store.afterAll history).assigned? three = some (.grammar third)) (kinds : second.kind = third.kind)
    (text : Text) (start : Int) :
    ComeAlike (Store.afterAll history) (factored one two three) (distributed one two three) text start := by
  simp only [List.forall_mem_cons] at names
  obtain ⟨named, other, last, -⟩ := names
  have front : (factored one two three).Plain allowed := ⟨named, other, last⟩
  have back : (distributed one two three).Plain allowed := ⟨⟨named, other⟩, named, last⟩
  exact comeAlike_of_foretold held front back (foretold_factored one_ two_ three_ kinds text start)

/-- Alternatives at once come to the same as one after the other behind a grammar that comes to no match. -/
theorem oneByOne_comes {never : String} {names : List String} {made : Grammar} (allowed_ : ∀ name ∈ never :: names, allowed name)
    (is : (Store.afterAll history).assigned? never = some (.grammar made))
    (stand : ∀ name ∈ names, ∃ operand other, (Store.afterAll history).assigned? name = some operand ∧
      operand.Stands other ∧ other.kind = made.kind) {text : Text} {start : Int}
    (nowhere : Comes (Store.afterAll history) (.variable never) text start (.ok none)) :
    ComeAlike (Store.afterAll history) (.either made.kind (names.map .variable)) (oneByOne never names) text start := by
  obtain ⟨first, rest⟩ := List.forall_mem_cons.mp allowed_
  have plain : (Expression.variable never).Plain allowed := first
  have all : (Expression.either made.kind (names.map .variable)).Plain allowed := plain_alternatives rest
  exact comeAlike_of_foretold held all (plain_orElse rest plain)
    (foretold_oneByOne is stand ((Scene.comes_ok_iff held.founded_afterAll plain).mp nowhere))

end Held

/-- Grammars can be put together in another way. Three of them in sequence come to the same however they are
grouped, apart from how the pairs of three parsers nest, and so do choices, which are also made at once, or
one after the other behind what does not match and leaves all as it is. If all that is built is put together of
grammars, what does not match may build something as well, and a common first part of two alternatives can be
put in front of what follows it, apart from the names of grammars in faults. -/
theorem refactorings_agree :
    (∀ first second third left right : Grammar,
      (first.followedByGrammar second >>= (·.followedByGrammar third)).Yields left →
      (second.followedByGrammar third >>= first.followedByGrammar).Yields right → ∀ text start store,
        second.Fits first text start store →
        (first.kind = .pattern ∨ second.kind = .pattern ∨ third.kind = .pattern → ∀ outcome,
          left.rule.Gives text start store outcome ↔ right.rule.Gives text start store outcome) ∧
        (first.kind = .parser → second.kind = .parser → third.kind = .parser →
          (∀ fault, left.rule.Gives text start store (.error fault) ↔ right.rule.Gives text start store (.error fault)) ∧
          (left.rule.Gives text start store (.ok none) ↔ right.rule.Gives text start store (.ok none)) ∧
          ∀ found, left.rule.Gives text start store (.ok (some found)) ↔ ∃ x y z stop,
            found = .yielding (.tuple [.tuple [x, y], z]) stop ∧
              right.rule.Gives text start store (.ok (some (.yielding (.tuple [x, .tuple [y, z]]) stop))))) ∧
    (∀ first second third left right whole : Grammar,
      (first.orElse (.grammar second) >>= (·.orElse (.grammar third))).Yields left →
      (second.orElse (.grammar third) >>= fun rest => first.orElse (.grammar rest)).Yields right →
      (Grammar.either first.kind [.grammar first, .grammar second, .grammar third]).Yields whole → ∀ text start store outcome,
        (left.rule.Gives text start store outcome ↔ right.rule.Gives text start store outcome) ∧
          (left.rule.Gives text start store outcome ↔ whole.rule.Gives text start store outcome)) ∧
    (∀ (never whole folded : Grammar) (operands : List Operand), (Grammar.either never.kind operands).Yields whole →
      (operands.foldlM Grammar.orElse never).Yields folded → ∀ text start store, never.Never text start store →
        ∀ outcome, whole.rule.Gives text start store outcome ↔ folded.rule.Gives text start store outcome) ∧
    (∀ (history : List Command) (allowed : String → Prop) (live : CellId → Prop),
      Scene.Held ⟨Store.afterAll history, allowed, live⟩ → ∀ (never : String) (names : List String) (made : Grammar),
        (∀ name ∈ never :: names, allowed name) → (Store.afterAll history).assigned? never = some (.grammar made) →
        (∀ name ∈ names, ∃ operand other, (Store.afterAll history).assigned? name = some operand ∧ operand.Stands other ∧
          other.kind = made.kind) → ∀ text start, Comes (Store.afterAll history) (.variable never) text start (.ok none) →
        ComeAlike (Store.afterAll history) (.either made.kind (names.map .variable)) (oneByOne never names) text start) ∧
    ∀ (history : List Command) (allowed : String → Prop) (live : CellId → Prop),
      Scene.Held ⟨Store.afterAll history, allowed, live⟩ → ∀ (one two three : String) (first second third : Grammar),
        (∀ name ∈ [one, two, three], allowed name) → (Store.afterAll history).assigned? one = some (.grammar first) →
        (Store.afterAll history).assigned? two = some (.grammar second) →
        (Store.afterAll history).assigned? three = some (.grammar third) → second.kind = third.kind → ∀ text start,
          ComeAlike (Store.afterAll history) (factored one two three) (distributed one two three) text start :=
  ⟨fun _ _ _ _ _ lefts rights _ _ _ fits => Grammar.sequences_give fits lefts rights,
    fun _ _ _ _ _ _ lefts rights wholes _ _ _ outcome => Grammar.choices_give lefts rights wholes outcome,
    fun _ _ _ _ wholes folds _ _ _ nowhere outcome => Grammar.folded_gives nowhere wholes folds outcome,
    fun _ _ _ held _ _ _ names is stand _ _ nowhere => oneByOne_comes held names is stand nowhere,
    fun _ _ _ held _ _ _ _ _ _ names one two three kinds text start =>
      factored_comes held names one two three kinds text start⟩

theorem never_failure (kind : Kind) (tag : Tag) (traced : Bool) (text : Text) (start : Int) (store : Store) :
    Grammar.Never ⟨kind, tag, .object tag traced (.leaf Leaf.failure)⟩ text start store := by
  have leaf : (Rule.leaf Leaf.failure).Comes text start store (.ok none) store := by
    rw [Rule.comes_iff_step (by trivial)]
    rfl
  exact Mirrors.comes_object tag traced (.refl none store) leaf

/-- Brackets in a variable, and a word. -/
abbrev bracketsThenWord : List Command := [.assign "brackets" (pairs (some 2)), .assign "word" (.literal "b")]

set_option maxRecDepth 4096 in
theorem bracketsThenWord_assigned : (Store.afterAll bracketsThenWord).assigned =
    [("word", .grammar ⟨.pattern, 8, .object 8 false (.leaf (Leaf.literal "b"))⟩),
      ("brackets", .grammar ⟨.pattern, 7, .object 7 false (.recursive 0)⟩)] := by cbv

theorem bracketsThenWord_names :
    (Store.afterAll bracketsThenWord).assigned? "brackets" =
        some (.grammar ⟨.pattern, 7, .object 7 false (.recursive 0)⟩) ∧
      (Store.afterAll bracketsThenWord).assigned? "word" =
        some (.grammar ⟨.pattern, 8, .object 8 false (.leaf (Leaf.literal "b"))⟩) := by
  simp [Store.assigned?, bracketsThenWord_assigned, List.lookup]

set_option maxRecDepth 4096 in
theorem bracketsThenWord_held :
    Scene.Held ⟨Store.afterAll bracketsThenWord, fun name => name ∈ ["brackets", "word"], fun cell => cell = 0⟩ := by
  have size : (Store.afterAll bracketsThenWord).cells.size = 1 := by cbv
  have undefined : ((Store.afterAll bracketsThenWord).cellAt 0).definition = none := by cbv
  have builder : ((Store.afterAll bracketsThenWord).cellAt 0).builder =
      some ⟨fun _ => .finish ("(" + Expression.variable "single" + ")" ||| "()"),
        [("single", ⟨.pattern, 6, false, 0, false⟩)]⟩ := by cbv
  constructor
  · intro name operand named is
    obtain rfl | rfl : name = "brackets" ∨ name = "word" := by simpa using named
    · cases bracketsThenWord_names.1.symm.trans is
      exact (rfl : (0 : CellId) = 0)
    · cases bracketsThenWord_names.2.symm.trans is
      exact trivial
  · rintro _ rule rfl is
    rw [undefined] at is
    cases is
  · rintro _ rfl -
    refine ⟨_, builder, ?_, fun _ => rfl, ?_⟩
    · simp
    · exact fun _ => ⟨⟨⟨trivial, .inl rfl⟩, trivial⟩, trivial⟩
  · rintro _ rfl
    rw [size]
    exact Nat.one_pos
  · rintro _ rfl
    refine .here ?_
    rw [bracketsThenWord_assigned]
    simp [Operand.owned, Rule.owned]

set_option maxRecDepth 4096 in
theorem bracketsThenWord_factored : Comes (Store.afterAll bracketsThenWord) (factored "brackets" "brackets" "word")
    (Text.ofString "()b") 0 (.ok (some (.span 3))) := ⟨40, by cbv⟩

/-- A closing bracket in a variable, behind any number of opening ones. -/
abbrev closingInside : List Command :=
  [.assign "closing" (.fix .parser "closing" (.captured (.literal ")") ||| "(" + Expression.variable "closing") none)]

/-- The parser of it, whose builder has not been called yet. -/
abbrev closing : Grammar := ⟨.parser, 7, .object 7 false (.recursive 0)⟩

set_option maxRecDepth 4096 in
theorem assigned_closing : (Store.afterAll closingInside).assigned? "closing" = some (.grammar closing) := by cbv

/-- A parser of an opening bracket. -/
abbrev opening : Grammar := ⟨.parser, 0, .object 0 false (.captured .pattern (.leaf (Leaf.literal "(")))⟩

set_option maxRecDepth 4096 in
/-- Behind an opening bracket, the parser of a closing one has a value. -/
theorem closing_fits : closing.Fits opening (Text.ofString "(()b") 0 (Store.afterAll closingInside) := by
  obtain ⟨middle, opened, same⟩ : ∃ middle, opening.rule.Comes (Text.ofString "(()b") 0 (Store.afterAll closingInside)
      (.ok (some (.yielding (.str "(") 1))) middle ∧ (Store.afterAll closingInside).Agree none middle :=
    Rule.comes_of_run 20 (by cbv)
  obtain ⟨after, closed⟩ : ∃ after, closing.rule.Comes (Text.ofString "(()b") 1 (Store.afterAll closingInside)
      (.ok (some (.yielding (.str ")") 3))) after := ⟨_, 20, rfl⟩
  obtain ⟨_, closed, -⟩ := (Rule.limit_mirrors closing.rule _ 1).comes (known_anywhere _) same closed
  exact .of_comes opened rfl closed fun _ => rfl

set_option maxRecDepth 4096 in
/-- What is in brackets, and an empty value behind it. -/
theorem closing_gives : Rule.Gives (.object 7 false (.sequence .parser .parser opening.rule
      (.object 6 false (.sequence .parser .parser closing.rule (.object 0 false (.leaf (Leaf.pure .null)))))))
    (Text.ofString "(()b") 0 (Store.afterAll closingInside)
    (.ok (some (.yielding (.tuple [.str "(", .tuple [.str ")", .null]]) 3))) := ⟨_, 20, rfl⟩

set_option maxRecDepth 4096 in
/-- At a word there are no brackets, which is known as soon as they are built. -/
theorem bracketsThenWord_either :
    Comes (Store.afterAll bracketsThenWord) (.variable "brackets") (Text.ofString "b") 0 (.ok none) ∧
      Comes (Store.afterAll bracketsThenWord) (.either .pattern [.variable "word"]) (Text.ofString "b") 0 (.ok (some (.span 1))) :=
  ⟨⟨40, by cbv⟩, 40, by cbv⟩

/-- Brackets and an empty value in sequence, words at once and one after the other, also behind brackets in a
variable, and these in front of a choice. -/
theorem refactorings_agree_brackets :
    let text := Text.ofString "()b"
    let empty : Grammar := ⟨.parser, 0, .object 0 false (.leaf (Leaf.pure .null))⟩
    let never : Grammar := ⟨.pattern, 0, .object 0 false (.leaf Leaf.failure)⟩
    let word : Grammar := ⟨.pattern, 0, .object 0 false (.leaf (Leaf.literal "("))⟩
    let words := [Operand.raw (.str "a"), .raw (.str "(")]
    let names := ["brackets", "word"]
    (Store.afterAll closingInside).assigned? "closing" = some (.grammar closing) ∧
      closing.Fits opening (Text.ofString "(()b") 0 (Store.afterAll closingInside) ∧ never.Never text 0 .initial ∧
      Scene.Held ⟨Store.afterAll bracketsThenWord, (· ∈ names), (· = 0)⟩ ∧
      (∃ left, (opening.followedByGrammar closing >>= (·.followedByGrammar empty)).Yields left ∧
        left.rule.Gives (Text.ofString "(()b") 0 (Store.afterAll closingInside)
          (.ok (some (.yielding (.tuple [.tuple [.str "(", .str ")"], .null]) 3)))) ∧
      (∃ right, (word.orElse (.grammar never) >>= fun rest => never.orElse (.grammar rest)).Yields right ∧
        right.rule.Gives text 0 .initial (.ok (some (.span 1)))) ∧
      (∃ folded, (words.foldlM Grammar.orElse never).Yields folded ∧
        folded.rule.Gives text 0 .initial (.ok (some (.span 1)))) ∧
      (∃ result, Comes (Store.afterAll bracketsThenWord) (oneByOne "brackets" ["word"]) (Text.ofString "b") 0 result ∧
        result.mapError Fault.unnamed = .ok (some (.span 1))) ∧
      ∃ result, Comes (Store.afterAll bracketsThenWord) (distributed "brackets" "brackets" "word") text 0 result ∧
        result.mapError Fault.unnamed = .ok (some (.span 3)) := by
  intro text empty never word words names
  have nowhere : never.Never text 0 .initial := never_failure .pattern 0 false text 0 .initial
  obtain ⟨sequences, choices, folds, builds, factors⟩ := refactorings_agree
  have left : ∃ left, (never.orElse (.grammar word) >>= (·.orElse (.grammar never))).Yields left ∧
      left.rule.Gives text 0 .initial (.ok (some (.span 1))) := ⟨_, ⟨.initial, _, rfl⟩, _, 10, rfl⟩
  have whole : ∃ whole, (Grammar.either .pattern words).Yields whole ∧
      whole.rule.Gives text 0 .initial (.ok (some (.span 1))) := ⟨_, ⟨.initial, _, rfl⟩, _, 10, rfl⟩
  obtain ⟨_, choice, chosen⟩ := left
  obtain ⟨_, either, found⟩ := whole
  refine ⟨assigned_closing, closing_fits, nowhere, bracketsThenWord_held, ⟨_, ⟨.initial, _, rfl⟩, ?_⟩, ⟨_, ⟨.initial, _, rfl⟩, ?_⟩,
    ⟨_, ⟨.initial, _, rfl⟩, ?_⟩, ?_, ?_⟩
  · have tail : (closing.followedByGrammar empty >>= opening.followedByGrammar).Yields ⟨.parser, 7, _⟩ := ⟨.initial, _, rfl⟩
    exact (((sequences opening closing empty _ _ ⟨.initial, _, rfl⟩ tail _ 0 _ closing_fits).2 rfl rfl rfl).2.2 _).mpr
      ⟨_, _, _, _, rfl, closing_gives⟩
  · exact ((choices never word never _ _ _ choice ⟨.initial, _, rfl⟩ ⟨.initial, _, rfl⟩ text 0 .initial _).1).mp chosen
  · exact (folds never _ _ words either ⟨.initial, _, rfl⟩ text 0 .initial nowhere _).mp found
  · obtain ⟨brackets, word⟩ := bracketsThenWord_names
    have stand : ∀ name ∈ ["word"], ∃ operand other, (Store.afterAll bracketsThenWord).assigned? name = some operand ∧
        operand.Stands other ∧ other.kind = .pattern := by
      intro name member
      rw [List.mem_singleton.mp member]
      exact ⟨_, _, word, .grammar _, rfl⟩
    exact (builds bracketsThenWord _ _ bracketsThenWord_held "brackets" ["word"] _ (by simp) brackets stand _ 0
      bracketsThenWord_either.1 _).1 bracketsThenWord_either.2
  · have named := bracketsThenWord_names
    exact (factors bracketsThenWord _ _ bracketsThenWord_held "brackets" "brackets" "word" _ _ _ (by simp)
      named.1 named.1 named.2 rfl text 0 _).1 bracketsThenWord_factored

/-- What a grammar comes to after a history. -/
abbrev foundAfter (history : List Command) (subject : Expression) (text : String) : Except Halt Answer :=
  ((Command.matchPrefix subject (Text.ofString text) 0).perform.exec (Store.afterAll history)).1

set_option maxRecDepth 10000 in
/-- A builder that assigns a variable tells a first part that is run again from one that is not, and so does
the name of a grammar that is changed while it runs. A parser without a value is refused in different words. And
what never matches still has its builder called, which may assign a variable. -/
theorem refactorings_differ :
    let leaks := [.assign "shared" (.literal "a"), .assign "first" (.bind (.pure .null) fun _ => .captured (.variable "shared")),
      .assign "second" leaking, .assign "third" (.literal "a")]
    let renames := [.assign "word" (.literal ""),
      .assign "first" (.bind (.pure .null) fun _ => .captured (.named (.variable "word") "old")),
      .assign "second" (.bind (.pure .null) fun _ => .filter (.captured (.named (.variable "word") "new")) Value.Test.never),
      .assign "third" (.bind (.pure .null) fun _ => .times (.variable "word") (.int (-1)))]
    let valueless := [.assign "first" (.captured (.literal "a")), .assign "second" (.bind (.pure .null) fun _ => .literal "b"),
      .assign "third" (.literal "c")]
    let assigns := [.assign "shared" (.literal "a"), .assign "never" (.captured (.followedBy leaking (.constant .failure))),
      .assign "word" (.named (.bind (.pure .null) fun _ => .captured (.variable "shared")) "word")]
    (foundAfter leaks (factored "first" "second" "third") "aa" = .ok (.found (some (.yielding (.str "a") 2))) ∧
      foundAfter leaks (distributed "first" "second" "third") "aa" = .ok (.found none)) ∧
    (foundAfter renames (factored "first" "second" "third") "" = .error (.fault (.negativeTimes "new" (-1))) ∧
      foundAfter renames (distributed "first" "second" "third") "" = .error (.fault (.negativeTimes "old" (-1)))) ∧
    (foundAfter valueless (.followedBy (.followedBy (.variable "first") (.variable "second")) (.variable "third")) "ab" =
        .error (.fault (.missingMember "int" "value")) ∧
      foundAfter valueless (.followedBy (.variable "first") (.followedBy (.variable "second") (.variable "third"))) "ab" =
        .error (.fault (.missingMember "int" "end"))) ∧
    (foundAfter assigns (.either .parser [.variable "word"]) "a" = .ok (.found (some (.yielding (.str "a") 1))) ∧
      foundAfter assigns (.orElse (.variable "never") (.variable "word")) "a" = .ok (.found none)) := by
  refine ⟨⟨?_, ?_⟩, ⟨?_, ?_⟩, ⟨?_, ?_⟩, ?_, ?_⟩ <;> cbv

end Session

end TextGrammar
