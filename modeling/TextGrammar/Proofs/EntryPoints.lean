import TextGrammar.Proofs.Heeding
import TextGrammar.Proofs.KeptGrammars
import TextGrammar.Proofs.LeftFactoring
import TextGrammar.Proofs.UnrolledRuns
import TextGrammar.Proofs.Ways

/-! A parser is asked in several ways what it makes of a whole text, by itself, as the pattern that it is without
its value, and with the end of the text behind it. From one and the same moment of a session on the ways agree
whatever builders do; asked one after the other they agree as long as nothing has been built in between that does
more than to put grammars together. -/

namespace TextGrammar
open TextGrammar.Action

variable {text : Text} {start : Int} {store : Store}

/-- A run comes to the same besides one rule as besides another one that owns the same. -/
theorem Rule.Gives.besides {rule one other : Rule} {outcome : Except Fault (Option Match)}
    (gives : rule.Gives text start (store.hold one) outcome) (same : other.owned = one.owned) :
    rule.Gives text start (store.hold other) outcome := by
  obtain ⟨after, fuel, ended⟩ := gives
  have running : (other :: store.running).map Rule.owned = (store.hold one).running.map Rule.owned :=
    congrArg (· :: store.running.map Rule.owned) same
  obtain ⟨-, amid⟩ := Runner.heeds_run fuel rule text start running
  rw [ended] at amid
  exact ⟨_, fuel, amid⟩

/-- What goes on without a store comes to what it makes of what there was before. -/
theorem Action.ends_bind_ofExcept {action : Action (Option Match)} {next : Option Match → Except Fault (Option Match)}
    {outcome : Except Fault (Option Match)} : (action >>= fun answer => ofExcept (next answer)).Ends store outcome ↔
      ∃ raw, action.Ends store raw ∧ outcome = raw >>= next := by
  constructor
  · rintro ⟨after, ended⟩
    rcases first : action.exec store with ⟨halt | answer, between⟩
    · rw [exec_bind_error first] at ended
      cases outcome with
      | ok answer => cases ended
      | error fault =>
        cases ended
        exact ⟨.error fault, ⟨_, first⟩, rfl⟩
    · rw [exec_bind_ok first] at ended
      refine ⟨.ok answer, ⟨between, first⟩, ?_⟩
      change outcome = next answer
      cases is : next answer <;> rw [is] at ended <;> cases outcome <;> cases ended <;> rfl
  · rintro ⟨raw, ⟨between, first⟩, rfl⟩
    refine ⟨between, ?_⟩
    cases raw with
    | error fault => exact exec_bind_error first
    | ok answer =>
      rw [exec_bind_ok first]
      change (ofExcept (next answer)).exec between = ((next answer).mapError Halt.fault, between)
      cases next answer <;> rfl

namespace Grammar
variable {made pattern sequence : Grammar}

theorem erased_yields (parser : made.kind = .parser) (yields : made.erased.Yields pattern) :
    ∃ tag traced, pattern = ⟨.pattern, tag, .object tag traced (.erased made.rule)⟩ := by
  obtain ⟨before, after, is⟩ := yields
  simp only [erased, ofParser, parser] at is
  cases is
  exact ⟨_, _, rfl⟩

end Grammar

/-- The end of the text is wherever no character is left. -/
theorem Leaf.finished_eq (text : Text) (start : Int) :
    finished text start = .ok (if text.size ≤ start then some (.span start) else none) := by
  by_cases reached : (text.size : Int) ≤ start <;> simp only [finished, total, reached, if_true, if_false] <;> rfl

namespace Rule

/-- A parser without its value finds what the parser finds, without the value. -/
theorem limit_erased (rule : Rule) (tag : Tag) (traced : Bool) :
    Mirrors anywhere Eq (limit (.object tag traced (.erased rule)) text start)
      (limit rule text start >>= fun found? => ofExcept (Way.patternMatches.found text.size found?)) := by
  have step : Runner.step limit (.erased rule) text start =
      limit rule text start >>= fun found? => ofExcept (Way.patternMatches.found text.size found?) := by
    refine bind_congr fun found? => ?_
    cases found? with
    | none => rfl
    | some found =>
      simp only [Way.found, Way.asked]
      cases found.stopAs .parser <;> rfl
  rw [← step]
  exact limit_object_step (by trivial)

/-- A parser with the end of the text behind it finds what the parser finds, if that ends there. -/
theorem limit_finished (rule : Rule) (tag : Tag) (traced : Bool) :
    Mirrors anywhere Eq
      (limit (.object tag traced (.sequence .parser .pattern rule Constant.finished.grammar.rule)) text start)
      (limit rule text start >>= fun found? => ofExcept (Way.matchFinished.found text.size found?)) := by
  refine Mirrors.before (limit_sequence tag traced start) ?_
  rw [past_eq_ended, bind_assoc]
  refine (limit_mirrors rule text start).bind fun found? _ same => same ▸ ?_
  rcases found? with _ | ⟨_ | value, stop⟩
  · exact .pure rfl
  · exact .fault _
  · change Mirrors anywhere Eq
      (limit Constant.finished.grammar.rule text stop >>= combined .parser .pattern ⟨some value, stop⟩)
      (pure (if text.size ≤ stop then some ⟨some value, stop⟩ else none))
    have behind : ofExcept (Leaf.finished text stop) >>= combined .parser .pattern ⟨some value, stop⟩ =
        pure (if text.size ≤ stop then some ⟨some value, stop⟩ else none) := by
      rw [Leaf.finished_eq]
      by_cases reached : (text.size : Int) ≤ stop <;> simp only [reached, if_true, if_false] <;> rfl
    rw [← behind]
    refine (limit_leaf Leaf.finished _ false).bind fun next _ same => same ▸ ?_
    exact combined_mirrors _ next

end Rule

theorem Blueprint.limit_erased (base : Store) (active : Key → Nat) (stage : Nat) (operand : Blueprint) :
    limit base active stage (.erased operand) text start = (do
      let some found ← limit base active stage operand text start | return none
      return some (.span (← (found.stopAs .parser).mapError .fault))) := by
  rw [limit_eq_step]
  rfl

namespace Way
variable {way : Way} {made pattern sequence : Grammar}

section Asked
variable (parser : made.kind = .parser) (plain : made.erased.Yields pattern)
  (ended : (made.followedByGrammar Constant.finished.grammar).Yields sequence) (way : Way)
include parser plain ended

theorem kind_asked : (way.asked made pattern sequence).kind = way.kind := by
  obtain ⟨tag, traced, rfl⟩ := Grammar.erased_yields parser plain
  obtain ⟨behind, logged, rfl⟩ := Grammar.followedByGrammar_yields ended
  cases way with
  | matchFinished => exact congrArg (Kind.joined · .pattern) parser
  | patternMatches => rfl
  | matchPrefix | matchesAll | parse | parseOrFail => exact parser

/-- What is asked owns the cells of the parser, and no others. -/
theorem owned_asked : (way.asked made pattern sequence).rule.owned = made.rule.owned := by
  obtain ⟨tag, traced, rfl⟩ := Grammar.erased_yields parser plain
  obtain ⟨behind, logged, rfl⟩ := Grammar.followedByGrammar_yields ended
  cases way with
  | matchFinished => exact List.append_nil _
  | matchPrefix | matchesAll | patternMatches | parse | parseOrFail => rfl

/-- What is asked does what the parser does, and then looks at what that has found. -/
theorem limit_asked (text : Text) (start : Int) :
    Mirrors anywhere Eq (Rule.limit (way.asked made pattern sequence).rule text start)
      (Rule.limit made.rule text start >>= fun found? => ofExcept (way.found text.size found?)) := by
  obtain ⟨tag, traced, rfl⟩ := Grammar.erased_yields parser plain
  obtain ⟨behind, logged, rfl⟩ := Grammar.followedByGrammar_yields ended
  cases way with
  | patternMatches => exact Rule.limit_erased made.rule tag traced
  | matchFinished =>
    rw [parser]
    exact Rule.limit_finished made.rule behind logged
  | matchPrefix | matchesAll | parse | parseOrFail =>
    change Mirrors anywhere Eq (Rule.limit made.rule text start) _
    rw [← bind_pure (Rule.limit made.rule text start), bind_assoc]
    refine (Rule.limit_mirrors made.rule text start).bind fun found? _ same => same ▸ ?_
    cases found? <;> exact .pure rfl

end Asked

section AtOnce
variable {name : String} {outcome : Except Fault (Option Match)}

theorem exec_variable {operand : Operand} (is : store.assigned? name = some operand) :
    (Expression.evaluate [] (.variable name)).exec store = (.ok operand, store) := by
  rw [Expression.evaluate, lookUp, List.lookup_nil, exec_bind_ok (exec_get store)]
  simp only [is]
  rfl

/-- To match what a variable holds is to run it besides what is running. -/
theorem comes_variable (is : store.assigned? name = some (.grammar made)) :
    Session.Comes store (.variable name) text 0 outcome ↔ made.rule.Gives text 0 (store.hold made.rule) outcome := by
  have ran fuel : ((Session.matching fuel (.variable name) text 0).exec store).1 =
      ((Rule.run fuel made.rule text 0).exec (store.hold made.rule)).1 := by
    rw [exec_matching (exec_variable is)]
    rfl
  constructor
  · rintro ⟨fuel, ended⟩
    rw [ran] at ended
    exact ⟨_, fuel, Prod.ext ended rfl⟩
  · rintro ⟨after, fuel, ended⟩
    exact ⟨fuel, by rw [ran, ended]⟩

/-- What is asked comes to what becomes of what the parser comes to, whichever of them is running. -/
theorem gives_asked (parser : made.kind = .parser) (plain : made.erased.Yields pattern)
    (ended : (made.followedByGrammar Constant.finished.grammar).Yields sequence) (way : Way) :
    (way.asked made pattern sequence).rule.Gives text 0 (store.hold (way.asked made pattern sequence).rule) outcome ↔
      ∃ raw, made.rule.Gives text 0 (store.hold made.rule) raw ∧ outcome = raw >>= way.found text.size := by
  have owned := owned_asked parser plain ended way
  have mirrors := limit_asked parser plain ended way text 0
  have besides (raw : Except Fault (Option Match)) :
      made.rule.Gives text 0 (store.hold (way.asked made pattern sequence).rule) raw ↔
        made.rule.Gives text 0 (store.hold made.rule) raw :=
    ⟨fun gives => gives.besides owned.symm, fun gives => gives.besides owned⟩
  simp only [← besides, Rule.gives_iff]
  exact (mirrors.ends_eq _ outcome).trans ends_bind_ofExcept

/-- If one of the ways to ask comes to something from some moment on, each of them does, and they agree. -/
theorem agree_at_once {itself plain ended : String} (parser : made.kind = .parser) (erased : made.erased.Yields pattern)
    (followed : (made.followedByGrammar Constant.finished.grammar).Yields sequence)
    (one : store.assigned? itself = some (.grammar made)) (two : store.assigned? plain = some (.grammar pattern))
    (three : store.assigned? ended = some (.grammar sequence)) {reply : Except Fault Answer}
    (comes : way.Comes store (.variable (way.asked itself plain ended)) text reply) :
    ∃ (outcome : Except Fault (Option Match)) (replies : Way → Except Fault Answer),
      (∀ (way : Way) reply, way.Comes store (.variable (way.asked itself plain ended)) text reply ↔
        reply = replies way) ∧ Agree text.size outcome replies := by
  have holds (way : Way) : store.assigned? (way.asked itself plain ended) =
      some (.grammar (way.asked made pattern sequence)) := by
    cases way <;> assumption
  have kind (way : Way) := kind_asked parser erased followed way
  obtain ⟨found, matched⟩ := comes.matching (exec_variable (holds way)) (kind way)
  obtain ⟨raw, gives, -⟩ := (gives_asked parser erased followed way).mp ((comes_variable (holds way)).mp matched)
  refine ⟨raw, exists_agree (fun way => ⟨_, _, exec_variable (holds way), kind way⟩) fun way => ?_⟩
  exact (comes_variable (holds way)).mpr ((gives_asked parser erased followed way).mpr ⟨raw, gives, rfl⟩)

end AtOnce

/-- What a caller writes who asks in this way. -/
abbrev written (subject : Expression) (way : Way) : Expression :=
  way.asked subject (.erased subject) (.sum subject (.constant .finished))

section Apart
variable {subject : Expression} {base : Store} {sketch : Sketch}

/-- What is asked is drafted around the parser. -/
theorem drafted_asked (drafted : subject.drafted base.globals (.stage 0) [] = .ok (.grammar sketch))
    (parser : sketch.kind = .parser) (way : Way) (text : Text) :
    ∃ body, (way.written subject).drafted base.globals (.stage 0) [] = .ok (.grammar ⟨way.kind, body⟩) ∧
      Blueprint.limit base (fun _ => 0) 1 body text 0 = (do
        let found? ← Blueprint.limit base (fun _ => 0) 1 sketch.body text 0
        (way.found text.size found?).mapError .fault) := by
  obtain ⟨_, body⟩ := sketch
  cases parser
  obtain ⟨count, ran⟩ : ∃ count, subject.draft base.globals (.stage 0) [] 0 =
      .ok (.grammar ⟨.parser, body⟩, count) := by
    change (Prod.fst <$> subject.draft base.globals (.stage 0) [] 0) = _ at drafted
    rcases ran : subject.draft base.globals (.stage 0) [] 0 with fault | ⟨draft, count⟩ <;> rw [ran] at drafted
    · cases drafted
    · cases drafted
      exact ⟨count, rfl⟩
  have wrapped {answer : Draft} {next : Draft → Drafting Draft}
      (goes : (next (.grammar ⟨.parser, body⟩)).run' count = .ok answer) :
      (subject.draft base.globals (.stage 0) [] >>= next).run' 0 = .ok answer := by
    change (Prod.fst <$> (subject.draft base.globals (.stage 0) [] 0 >>= fun pair => next pair.1 pair.2)) = _
    rw [ran]
    exact goes
  cases way with
  | patternMatches =>
    refine ⟨.object (.erased body), ?_, ?_⟩
    · simp only [written, asked, Expression.drafted, Expression.draft]
      exact wrapped rfl
    · rw [Blueprint.limit_object, Blueprint.limit_erased]
      rcases Blueprint.limit base (fun _ => 0) 1 body text 0 with halt | _ | ⟨_ | value, stop⟩ <;> rfl
  | matchFinished =>
    refine ⟨.object (.sequence .parser .pattern body (.object (.leaf Leaf.finished))), ?_, ?_⟩
    · simp only [written, asked, Expression.drafted, Expression.draft]
      exact wrapped rfl
    · rw [Blueprint.limit_object, Blueprint.limit_sequence]
      rcases Blueprint.limit base (fun _ => 0) 1 body text 0 with halt | _ | ⟨_ | value, stop⟩
      · rfl
      · rfl
      · rfl
      · change (do
          let some next ← Blueprint.limit base (fun _ => 0) 1 (.object (.leaf Leaf.finished)) text stop | return none
          return some (⟨some value, next.stop⟩ : Match)) =
            .ok (if text.size ≤ stop then some ⟨some value, stop⟩ else none)
        rw [Blueprint.limit_leaf, Leaf.finished_eq]
        by_cases reached : (text.size : Int) ≤ stop <;> simp only [reached, if_true, if_false] <;> rfl
  | matchPrefix | matchesAll | parse | parseOrFail =>
    refine ⟨body, drafted, ?_⟩
    rcases Blueprint.limit base (fun _ => 0) 1 body text 0 with halt | _ | found <;> rfl

/-- So matching what is asked is foretold by what becomes of what the parser is foretold to find. -/
theorem foretold_asked (drafted : subject.drafted base.globals (.stage 0) [] = .ok (.grammar sketch))
    (parser : sketch.kind = .parser) (way : Way) :
    Session.foretold base (way.written subject) text 0 = (do
      let found? ← Session.foretold base subject text 0
      (way.found text.size found?).mapError .fault) := by
  have valid : text.checkOffset 0 = .ok () := by simp [Text.checkOffset]
  obtain ⟨body, asked, same⟩ := drafted_asked drafted parser way text
  rw [Session.foretold, Session.foretold, asked, drafted, valid]
  exact same

theorem plain_written {known : String → Prop} (plain : subject.Plain known) (way : Way) :
    (way.written subject).Plain known := by
  cases way with
  | matchFinished => exact ⟨plain, trivial⟩
  | patternMatches | matchPrefix | matchesAll | parse | parseOrFail => exact plain

section Founded
variable {scene : Scene} {cast : Cast} {store : Store} (founded : scene.Founded (fun _ => 0) 0 cast store)
  (plain : subject.Plain scene.allowed) (drafted : subject.drafted scene.base.globals (.stage 0) [] = .ok (.grammar sketch))
  (parser : sketch.kind = .parser) (way : Way)
include founded plain drafted parser

theorem evaluated_written :
    ∃ made next, ((way.written subject).evaluate []).exec store = (.ok (.grammar made), next) ∧
      made.kind = way.kind := by
  obtain ⟨body, drafted, -⟩ := drafted_asked drafted parser way #[]
  obtain ⟨operand, evaluated, kind⟩ := Scene.evaluate_kind? founded (plain_written plain way) drafted
  cases operand with
  | raw value => cases kind
  | grammar made => exact ⟨made, _, Prod.ext evaluated rfl, Option.some.inj kind⟩

/-- If a way to ask comes to something, the parser is foretold to come to something. -/
theorem foretold_of_comes {reply : Except Fault Answer} (comes : way.Comes store (way.written subject) text reply) :
    ∃ raw : Except Fault (Option Match), Session.foretold scene.base subject text 0 = raw.mapError .fault := by
  obtain ⟨asked, next, evaluated, kind⟩ := evaluated_written founded plain drafted parser way
  obtain ⟨outcome, matched⟩ := comes.matching evaluated kind
  have finished := Scene.comes_finished founded (plain_written plain way) matched
  rw [foretold_asked drafted parser way] at finished
  generalize Session.foretold scene.base subject text 0 = foretold at finished ⊢
  rcases foretold with (fault | _) | found
  · exact ⟨.error fault, rfl⟩
  · exact absurd rfl finished
  · exact ⟨.ok found, rfl⟩

/-- What the parser is foretold to come to decides what matching comes to that is asked in some way. -/
theorem comes_of_foretold {raw : Except Fault (Option Match)}
    (foretold : Session.foretold scene.base subject text 0 = raw.mapError .fault) :
    ∃ outcome, Session.Comes store (way.written subject) text 0 outcome ∧
      outcome.mapError Fault.unnamed = (raw >>= way.found text.size).mapError Fault.unnamed := by
  have asked : Session.foretold scene.base (way.written subject) text 0 =
      (raw >>= way.found text.size).mapError .fault := by
    rw [foretold_asked drafted parser way, foretold]
    cases raw <;> rfl
  have ends := asked ▸ Session.Comes.finished (raw >>= way.found text.size)
  obtain ⟨outcome, comes⟩ := Scene.comes_of_foretold founded (plain_written plain way) ends
  have alike := Scene.comes_alike founded (plain_written plain way) comes
  rw [asked] at alike
  exact ⟨outcome, comes, alike.unnamed⟩

end Founded

/-- If one of the ways to ask comes to something, whatever has been run before, each of them does, and they agree,
apart from the names of grammars in faults. -/
theorem agree_apart {history : List Command} {allowed : String → Prop} {live : CellId → Prop}
    (held : Scene.Held ⟨Store.afterAll history, allowed, live⟩) (plain : subject.Plain allowed) {next : Store}
    (evaluated : (subject.evaluate []).exec (.afterAll history) = (.ok (.grammar made), next))
    (parser : made.kind = .parser) {runs : Way → List Command} (probes : ∀ way, ∀ run ∈ runs way, run.Probes allowed)
    {reply : Except Fault Answer}
    (comes : way.Comes (.afterAll (history ++ runs way)) (way.written subject) text reply) :
    ∃ (outcome : Except Fault (Option Match)) (replies : Way → Except Fault Answer),
      (∀ (way : Way) reply, way.Comes (.afterAll (history ++ runs way)) (way.written subject) text reply ↔
        reply = replies way) ∧ Agree text.size outcome fun way => (replies way).mapError Fault.unnamed := by
  let scene : Scene := ⟨Store.afterAll history, allowed, live⟩
  have founded : scene.Founded (fun _ => 0) 0 scene.cast (Store.afterAll history) := held.founded_afterAll
  obtain ⟨sketch, drafted, kind⟩ := Scene.drafted_of_evaluate founded plain evaluated
  rw [parser] at kind
  -- What is foretold is told from the history alone, so it is the same at every later moment.
  have later (way : Way) : ∃ further, scene.Founded (fun _ => 0) 0 further (.afterAll (history ++ runs way)) := by
    obtain ⟨further, -, founded⟩ := Scene.performAll_founded (probes way) founded
    rw [Store.afterAll_append]
    exact ⟨further, founded⟩
  choose further later using later
  obtain ⟨raw, foretold⟩ := foretold_of_comes (later way) plain drafted kind way comes
  exact ⟨raw.mapError Fault.unnamed, exists_agree_unnamed
    (fun way => evaluated_written (later way) plain drafted kind way)
    fun way => comes_of_foretold (later way) plain drafted kind way foretold⟩

end Apart

end Way

namespace Session

/-- The ways to ask what a parser makes of a whole text agree. From one and the same moment on they do whatever builders
do. Each at a moment of its own, with any runs before it, they do for a parser whose grammars are alive and whose
builders only put grammars together, apart from the names in faults that grammars may be given later on. -/
theorem ways_agree :
    (∀ (way : Way) (store : Store) (subject : Expression) (text : Text) (reply : Except Fault Answer),
      ((way.command subject text).perform.exec store).1 = reply.mapError .fault → way.Comes store subject text reply) ∧
    (∀ (store : Store) (itself plain ended : String) (made pattern sequence : Grammar) (text : Text),
      made.kind = .parser → made.erased.Yields pattern →
      (made.followedByGrammar Constant.finished.grammar).Yields sequence →
      store.assigned? itself = some (.grammar made) → store.assigned? plain = some (.grammar pattern) →
      store.assigned? ended = some (.grammar sequence) → ∀ (way : Way) (reply : Except Fault Answer),
      way.Comes store (.variable (way.asked itself plain ended)) text reply →
      ∃ (outcome : Except Fault (Option Match)) (replies : Way → Except Fault Answer),
        (∀ (way : Way) reply, way.Comes store (.variable (way.asked itself plain ended)) text reply ↔
          reply = replies way) ∧ Way.Agree text.size outcome replies) ∧
    ∀ (history : List Command) (allowed : String → Prop) (live : CellId → Prop) (subject : Expression) (made : Grammar)
      (next : Store) (runs : Way → List Command) (text : Text), Scene.Held ⟨Store.afterAll history, allowed, live⟩ →
      subject.Plain allowed → (subject.evaluate []).exec (.afterAll history) = (.ok (.grammar made), next) →
      made.kind = .parser → (∀ way, ∀ run ∈ runs way, run.Probes allowed) → ∀ (way : Way) (reply : Except Fault Answer),
      way.Comes (.afterAll (history ++ runs way)) (way.written subject) text reply →
      ∃ (outcome : Except Fault (Option Match)) (replies : Way → Except Fault Answer),
        (∀ (way : Way) reply, way.Comes (.afterAll (history ++ runs way)) (way.written subject) text reply ↔
          reply = replies way) ∧ Way.Agree text.size outcome fun way => (replies way).mapError Fault.unnamed :=
  ⟨fun _ _ _ _ _ replied => Way.comes_of_command replied,
    fun _ _ _ _ _ _ _ _ parser erased followed one two three _ _ comes =>
      Way.agree_at_once parser erased followed one two three comes,
    fun _ _ _ _ _ _ _ _ held plain evaluated parser probes _ _ comes =>
      Way.agree_apart held plain evaluated parser probes comes⟩

/-- A letter within brackets. -/
abbrev wrapped : Expression := "(" + Expression.variable "wrapped" + ")" ||| .captured (.literal "a")

abbrev wrappedOnce : List Command := [.assign "wrapped" (.fix .parser "wrapped" wrapped none)]

/-- The same as a pattern without a value, and with the end of the text behind it. -/
abbrev wrappedThrice : List Command := wrappedOnce ++ [
  .assign "plain" (.erased (.variable "wrapped")), .assign "ended" (.sum (.variable "wrapped") (.constant .finished))]

/-- The grammars in their variables. -/
abbrev wrappedAs : Way → Grammar :=
  let letter : Rule := .object 7 false (.recursive 0)
  Way.asked ⟨.parser, 7, letter⟩ ⟨.pattern, 8, .object 8 false (.erased letter)⟩
    ⟨.parser, 9, .object 9 false (.sequence .parser .pattern letter Constant.finished.grammar.rule)⟩

set_option maxRecDepth 4096 in
theorem wrapped_assigned : (Store.afterAll wrappedThrice).assigned =
    [("ended", .grammar (wrappedAs .matchFinished)), ("plain", .grammar (wrappedAs .patternMatches)),
      ("wrapped", .grammar (wrappedAs .matchPrefix))] := by cbv

theorem wrapped_assigned? (way : Way) : (Store.afterAll wrappedThrice).assigned?
    (way.asked "wrapped" "plain" "ended") = some (.grammar (wrappedAs way)) := by
  rw [Store.assigned?, wrapped_assigned]
  cases way <;> rfl

theorem wrapped_kept : (Store.afterAll wrappedOnce).Keeps "wrapped" .parser wrapped none 0 :=
  assign_keeps [] "wrapped" .parser wrapped rfl

set_option maxRecDepth 4096 in
/-- A letter within brackets, which is asked for from one moment on, and by each way after others. -/
theorem ways_agree_wrapped :
    let text := Text.ofString "(a)"
    let subject := Expression.variable "wrapped"
    let asked (way : Way) := Expression.variable (way.asked "wrapped" "plain" "ended")
    let runs (way : Way) := (way.asked [] [Way.matchPrefix, .parse] [.matchesAll]).map fun other : Way =>
      other.command (other.written subject) text
    let found : Match := .yielding (.str "a") 3
    (wrappedAs .matchPrefix).kind = .parser ∧ (wrappedAs .matchPrefix).erased.Yields (wrappedAs .patternMatches) ∧
      ((wrappedAs .matchPrefix).followedByGrammar Constant.finished.grammar).Yields (wrappedAs .matchFinished) ∧
      Scene.Held ⟨Store.afterAll wrappedOnce, (· = "wrapped"), (· = 0)⟩ ∧ subject.Plain (· = "wrapped") ∧
      (∀ way, ∀ run ∈ runs way, run.Probes (· = "wrapped")) ∧
      (∃ replies : Way → Except Fault Answer, (∀ (way : Way) reply,
        way.Comes (.afterAll wrappedThrice) (asked way) text reply ↔ reply = replies way) ∧
          Way.Agree 3 (.ok (some found)) replies) ∧
      ∃ replies : Way → Except Fault Answer, (∀ (way : Way) reply,
        way.Comes (.afterAll (wrappedOnce ++ runs way)) (way.written subject) text reply ↔ reply = replies way) ∧
          Way.Agree 3 (.ok (some found)) fun way => (replies way).mapError Fault.unnamed := by
  intro text subject asked runs found
  have parser : (wrappedAs .matchPrefix).kind = .parser := rfl
  have erased : (wrappedAs .matchPrefix).erased.Yields (wrappedAs .patternMatches) :=
    ⟨{ names := Array.replicate 8 "" }, _, rfl⟩
  have followed : ((wrappedAs .matchPrefix).followedByGrammar Constant.finished.grammar).Yields
      (wrappedAs .matchFinished) := ⟨{ names := Array.replicate 9 "" }, _, rfl⟩
  have plain : subject.Plain (· = "wrapped") := rfl
  have probes : ∀ way, ∀ run ∈ runs way, run.Probes (· = "wrapped") := by
    intro way run member
    obtain ⟨other, -, rfl⟩ := List.mem_map.mp member
    have written := Way.plain_written plain other
    cases other <;> exact written
  obtain ⟨commands, atOnce, apart⟩ := ways_agree
  have held := wrapped_kept.held ⟨⟨⟨trivial, rfl⟩, trivial⟩, trivial⟩
  refine ⟨parser, erased, followed, held, plain, probes, ?_, ?_⟩
  · have names := wrapped_assigned?
    have comes := commands .matchPrefix (.afterAll wrappedThrice) subject text (.ok (.found (some found))) (by cbv)
    obtain ⟨outcome, replies, replied, agree⟩ := atOnce _ "wrapped" "plain" "ended" _ _ _ text parser erased followed
      (names .matchPrefix) (names .patternMatches) (names .matchFinished) .matchPrefix _ comes
    obtain rfl := agree.outcome_eq ((replied _ _).mp comes).symm
    exact ⟨replies, replied, agree⟩
  · obtain ⟨tag, named, traced, assigned⟩ := wrapped_kept.assigned
    have comes := commands .matchPrefix (.afterAll wrappedOnce) subject text (.ok (.found (some found))) (by cbv)
    obtain ⟨outcome, replies, replied, agree⟩ := apart wrappedOnce _ _ subject _ _ runs text held plain
      (Way.exec_variable assigned) rfl probes .matchPrefix _ comes
    obtain rfl := agree.outcome_eq (congrArg (Except.mapError Fault.unnamed) ((replied _ _).mp comes).symm)
    exact ⟨replies, replied, agree⟩

set_option maxRecDepth 10000 in
/-- A builder that assigns a variable changes what is matched when it is asked again, and a binder that renames a
grammar changes what a refusal calls it. A match that ends beyond the text has its end behind it, but does not end there.
The match of a pattern that a parser hands on has no end to look at. -/
theorem ways_differ :
    let replied (history : List Command) (way : Way) (subject : Expression) (text : String) :=
      ((way.command (way.written subject) (Text.ofString text)).perform.exec (Store.afterAll history)).1
    let leaks := [.assign "shared" (.literal "a"),
      .assign "leaky" (.followedBy (.bind (.pure .null) fun _ => .captured (.variable "shared")) leaking)]
    let renames := [.assign "word" (.literal "a"), .assign "renaming" (.bind (.pure .null) fun _ =>
      .times (.sum (.sum (.variable "word") "b") (.named (.variable "word") "new")) (.int (-1)))]
    let overlong := Expression.bind (.pure (.tuple [.str "", .str "a"])) Follower.literalText
    let bare := Expression.bind (.pure .null) fun _ => .literal "a"
    (replied leaks .matchPrefix (.variable "leaky") "ab" = .ok (.found (some (.yielding (.str "a") 2))) ∧
      replied (leaks ++ [Way.matchPrefix.command (.variable "leaky") (Text.ofString "ab")]) .matchesAll
        (.variable "leaky") "ab" = .ok (.decision false)) ∧
    (replied renames .matchPrefix (.variable "renaming") "" =
        .error (.fault (.negativeTimes "(('a', 'b'), new)" (-1))) ∧
      replied (renames ++ [Way.matchPrefix.command (.variable "renaming") (Text.ofString "")]) .parse
        (.variable "renaming") "" = .error (.fault (.negativeTimes "((new, 'b'), new)" (-1)))) ∧
    (replied [] .matchesAll overlong "" = .ok (.decision false) ∧
      replied [] .matchFinished overlong "" = .ok (.found (some (.yielding (.str "") 2)))) ∧
    (replied [] .matchPrefix bare "a" = .ok (.found (some (.span 1))) ∧
      replied [] .matchesAll bare "a" = .error (.fault (.missingMember "int" "end"))) := by
  refine ⟨⟨?_, ?_⟩, ⟨?_, ?_⟩, ⟨?_, ?_⟩, ?_, ?_⟩ <;> cbv

end Session

end TextGrammar
