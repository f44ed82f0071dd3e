import Mathlib.Data.List.TFAE
import TextGrammar.Proofs.Foretelling
import TextGrammar.Proofs.RuleLimits
import TextGrammar.Proofs.WholeTexts

/-! The ways in which a caller asks what a parser makes of a whole text. Each of them runs a grammar from the start
of the text on, and each looks on its own whether the match ends where the text does. All that they tell is
determined by what the parser itself finds, so they agree. -/

namespace TextGrammar
open TextGrammar.Action

/-- A way to ask what a parser makes of a whole text. -/
inductive Way
  /-- Matches from the start of the text. -/
  | matchPrefix
  /-- Tells whether the whole text matches. -/
  | matchesAll
  /-- Tells whether it matches the pattern that the parser is without its value. -/
  | patternMatches
  /-- Matches the parser with the end of the text behind it. -/
  | matchFinished
  /-- Asks for the value of the whole text, or null. -/
  | parse
  /-- Asks for the value of the whole text, which must match. -/
  | parseOrFail

namespace Way

/-- What is asked: the parser itself, the pattern that it is without its value, or the parser with the end of the
text behind it. -/
def asked {α : Type} (itself plain ended : α) : Way → α
  | .patternMatches => plain
  | .matchFinished => ended
  | .matchPrefix | .matchesAll | .parse | .parseOrFail => itself

/-- The kind of what is asked. -/
def kind : Way → Kind := asked .parser .pattern .parser

/-- What a caller does who asks a grammar in this way. -/
def command (subject : Expression) (text : Text) : Way → Command
  | .matchPrefix | .matchFinished => .matchPrefix subject text 0
  | .matchesAll | .patternMatches => .matchesAll subject text
  | .parse => .parse subject text
  | .parseOrFail => .parseOrFail subject text

/-- Asks an operand in this way. -/
def askOf (runner : Runner) (operand : Operand) (text : Text) : Way → Action Answer
  | .matchPrefix | .matchFinished => .found <$> runner.matchFrom operand text 0
  | .matchesAll | .patternMatches => .decision <$> runner.matchesAll operand text
  | .parse => .value <$> runner.parse operand text
  | .parseOrFail => .value <$> runner.parseOrFail operand text

/-- Asks what an expression stands for, with a limit on the nesting of rules. -/
def ask (subject : Expression) (text : Text) (fuel : Nat) (way : Way) : Action Answer := do
  way.askOf (Rule.run fuel) (← Session.evaluate subject) text

/-- Sessions ask with a limit that is never reached. -/
theorem ask_ample (way : Way) (subject : Expression) (text : Text) :
    way.ask subject text ampleFuel = (way.command subject text).perform := by
  cases way <;> simp only [ask, askOf, command, Command.perform, map_eq_pure_bind] <;> rfl

/-- A grammar that is asked in this way replies so, with enough fuel. -/
def Comes (way : Way) (store : Store) (subject : Expression) (text : Text) (reply : Except Fault Answer) : Prop :=
  ∃ fuel, ((way.ask subject text fuel).exec store).1 = reply.mapError .fault

/-- What a command of a session replies, it comes to. -/
theorem comes_of_command {way : Way} {store : Store} {subject : Expression} {text : Text} {reply : Except Fault Answer}
    (replied : ((way.command subject text).perform.exec store).1 = reply.mapError .fault) :
    way.Comes store subject text reply :=
  ⟨ampleFuel, by rw [ask_ample, replied]⟩

/-- What the grammar that is asked finds where the parser finds this. -/
def found (size : Nat) (way : Way) : Option Match → Except Fault (Option Match)
  | none => return none
  | some found => asked
    (return some found)
    (do return some (.span (← found.stopAs .parser)))
    (do return if size ≤ (← found.stopAs .parser) then some found else none) way

/-- The match that is found, and whether it ends where a text of some size does. -/
def whole (size : Nat) (way : Way) : Option Match → Except Fault (Option (Match × Bool))
  | none => return none
  | some found => do return some (found, (← found.stopAs way.kind) == size)

/-- What is told of the match that is found, by a grammar of that name. -/
def told (size : Nat) (name : String) (way : Way) (found? : Option Match) : Except Fault Answer :=
  match way with
  | .matchPrefix | .matchFinished => return .found found?
  | .matchesAll | .patternMatches => do return .decision ((← way.whole size found?).any (·.2))
  | .parse => do
    match ← way.whole size found? with
    | some (found, true) => return .value (found.value.getD .null)
    | _ => return .value .null
  | .parseOrFail => do
    match ← way.whole size found? with
    | none => .error (.notMatched name)
    | some (found, true) => return .value (found.value.getD .null)
    | some (found, false) => .error (.partlyMatched name found.stop size)

/-- The reply to a way to ask, by what the parser finds. -/
def reply (size : Nat) (name : String) (outcome : Except Fault (Option Match)) (way : Way) : Except Fault Answer :=
  outcome >>= way.found size >>= way.told size name

/-- How the ways to ask agree about a text of some size, by what the parser finds from its start on. -/
structure Agree (size : Nat) (outcome : Except Fault (Option Match)) (replies : Way → Except Fault Answer) : Prop where
  matched : replies .matchPrefix = .found <$> outcome
  /-- What the parser is refused for, every way is refused for. -/
  raised : ∀ fault, outcome = .error fault → ∀ way, replies way = .error fault
  /-- A parser that hands on the match of a pattern finds a bare number, which has no end. -/
  bare : ∀ stop, outcome = .ok (some (.span stop)) → ∀ way, way ≠ .matchPrefix →
    replies way = .error (.missingMember "int" "end")
  /-- Whether the match ends where the text does is decided alike. -/
  decided : ∀ found?, outcome = .ok found? → (∀ found ∈ found?, found.value.isSome) →
    [replies .matchesAll = .ok (.decision true), replies .patternMatches = .ok (.decision true),
      ∃ found ∈ found?, found.stop = size, ∃ value, replies .parseOrFail = .ok (.value value)].TFAE
  /-- The end of the text is also behind a match that ends beyond it. -/
  finished : ∀ found?, outcome = .ok found? → (∀ found ∈ found?, found.value.isSome) →
    replies .matchFinished = .ok (.found (found?.filter (size ≤ ·.stop)))
  /-- So a match within the text has the end of the text behind it just if it ends there. -/
  within : ∀ found?, outcome = .ok found? → (∀ found ∈ found?, found.value.isSome ∧ found.stop ≤ size) →
    ((∃ found, replies .matchFinished = .ok (.found (some found))) ↔ replies .matchesAll = .ok (.decision true))
  /-- All ways that yield something yield the value of the match. -/
  yielded : ∀ value, outcome = .ok (some (.yielding value size)) →
    replies .parse = .ok (.value value) ∧ replies .parseOrFail = .ok (.value value) ∧
      replies .matchFinished = .ok (.found (some (.yielding value size)))
  /-- A match that ends elsewhere is told of to who insists on one. -/
  otherwise : ∀ found?, outcome = .ok found? → (∀ found ∈ found?, found.value.isSome ∧ found.stop ≠ size) →
    replies .matchesAll = .ok (.decision false) ∧ replies .patternMatches = .ok (.decision false) ∧
      replies .parse = .ok (.value .null) ∧ ∃ fault, replies .parseOrFail = .error fault ∧ fault.class = .noParse ∧
        fault.matchedEnd? = found?.map Match.stop

/-- What a match is replied with is what the parser finds. -/
theorem Agree.outcome_eq {size : Nat} {outcome : Except Fault (Option Match)} {replies : Way → Except Fault Answer}
    (agree : Agree size outcome replies) {found? : Option Match} (replied : replies .matchPrefix = .ok (.found found?)) :
    outcome = .ok found? := by
  have same := agree.matched.symm.trans replied
  cases outcome <;> cases same
  rfl

section Replies
variable (size : Nat) (name : Way → String) (value : Value) (stop : Int)

/-- What the ways to ask reply to, each in the name of the grammar that it asks. -/
abbrev repliesTo (outcome : Except Fault (Option Match)) (way : Way) : Except Fault Answer :=
  way.reply size (name way) outcome

theorem repliesTo_none :
    repliesTo size name (.ok none) .matchesAll = .ok (.decision false) ∧
      repliesTo size name (.ok none) .patternMatches = .ok (.decision false) ∧
      repliesTo size name (.ok none) .matchFinished = .ok (.found none) ∧
      repliesTo size name (.ok none) .parse = .ok (.value .null) ∧
      repliesTo size name (.ok none) .parseOrFail = .error (.notMatched (name .parseOrFail)) :=
  ⟨rfl, rfl, rfl, rfl, rfl⟩

/-- Where a parser ends its match can be told. -/
theorem whole_yielding (way : Way) :
    way.whole size (some (.yielding value stop)) = .ok (some (.yielding value stop, stop == size)) := by
  cases way <;> rfl

theorem repliesTo_some :
    repliesTo size name (.ok (some (.yielding value stop))) .matchesAll = .ok (.decision (stop == size)) ∧
      repliesTo size name (.ok (some (.yielding value stop))) .patternMatches = .ok (.decision (stop == size)) ∧
      repliesTo size name (.ok (some (.yielding value stop))) .matchFinished =
        .ok (.found ((some (.yielding value stop)).filter (size ≤ ·.stop))) ∧
      repliesTo size name (.ok (some (.yielding value stop))) .parse =
        .ok (.value (if stop == size then value else .null)) ∧
      repliesTo size name (.ok (some (.yielding value stop))) .parseOrFail =
        if stop == size then .ok (.value value) else .error (.partlyMatched (name .parseOrFail) stop size) := by
  have itself (way : Way) (asked : way = .parse ∨ way = .parseOrFail) :
      repliesTo size name (.ok (some (.yielding value stop))) way =
        way.told size (name way) (some (.yielding value stop)) := by
    obtain rfl | rfl := asked <;> rfl
  refine ⟨rfl, rfl, ?_, ?_, ?_⟩
  · change Except.ok (Answer.found (if size ≤ stop then some (Match.yielding value stop) else none)) = _
    by_cases reached : (size : Int) ≤ stop <;> simp [reached, Option.filter, Match.yielding]
  · rw [itself _ (.inl rfl)]
    simp only [told, whole_yielding]
    cases stop == size <;> rfl
  · rw [itself _ (.inr rfl)]
    simp only [told, whole_yielding]
    cases stop == size <;> rfl

end Replies

/-- What the parser finds decides what every way replies to. -/
theorem agree (size : Nat) (name : Way → String) (outcome : Except Fault (Option Match)) :
    Agree size outcome (repliesTo size name outcome) where
  matched := by rcases outcome with fault | _ | found <;> rfl
  raised := by
    rintro fault rfl way
    rfl
  bare := by
    rintro stop rfl way other
    cases way with
    | matchPrefix => exact absurd rfl other
    | _ => rfl
  decided := by
    rintro found? rfl valued
    refine List.tfae_of_forall (∃ found ∈ found?, found.stop = size) _ ?_
    rcases found? with _ | ⟨value?, stop⟩
    · simp [repliesTo_none]
    · obtain ⟨value, rfl⟩ := Option.isSome_iff_exists.mp (valued _ rfl)
      obtain ⟨decides, again, -, -, insists⟩ := repliesTo_some size name value stop
      simp only [Match.yielding] at decides again insists
      simp only [decides, again, insists]
      by_cases ends : stop = size <;> simp [ends]
  finished := by
    rintro found? rfl valued
    rcases found? with _ | ⟨value?, stop⟩
    · rfl
    · obtain ⟨value, rfl⟩ := Option.isSome_iff_exists.mp (valued _ rfl)
      exact (repliesTo_some size name value stop).2.2.1
  within := by
    rintro found? rfl inside
    rcases found? with _ | ⟨value?, stop⟩
    · simp [repliesTo_none]
    · obtain ⟨valued, short⟩ := inside _ rfl
      obtain ⟨value, rfl⟩ := Option.isSome_iff_exists.mp valued
      obtain ⟨decides, -, behind, -⟩ := repliesTo_some size name value stop
      simp only [Match.yielding] at decides behind short
      simp only [decides, behind]
      have ends : size ≤ stop ↔ stop = size := by omega
      simp [Option.filter_eq_some_iff, ends]
  yielded := by
    rintro value rfl
    obtain ⟨-, -, behind, yields, insists⟩ := repliesTo_some size name value size
    rw [behind, yields, insists]
    simp [Match.yielding, Option.filter]
  otherwise := by
    rintro found? rfl elsewhere
    rcases found? with _ | ⟨value?, stop⟩
    · exact ⟨rfl, rfl, rfl, _, rfl, rfl, rfl⟩
    · obtain ⟨valued, other⟩ := elsewhere _ rfl
      obtain ⟨value, rfl⟩ := Option.isSome_iff_exists.mp valued
      obtain ⟨decides, again, -, yields, insists⟩ := repliesTo_some size name value stop
      rw [beq_false_of_ne other] at decides again yields insists
      exact ⟨decides, again, yields, _, insists, rfl, rfl⟩

section Asking
variable {way : Way} {made : Grammar} {subject : Expression} {text : Text} {store next : Store} {runner : Runner}

theorem runWhole_eq (kind : made.kind = way.kind) : runner.runWhole made text = (do
    let found? ← runner.owning made.rule text 0
    ofExcept (way.whole text.size found?)) := by
  refine bind_congr fun found? => ?_
  cases found? with
  | none => rfl
  | some found =>
    simp only [whole, kind]
    cases found.stopAs way.kind <;> rfl

theorem asParser_eq (kind : made.kind = .parser) (member : String) :
    (Operand.grammar made).asParser member = pure made := by
  simp only [Operand.asParser, Operand.asGrammar, pure_bind, kind]

/-- Runs a grammar from the start of a text, and tells of what it finds. -/
def tell (runner : Runner) (made : Grammar) (text : Text) (way : Way) : Action Answer := do
  let found? ← runner.owning made.rule text 0
  ofExcept (way.told text.size (← nameOf made) found?)

/-- All that is told, in whichever way, is told of what the grammar finds from the start of the text on. -/
theorem askOf_grammar (kind : made.kind = way.kind) :
    way.askOf runner (.grammar made) text = way.tell runner made text := by
  have valid : text.checkOffset 0 = .ok () := by simp [Text.checkOffset]
  cases way with
  | matchPrefix | matchFinished =>
    rw [askOf, map_eq_pure_bind, Runner.matchFrom, valid]
    rfl
  | matchesAll | patternMatches =>
    simp only [askOf, map_eq_pure_bind, Runner.matchesAll, Operand.asGrammar, pure_bind, runWhole_eq kind, bind_assoc,
      tell, told]
    refine bind_congr fun found? => ?_
    cases whole text.size _ found? <;> rfl
  | parse =>
    simp only [askOf, map_eq_pure_bind, Runner.parse, asParser_eq kind, pure_bind, runWhole_eq kind, bind_assoc,
      tell, told]
    refine bind_congr fun found? => ?_
    rcases whole text.size _ found? with fault | _ | ⟨found, _ | _⟩ <;> rfl
  | parseOrFail =>
    simp only [askOf, map_eq_pure_bind, Runner.parseOrFail, asParser_eq kind, pure_bind, runWhole_eq kind, bind_assoc,
      tell, told]
    refine bind_congr fun found? => ?_
    rcases whole text.size _ found? with fault | _ | ⟨found, _ | _⟩ <;> rfl

/-- A whole text is matched from its start. -/
theorem exec_matching (evaluated : (subject.evaluate []).exec store = (.ok (.grammar made), next)) (fuel : Nat) :
    (Session.matching fuel subject text 0).exec store = (Runner.owning (Rule.run fuel) made.rule text 0).exec next := by
  have valid : text.checkOffset 0 = .ok () := by simp [Text.checkOffset]
  rw [Session.matching, Session.evaluate, exec_bind_ok evaluated, Runner.matchFrom, valid]
  rfl

/-- So a way to ask comes to something just if matching does, and what it comes to is told of that. -/
theorem exec_ask (evaluated : (subject.evaluate []).exec store = (.ok (.grammar made), next))
    (kind : made.kind = way.kind) (fuel : Nat) : ∃ name, ((way.ask subject text fuel).exec store).1 = (do
      let found? ← ((Session.matching fuel subject text 0).exec store).1
      (way.told text.size name found?).mapError .fault) := by
  rw [ask, Session.evaluate, exec_bind_ok evaluated, askOf_grammar kind, tell, exec_matching evaluated, exec_bind]
  rcases (Runner.owning (Rule.run fuel) made.rule text 0).exec next with ⟨halt | found?, after⟩
  · exact ⟨"", rfl⟩
  · refine ⟨after.nameOf made.tag, ?_⟩
    change ((ofExcept (way.told text.size (after.nameOf made.tag) found?)).exec after).1 = Except.mapError .fault _
    cases way.told text.size (after.nameOf made.tag) found? <;> rfl

/-- What a way to ask comes to is told of what matching comes to. -/
theorem comes_of_matching (evaluated : (subject.evaluate []).exec store = (.ok (.grammar made), next))
    (kind : made.kind = way.kind) {outcome : Except Fault (Option Match)}
    (comes : Session.Comes store subject text 0 outcome) :
    ∃ name, way.Comes store subject text (outcome >>= way.told text.size name) := by
  obtain ⟨fuel, ended⟩ := comes
  obtain ⟨name, told⟩ := exec_ask evaluated kind fuel
  refine ⟨name, fuel, ?_⟩
  rw [told, ended]
  cases outcome <;> rfl

/-- If a way to ask comes to something, so does matching. -/
theorem Comes.matching {reply : Except Fault Answer} (comes : way.Comes store subject text reply)
    (evaluated : (subject.evaluate []).exec store = (.ok (.grammar made), next)) (kind : made.kind = way.kind) :
    ∃ outcome, Session.Comes store subject text 0 outcome := by
  obtain ⟨fuel, replied⟩ := comes
  obtain ⟨name, told⟩ := exec_ask evaluated kind fuel
  rw [told] at replied
  cases ended : ((Session.matching fuel subject text 0).exec store).1 with
  | ok found? => exact ⟨.ok found?, fuel, ended⟩
  | error halt =>
    cases halt with
    | fault fault => exact ⟨.error fault, fuel, ended⟩
    | exhausted =>
      rw [ended] at replied
      cases reply <;> cases replied

/-- A run that owns its rule is not cut off any earlier than the run itself. -/
theorem owning_settles (rule : Rule) (start : Int) (fuel : Nat) :
    (Runner.owning (Rule.run fuel) rule text start).Settles fun _ => Runner.owning Rule.limit rule text start := by
  intro store finished
  rcases ran : (Rule.run fuel rule text start).exec (store.hold rule) with ⟨outcome, after⟩
  have owned : (Runner.owning (Rule.run fuel) rule text start).exec store = _ := Runner.exec_owning ran
  rw [owned] at finished ⊢
  have uncut : ((Rule.run fuel rule text start).exec (store.hold rule)).1 ≠ .error .exhausted := by
    rw [ran]
    exact finished
  have same := (Rule.run_settles_limit rule text start fuel).eq uncut
  exact .of_forall fun _ => Runner.exec_owning (same.trans ran)

/-- There is only one thing that a way to ask comes to. -/
theorem Comes.unique {reply other : Except Fault Answer} (one : way.Comes store subject text reply)
    (two : way.Comes store subject text other)
    (evaluated : (subject.evaluate []).exec store = (.ok (.grammar made), next)) (kind : made.kind = way.kind) : reply = other := by
  have told {reply : Except Fault Answer} (comes : way.Comes store subject text reply) :
      ((way.tell Rule.limit made text).exec next).1 = reply.mapError .fault := by
    obtain ⟨fuel, replied⟩ := comes
    rw [ask, Session.evaluate, exec_bind_ok evaluated, askOf_grammar kind] at replied
    have settles : (way.tell (Rule.run fuel) made text).Settles fun _ => way.tell Rule.limit made text :=
      (owning_settles made.rule 0 fuel).bind fun _ => .refl _
    have finished : ((way.tell (Rule.run fuel) made text).exec next).1 ≠ .error .exhausted := by
      rw [replied]
      cases reply <;> simp [Except.mapError]
    rw [settles.eq finished, replied]
  have same := (told one).symm.trans (told two)
  cases reply <;> cases other <;> cases same <;> rfl

end Asking

section Unnamed
variable {size : Nat} {name : String} {way : Way} {outcome raw : Except Fault (Option Match)}

theorem found_unnamed (found? : Option Match) :
    (way.found size found?).mapError Fault.unnamed = way.found size found? := by
  rcases found? with _ | ⟨_ | value, stop⟩ <;> cases way <;> rfl

/-- A grammar is named only to who insists on a match. -/
theorem told_unnamed (found? : Option Match) :
    (way.told size name found?).mapError Fault.unnamed = way.told size "" found? := by
  rcases found? with _ | ⟨_ | value, stop⟩
  · cases way <;> rfl
  · cases way <;> rfl
  · have whole := whole_yielding size value stop way
    simp only [Match.yielding] at whole
    cases way <;> simp only [told, whole] <;> cases stop == size <;> rfl

/-- What is told apart from names is told of what is found apart from names. -/
theorem reply_unnamed (same : outcome.mapError Fault.unnamed = (raw >>= way.found size).mapError Fault.unnamed) :
    (outcome >>= way.told size name).mapError Fault.unnamed = way.reply size "" (raw.mapError Fault.unnamed) := by
  have told : (outcome >>= way.told size name).mapError Fault.unnamed =
      outcome.mapError Fault.unnamed >>= way.told size "" := by
    cases outcome with
    | error fault => rfl
    | ok found? => exact told_unnamed found?
  have found : (raw >>= way.found size).mapError Fault.unnamed = raw.mapError Fault.unnamed >>= way.found size := by
    cases raw with
    | error fault => rfl
    | ok found? => exact found_unnamed found?
  rw [told, same, found, reply]

end Unnamed

section Agreement
variable {stores : Way → Store} {subjects : Way → Expression} {text : Text} {raw : Except Fault (Option Match)}
  (grammars : ∀ way, ∃ made next, ((subjects way).evaluate []).exec (stores way) = (.ok (.grammar made), next) ∧
    made.kind = way.kind)
include grammars

/-- What a way to ask comes to is all that it comes to. -/
theorem comes_iff_of {replies : Way → Except Fault Answer}
    (comes : ∀ way : Way, way.Comes (stores way) (subjects way) text (replies way)) (way : Way)
    (reply : Except Fault Answer) :
    way.Comes (stores way) (subjects way) text reply ↔ reply = replies way := by
  obtain ⟨made, next, evaluated, kind⟩ := grammars way
  exact ⟨fun other => other.unique (comes way) evaluated kind, fun same => same ▸ comes way⟩

/-- Ways to ask agree where what they ask finds what the parser finds. -/
theorem exists_agree
    (comes : ∀ way, Session.Comes (stores way) (subjects way) text 0 (raw >>= found text.size way)) :
    ∃ replies : Way → Except Fault Answer,
      (∀ (way : Way) reply, way.Comes (stores way) (subjects way) text reply ↔ reply = replies way) ∧
        Agree text.size raw replies := by
  have replies (way : Way) : ∃ name, way.Comes (stores way) (subjects way) text (way.reply text.size name raw) := by
    obtain ⟨made, next, evaluated, kind⟩ := grammars way
    exact comes_of_matching evaluated kind (comes way)
  choose name replies using replies
  exact ⟨_, comes_iff_of grammars replies, agree text.size name raw⟩

/-- The same apart from the names of grammars in faults. -/
theorem exists_agree_unnamed
    (comes : ∀ way, ∃ outcome, Session.Comes (stores way) (subjects way) text 0 outcome ∧
      outcome.mapError Fault.unnamed = (raw >>= found text.size way).mapError Fault.unnamed) :
    ∃ replies : Way → Except Fault Answer,
      (∀ (way : Way) reply, way.Comes (stores way) (subjects way) text reply ↔ reply = replies way) ∧
        Agree text.size (raw.mapError Fault.unnamed) fun way => (replies way).mapError Fault.unnamed := by
  have replies (way : Way) : ∃ reply, way.Comes (stores way) (subjects way) text reply ∧
      reply.mapError Fault.unnamed = way.reply text.size "" (raw.mapError Fault.unnamed) := by
    obtain ⟨made, next, evaluated, kind⟩ := grammars way
    obtain ⟨outcome, comes, same⟩ := comes way
    obtain ⟨name, replies⟩ := comes_of_matching evaluated kind comes
    exact ⟨_, replies, reply_unnamed same⟩
  choose replies comes same using replies
  refine ⟨replies, comes_iff_of grammars comes, ?_⟩
  simp only [same]
  exact agree text.size (fun _ => "") (raw.mapError Fault.unnamed)

end Agreement

end Way

end TextGrammar
