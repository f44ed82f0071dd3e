import TextGrammar.Proofs.Repetitions
import TextGrammar.Proofs.SeparatedItems

/-! How repetitions agree. Whether a grammar must match once makes no difference where it does. Items with
separators are an item and repeated ones. And of a pattern that comes to an answer from every offset, all
repetitions of repetitions end where the first one does. -/

namespace TextGrammar
open TextGrammar.Action

variable {made whole : Grammar} {text : Text} {known : Store → Prop} {store : Store} {start : Int}

theorem Action.exec_bind_congr {α β : Type} {first second : Action α} {before after : Store}
    (same : first.exec before = second.exec after) (next : α → Action β) :
    (first >>= next).exec before = (second >>= next).exec after := by
  rw [exec_bind, exec_bind, same]

/-- What goes on in the text, among some stores. -/
def Rule.Inside (rule : Rule) (text : Text) (known : Store → Prop) : Prop :=
  ∀ ⦃store start found after⦄, known store → 0 ≤ start → start ≤ (text.size : Int) →
    rule.Comes text start store (.ok (some found)) after → known after ∧ start ≤ found.stop ∧ found.stop ≤ text.size

namespace Rule.Inside
variable {rule : Rule} (inside : rule.Inside text known) (kind : Kind)
include inside

/-- How many rounds a loop is given makes no difference if they are enough for what is left of the text. -/
theorem exec_repeatFrom {bound more : Nat} (from_ : known store) (valid : 0 ≤ start) (before : start ≤ text.size)
    (enough : (text.size - start).toNat < bound) (enoughs : (text.size - start).toNat < more) (found : Array Match) :
    (Runner.repeatFrom (limit rule text) kind text.size bound start found).exec store =
      (Runner.repeatFrom (limit rule text) kind text.size more start found).exec store := by
  induction bound generalizing more store start found with
  | zero => omega
  | succ bound ih =>
    cases more with
    | zero => omega
    | succ more =>
      rw [Runner.repeatFrom, Runner.repeatFrom]
      rcases ended : (limit rule text start).exec store with ⟨halt | answer, after⟩
      · rw [exec_bind_error ended, exec_bind_error ended]
      · rw [exec_bind_ok ended, exec_bind_ok ended]
        cases answer with
        | none => rfl
        | some next =>
          obtain ⟨leads, later, ends⟩ := inside from_ valid before (comes_iff.mpr ended)
          dsimp only
          cases stopped : next.stopAs kind with
          | error fault => rfl
          | ok stop =>
            obtain ⟨-, rfl⟩ := Match.suits_of_stopAs stopped
            rw [exec_bind_ok (exec_ofExcept_ok _ _), exec_bind_ok (exec_ofExcept_ok _ _)]
            split
            next => rfl
            next open_ =>
              obtain ⟨moved, short⟩ := not_or.mp open_
              exact ih leads (Int.le_trans valid later) ends (by omega) (by omega) _

/-- What must match once does what need not, unless it does not match. -/
theorem exec_oneOrMore (from_ : known store) (valid : 0 ≤ start) (before : start ≤ text.size)
    (matched : ∀ after, (limit rule text start).exec store ≠ (.ok none, after)) :
    (Runner.step limit (.oneOrMore kind rule) text start).exec store =
      ((fun all => some (Match.collected kind all.1 all.2)) <$> loop kind rule text start #[]).exec store := by
  have enough := Runner.rounds_enough text start
  rw [loop, map_eq_pure_bind, Runner.step]
  generalize Runner.rounds text start = rounds at enough ⊢
  obtain ⟨bound, rfl⟩ : ∃ bound, rounds = bound + 1 := Nat.exists_eq_add_one_of_ne_zero (by omega)
  rw [Runner.repeatFrom, bind_assoc]
  rcases ended : (limit rule text start).exec store with ⟨halt | answer, after⟩
  · rw [exec_bind_error ended, exec_bind_error ended]
  · rw [exec_bind_ok ended, exec_bind_ok ended]
    cases answer with
    | none => exact absurd ended (matched after)
    | some first =>
      obtain ⟨leads, later, ends⟩ := inside from_ valid before (comes_iff.mpr ended)
      dsimp only
      rw [bind_assoc]
      cases stopped : first.stopAs kind with
      | error fault => rfl
      | ok stop =>
        obtain ⟨-, rfl⟩ := Match.suits_of_stopAs stopped
        rw [exec_bind_ok (exec_ofExcept_ok _ _), exec_bind_ok (exec_ofExcept_ok _ _)]
        split
        next => rfl
        next open_ =>
          obtain ⟨moved, short⟩ := not_or.mp open_
          have enoughs := Runner.rounds_enough text first.stop
          generalize Runner.rounds text first.stop = more at enoughs ⊢
          have less : (text.size - first.stop).toNat < bound := by omega
          exact exec_bind_congr (inside.exec_repeatFrom kind leads (Int.le_trans valid later) ends enoughs less #[first]) _

end Rule.Inside

/-- Where the repetition of something ends that is told by where it ends itself. -/
def reach (ends : Int → Option Int) (size start : Int) : Int :=
  match ends start with
  | none => start
  | some stop => if start < stop ∧ stop < size then reach ends size stop else stop
termination_by (size - start).toNat
decreasing_by omega

section Reach
variable {ends : Int → Option Int} {size : Int} (within : ∀ start, 0 ≤ start → start ≤ size → ∀ stop ∈ ends start, start ≤ stop ∧ stop ≤ size)

theorem reach_none (is : ends start = none) : reach ends size start = start := by
  rw [reach, is]

theorem reach_last {stop : Int} (is : ends start = some stop) (last : ¬(start < stop ∧ stop < size)) :
    reach ends size start = stop := by
  rw [reach, is]
  exact if_neg last

theorem reach_step {stop : Int} (is : ends start = some stop) (more : start < stop ∧ stop < size) :
    reach ends size start = reach ends size stop := by
  rw [reach, is]
  exact if_pos more

include within

theorem reach_within (valid : 0 ≤ start) (inside : start ≤ size) :
    start ≤ reach ends size start ∧ reach ends size start ≤ size := by
  induction start using reach.induct ends size with
  | case1 start is =>
    rw [reach_none is]
    exact ⟨Int.le_refl start, inside⟩
  | case2 start stop is more ih =>
    rw [reach_step is more]
    obtain ⟨later, before⟩ := ih (by omega) (by omega)
    exact ⟨by omega, before⟩
  | case3 start stop is last =>
    rw [reach_last is last]
    exact within start valid inside stop is

/-- A repetition goes on where its first round has ended. -/
theorem reach_after (valid : 0 ≤ start) (inside : start ≤ size) {stop : Int} (is : ends start = some stop) :
    reach ends size stop = reach ends size start := by
  obtain ⟨later, before⟩ := within start valid inside stop is
  by_cases more : start < stop ∧ stop < size
  · exact (reach_step is more).symm
  · rw [reach_last is more]
    rcases Int.lt_or_eq_of_le later with moved | rfl
    · have last := reach_within within (Int.le_trans valid later) before
      omega
    · exact reach_last is more

/-- Where a repetition has ended, another one takes nothing. -/
theorem reach_reach (valid : 0 ≤ start) (inside : start ≤ size) :
    reach ends size (reach ends size start) = reach ends size start := by
  induction start using reach.induct ends size with
  | case1 start is => rw [reach_none is, reach_none is]
  | case2 start stop is more ih =>
    rw [reach_step is more]
    exact ih (by omega) (by omega)
  | case3 start stop is last =>
    rw [reach_last is last, reach_after within valid inside is, reach_last is last]

/-- The repetition of a repetition ends where that does. -/
theorem reach_repeated {whole : Int → Option Int} (is : ∀ start, whole start = some (reach ends size start)) (valid : 0 ≤ start)
    (inside : start ≤ size) : reach whole size start = reach ends size start := by
  by_cases more : start < reach ends size start ∧ reach ends size start < size
  · have again := (is _).trans (congrArg some (reach_reach within valid inside))
    rw [reach_step (is start) more, reach_last again (by omega)]
  · exact reach_last (is start) more

omit within in
/-- Nor does it matter whether the rounds must match. -/
theorem reach_optional {whole : Int → Option Int} (is : ∀ start, whole start = some ((ends start).getD start)) (start : Int) :
    reach whole size start = reach ends size start := by
  induction start using reach.induct ends size with
  | case1 start none =>
    have found := is start
    rw [none, Option.getD_none] at found
    rw [reach_none none, reach_last found (by omega)]
  | case2 start stop some more ih =>
    have found := is start
    rw [some, Option.getD_some] at found
    rw [reach_step some more, reach_step found more, ih]
  | case3 start stop some last =>
    have found := is start
    rw [some, Option.getD_some] at found
    rw [reach_last some last, reach_last found last]

end Reach

/-- A rule that comes to an answer from every offset, in stores among which it stays. Where it ends is told
by where it starts. -/
def Rule.Spans (rule : Rule) (text : Text) (known : Store → Prop) (ends : Int → Option Int) : Prop :=
  ∀ ⦃store start⦄, store.Known known → 0 ≤ start → start ≤ (text.size : Int) →
    ∃ found after, rule.Comes text start store (.ok found) after ∧ after.Known known ∧ found.map Match.stop = ends start ∧
      ∀ stop ∈ ends start, start ≤ stop ∧ stop ≤ (text.size : Int)

namespace Rule.Spans
variable {rule : Rule} {ends : Int → Option Int} (spans : rule.Spans text known ends)
include spans

theorem within (from_ : store.Known known) (start : Int) (valid : 0 ≤ start) (before : start ≤ text.size) :
    ∀ stop ∈ ends start, start ≤ stop ∧ stop ≤ (text.size : Int) := by
  obtain ⟨-, -, -, -, -, within⟩ := spans from_ valid before
  exact within

theorem congr {others : Int → Option Int} (same : ∀ start, 0 ≤ start → start ≤ (text.size : Int) → ends start = others start) :
    rule.Spans text known others := by
  intro store start from_ valid before
  rw [← same start valid before]
  exact spans from_ valid before

theorem object (tag : Tag) (traced : Bool) : (Rule.object tag traced rule).Spans text known ends := by
  intro store start from_ valid before
  obtain ⟨found, after, comes, leads, is, within⟩ := spans from_ valid before
  obtain ⟨final, comes, agree⟩ := Mirrors.comes_object tag traced (.refl none store) comes
  exact ⟨found, final, comes, leads.congr agree, is, within⟩

theorem calm (tag : Tag) : Grammar.Calm ⟨.pattern, tag, rule⟩ text (Store.Known known) := by
  intro store start from_ valid before
  obtain ⟨found, after, comes, leads, is, within⟩ := spans from_ valid before
  refine ⟨found, after, comes, leads, fun one member => ⟨.pattern _, within one.stop ?_⟩⟩
  rw [← is]
  exact Option.mem_map_of_mem Match.stop member

theorem inside : rule.Inside text (Store.Known known) := by
  intro store start one final from_ valid before comes
  obtain ⟨found, after, again, leads, is, within⟩ := spans from_ valid before
  obtain ⟨same, rfl⟩ := comes.unique again
  cases same
  exact ⟨leads, within one.stop is.symm⟩

/-- A chain of such runs ends where the repetition does. -/
theorem chain_reach {tag : Tag} {all : List Match} {stop : Int} (chain : Grammar.Chain ⟨.pattern, tag, rule⟩ text store start all stop)
    (from_ : store.Known known) (valid : 0 ≤ start) (before : start ≤ text.size) : stop = reach ends text.size start := by
  induction chain with
  | failed comes =>
    obtain ⟨found, after, again, -, is, -⟩ := spans from_ valid before
    cases (comes.unique again).1
    exact (reach_none is.symm).symm
  | last comes last =>
    obtain ⟨found, after, again, -, is, -⟩ := spans from_ valid before
    cases (comes.unique again).1
    exact (reach_last is.symm (by omega)).symm
  | step comes moved short _ ih =>
    obtain ⟨found, after, again, leads, is, within⟩ := spans from_ valid before
    obtain ⟨same, rfl⟩ := comes.unique again
    cases same
    obtain ⟨later, ends⟩ := within _ is.symm
    rw [ih leads (Int.le_trans valid later) ends, reach_step is.symm (by omega)]

theorem many (tag : Tag) : (Rule.many .pattern tag rule).Spans text known fun start => some (reach ends text.size start) := by
  intro store start from_ valid before
  obtain ⟨all, stop, chain, comes⟩ := (spans.calm tag).many from_ valid before
  obtain ⟨final, leads, comes⟩ := comes tag
  obtain ⟨later, ended, -⟩ := chain.bounds (spans.calm tag) from_ valid before
  obtain rfl := spans.chain_reach chain from_ valid before
  refine ⟨_, final, comes, leads.flatten, rfl, ?_⟩
  rintro _ ⟨⟩
  exact ⟨later, ended⟩

theorem optional : (Rule.optional .pattern rule).Spans text known fun start => some ((ends start).getD start) := by
  intro store start from_ valid before
  obtain ⟨found, after, comes, leads, is, within⟩ := spans from_ valid before
  have direct : (Rule.optional .pattern rule).Direct := trivial
  simp only [Rule.comes_iff_step direct]
  rw [← is] at within ⊢
  cases found with
  | none =>
    refine ⟨_, after, exec_bind_ok (comes_iff.mp comes), leads, rfl, ?_⟩
    rintro _ ⟨⟩
    exact ⟨Int.le_refl start, before⟩
  | some found => exact ⟨_, after, exec_bind_ok (comes_iff.mp comes), leads, rfl, within⟩

theorem oneOrMore : (Rule.oneOrMore .pattern rule).Spans text known fun start => (ends start).map fun _ => reach ends text.size start := by
  intro store start from_ valid before
  obtain ⟨found, after, comes, leads, is, within⟩ := spans from_ valid before
  have bounds := spans.within from_
  have direct : (Rule.oneOrMore .pattern rule).Direct := trivial
  simp only [Rule.comes_iff_step direct]
  cases found with
  | none =>
    rw [← is]
    exact ⟨none, after, exec_bind_ok (comes_iff.mp comes), leads, rfl, fun _ member => by cases member⟩
  | some first =>
    rw [← is, Option.map_some, Option.map_some]
    have once : (limit rule text start).exec store = (.ok (some first), after) := comes_iff.mp comes
    have same := spans.inside.exec_oneOrMore .pattern from_ valid before fun after none => by rw [once] at none; cases none
    obtain ⟨all, stop, chain, loops⟩ :=
      (spans.calm 0).repeatFrom (Runner.rounds text start) from_ valid before (Runner.rounds_enough text start)
    obtain ⟨final, leads, looped⟩ := loops #[] (.refl none store)
    obtain rfl := spans.chain_reach chain from_ valid before
    refine ⟨some (.collected .pattern (#[] ++ all.toArray) _), final, same.trans ?_, leads.flatten, rfl, ?_⟩
    · rw [map_eq_pure_bind]
      exact exec_bind_ok looped
    · rintro _ ⟨⟩
      exact reach_within bounds valid before

theorem sequence {rest : Rule} {later : Int → Option Int} (other : rest.Spans text known later) :
    (Rule.sequence .pattern .pattern rule rest).Spans text known fun start => (ends start).bind later := by
  intro store start from_ valid before
  obtain ⟨found, after, comes, leads, is, within⟩ := spans from_ valid before
  have direct : (Rule.sequence .pattern .pattern rule rest).Direct := trivial
  simp only [Rule.comes_iff_step direct]
  rw [← is] at within ⊢
  cases found with
  | none => exact ⟨none, after, exec_bind_ok (comes_iff.mp comes), leads, rfl, fun _ member => by cases member⟩
  | some found =>
    obtain ⟨onward, ended⟩ := within found.stop rfl
    obtain ⟨next, final, again, leads, are, further⟩ := other leads (Int.le_trans valid onward) ended
    refine ⟨next, final, ?_, leads, are, fun stop member => ?_⟩
    · rw [Runner.step, exec_bind_ok (comes_iff.mp comes)]
      have stopped : found.stopAs .pattern = .ok found.stop := rfl
      simp only [stopped]
      rw [exec_bind_ok (exec_ofExcept_ok _ _), exec_bind_ok (comes_iff.mp again)]
      cases next <;> rfl
    · obtain ⟨least, most⟩ := further stop member
      exact ⟨Int.le_trans onward least, most⟩

end Rule.Spans

namespace Grammar

theorem oneOrMore_yields (yields : made.oneOrMore.Yields whole) :
    ∃ tag traced, whole = ⟨made.kind, tag, .object tag traced (.oneOrMore made.kind made.rule)⟩ := by
  obtain ⟨before, after, is⟩ := yields
  cases is
  exact ⟨_, _, rfl⟩

theorem optional_yields (yields : made.optional.Yields whole) :
    ∃ tag traced, whole = ⟨made.kind, tag, .object tag traced (.optional made.kind made.rule)⟩ := by
  obtain ⟨before, after, is⟩ := yields
  cases is
  exact ⟨_, _, rfl⟩

theorem Regular.inside (regular : made.Regular text known) : made.rule.Inside text known :=
  fun _ _ _ _ from_ valid before comes => ⟨regular.stays from_ comes, regular.within from_ valid before comes⟩

/-- Where a pattern ends that comes to an answer from every offset. -/
def Tells (made : Grammar) (text : Text) (known : Store → Prop) (ends : Int → Option Int) : Prop :=
  ∀ ⦃store start⦄, known store → 0 ≤ start → start ≤ (text.size : Int) →
    ∃ found after, made.rule.Comes text start store (.ok found) after ∧ found.map Match.stop = ends start

theorem Regular.spans (regular : made.Regular text known) {ends : Int → Option Int} (tells : made.Tells text known ends) :
    made.rule.Spans text known ends := by
  rintro store start ⟨clean, holds, agree⟩ valid before
  obtain ⟨found, after, comes, is⟩ := tells holds valid before
  obtain ⟨final, again, alike⟩ := (Rule.limit_mirrors made.rule text start).comes (known_anywhere clean) agree comes
  refine ⟨found, final, again, ⟨after, regular.stays holds comes, alike⟩, is, fun stop member => ?_⟩
  rw [← is] at member
  obtain ⟨one, rfl, rfl⟩ := Option.map_eq_some_iff.mp member
  exact regular.within holds valid before comes

section Agreement
variable (regular : made.Regular text known) (from_ : known store) (valid : 0 ≤ start) (inside : start ≤ text.size)
include regular from_ valid inside

/-- What must match once fails where the grammar does, and otherwise does what need not match. -/
theorem Regular.oneOrMore_gives {again repeated : Grammar} (makes : made.oneOrMore.Yields again)
    (repeats : made.many.Yields repeated) :
    (made.rule.Gives text start store (.ok none) → again.rule.Gives text start store (.ok none)) ∧
      (¬made.rule.Gives text start store (.ok none) → ∀ outcome,
        again.rule.Gives text start store outcome ↔ repeated.rule.Gives text start store outcome) := by
  obtain ⟨tag, traced, rfl⟩ := oneOrMore_yields makes
  obtain ⟨other, logged, rfl⟩ := many_yields repeats
  have once outcome : (Rule.object tag traced (.oneOrMore made.kind made.rule)).Gives text start store outcome ↔
      (Runner.step Rule.limit (.oneOrMore made.kind made.rule) text start).Ends store outcome :=
    Rule.gives_iff.trans ((Rule.limit_object_step (by trivial)).ends_eq store outcome)
  have looped outcome : (Rule.object other logged (.many made.kind made.tag made.rule)).Gives text start store outcome ↔
      ((fun all => some (.collected made.kind all.1 all.2)) <$> Rule.loop made.kind made.rule text start #[]).Ends store outcome :=
    Rule.gives_iff.trans ((Rule.limit_many made.kind made.tag other logged made.rule).ends_eq store outcome)
  refine ⟨fun none => ?_, fun matched outcome => ?_⟩
  · obtain ⟨after, comes⟩ := none
    exact (once _).mpr ⟨after, exec_bind_ok (Rule.comes_iff.mp comes)⟩
  · have same := regular.inside.exec_oneOrMore made.kind from_ valid inside fun after none => matched ⟨after, Rule.comes_iff.mpr none⟩
    rw [once, looped, Action.Ends, same]
    rfl

omit valid inside in
/-- Items with separators come to what an item and repeated separators and items do, apart from the values. -/
theorem Regular.separatedBy_gives {separator : Operand} {items : Grammar} (stays : separator.Stays text known)
    (makes : (made.separatedBy separator).Yields items) (consists : (made.itemsBetween separator).Yields whole)
    (outcome : Except Fault (Option Match)) :
    items.rule.Gives text start store outcome ↔ ∃ raw, whole.rule.Gives text start store raw ∧
      outcome = Option.map (Match.unseparated made.kind separator.standing) <$> raw := by
  obtain ⟨pattern, outer, tried, inner, traced, between, is⟩ := separatedBy_yields makes
  obtain ⟨stood, last, told, all, debug, item, around, logged, stands, standing, are⟩ := itemsBetween_yields consists
  have mirrors := separated_mirrors stands between stays regular inner around traced logged start outer last all item tried told debug
  rw [is, are, standing]
  simp only [Rule.gives_iff]
  exact mirrors.ends_iff (.of from_) outcome

end Agreement

section Patterns
variable (regular : made.Regular text known) (pattern : made.kind = .pattern) {ends : Int → Option Int}
  (tells : made.Tells text known ends)
include regular pattern tells

/-- However a pattern is repeated, it ends where the first repetition does. -/
theorem Regular.repetitions_span {making : Action Grammar} (yields : making.Yields whole) (one : making ∈
      [made.many, made.many >>= many, made.optional >>= many, made.oneOrMore >>= optional]) (from_ : known store) :
    whole.rule.Spans text known fun start => some (reach ends text.size start) := by
  have spans := regular.spans tells
  have within := spans.within (.of from_)
  rcases made with ⟨kind, item, rule⟩
  obtain rfl := pattern
  simp only [List.mem_cons, List.not_mem_nil, or_false] at one
  rcases one with rfl | rfl | rfl | rfl
  · obtain ⟨tag, traced, rfl⟩ := many_yields yields
    exact (spans.many item).object tag traced
  · obtain ⟨first, once, yields⟩ := yields.bind
    obtain ⟨tag, traced, rfl⟩ := many_yields once
    obtain ⟨other, logged, rfl⟩ := many_yields yields
    refine (((spans.many item).object tag traced).many tag).object other logged |>.congr fun start valid before => ?_
    rw [reach_repeated within (fun _ => rfl) valid before]
  · obtain ⟨first, once, yields⟩ := yields.bind
    obtain ⟨tag, traced, rfl⟩ := optional_yields once
    obtain ⟨other, logged, rfl⟩ := many_yields yields
    refine ((spans.optional.object tag traced).many tag).object other logged |>.congr fun start _ _ => ?_
    rw [reach_optional fun _ => rfl]
  · obtain ⟨first, once, yields⟩ := yields.bind
    obtain ⟨tag, traced, rfl⟩ := oneOrMore_yields once
    obtain ⟨other, logged, rfl⟩ := optional_yields yields
    refine (spans.oneOrMore.object tag traced).optional.object other logged |>.congr fun start _ _ => ?_
    cases is : ends start with
    | none => exact congrArg some (reach_none is).symm
    | some stop => rfl

/-- A pattern that must match once ends where it does when it is followed by its repetition. -/
theorem Regular.followed_span {again followed : Grammar} (makes : made.oneOrMore.Yields again)
    (follows : (made.many >>= made.followedByGrammar).Yields followed) (from_ : known store) :
    let once (start : Int) := (ends start).map fun _ => reach ends text.size start
    again.rule.Spans text known once ∧ followed.rule.Spans text known once := by
  have spans := regular.spans tells
  have within := spans.within (.of from_)
  rcases made with ⟨kind, item, rule⟩
  obtain rfl := pattern
  obtain ⟨tag, traced, rfl⟩ := oneOrMore_yields makes
  obtain ⟨repeated, repeats, yields⟩ := follows.bind
  obtain ⟨other, logged, rfl⟩ := many_yields repeats
  obtain ⟨outer, tried, rfl⟩ := followedByGrammar_yields yields
  refine ⟨spans.oneOrMore.object tag traced, ?_⟩
  refine (spans.sequence ((spans.many item).object other logged)).object outer tried |>.congr fun start valid before => ?_
  cases is : ends start with
  | none => rfl
  | some stop => exact congrArg some (reach_after within valid before is)

end Patterns

/-- Repetitions agree with each other. What must match once fails where the grammar does, and otherwise comes
to whatever need not match comes to. Items with separators come to what an item and repeated separators and
items come to, with the first value in front of the others and without those of the separators. A pattern
that comes to an answer from every offset ends in the same place however it is repeated; and if it must
match once, where its repetition ends behind it. -/
theorem repetitions_agree (regular : made.Regular text known) (from_ : known store) (valid : 0 ≤ start) (inside : start ≤ text.size) :
    (∀ again repeated, made.oneOrMore.Yields again → made.many.Yields repeated →
      (made.rule.Gives text start store (.ok none) → again.rule.Gives text start store (.ok none)) ∧
        (¬made.rule.Gives text start store (.ok none) → ∀ outcome,
          again.rule.Gives text start store outcome ↔ repeated.rule.Gives text start store outcome)) ∧
      (∀ separator items whole, separator.Stays text known → (made.separatedBy separator).Yields items →
        (made.itemsBetween separator).Yields whole → ∀ outcome,
          items.rule.Gives text start store outcome ↔ ∃ raw, whole.rule.Gives text start store raw ∧
            outcome = Option.map (Match.unseparated made.kind separator.standing) <$> raw) ∧
      (made.kind = .pattern → ∀ ends, made.Tells text known ends →
        (∃ stop, ∀ making ∈ [made.many, made.many >>= many, made.optional >>= many, made.oneOrMore >>= optional],
          ∀ whole, making.Yields whole → ∃ found, whole.rule.Gives text start store (.ok (some found)) ∧ found.stop = stop) ∧
        ∀ again followed, made.oneOrMore.Yields again → (made.many >>= made.followedByGrammar).Yields followed →
          ∃ found next, again.rule.Gives text start store (.ok found) ∧ followed.rule.Gives text start store (.ok next) ∧
            found.map Match.stop = next.map Match.stop) := by
  refine ⟨fun again repeated makes repeats => regular.oneOrMore_gives from_ valid inside makes repeats,
    fun separator items whole stays makes consists => regular.separatedBy_gives from_ stays makes consists,
    fun pattern ends tells => ⟨⟨reach ends text.size start, fun making one whole yields => ?_⟩,
      fun again followed makes follows => ?_⟩⟩
  · have spans := regular.repetitions_span pattern tells yields one from_
    obtain ⟨found, after, comes, -, is, -⟩ := spans (.of from_) valid inside
    obtain ⟨found, rfl, same⟩ := Option.map_eq_some_iff.mp is
    exact ⟨found, ⟨after, comes⟩, same⟩
  · obtain ⟨one, two⟩ := regular.followed_span pattern tells makes follows from_
    obtain ⟨found, after, comes, -, is, -⟩ := one (.of from_) valid inside
    obtain ⟨next, final, again, -, are, -⟩ := two (.of from_) valid inside
    exact ⟨found, next, ⟨after, comes⟩, ⟨final, again⟩, is.trans are.symm⟩

/-- A leaf that goes on respects offsets, whatever the store is. -/
theorem regular_leaf {recognise : Leaf} {kind : Kind} {tag : Tag} {traced : Bool} (within : recognise.Within)
    (suits : ∀ start found, recognise text start = .ok (some found) → kind.Suits found.value) :
    Regular ⟨kind, tag, .object tag traced (.leaf recognise)⟩ text fun _ => True where
  stays _ _ _ _ _ _ := trivial
  suits store start found _ _ comes := by
    obtain ⟨_, again⟩ := comes_leaf recognise tag traced text start store
    exact suits start found (again.unique comes).1
  within store start found _ _ valid before comes := by
    obtain ⟨_, again⟩ := comes_leaf recognise tag traced text start store
    exact within text start found valid before (again.unique comes).1

/-- Words in a row, and words with commas between them. -/
theorem repetitions_agree_words :
    let text := Text.ofString "abab,ab"
    let word : Grammar := ⟨.pattern, 0, .object 0 false (.leaf (Leaf.literal "ab"))⟩
    let comma : Operand := .raw (.str ",")
    word.Regular text (fun _ => True) ∧ ∃ again repeated items whole twice, word.oneOrMore.Yields again ∧
      word.many.Yields repeated ∧ (word.separatedBy comma).Yields items ∧ (word.itemsBetween comma).Yields whole ∧
      (word.many >>= many).Yields twice ∧
      (∀ outcome, again.rule.Gives text 2 .initial outcome ↔ repeated.rule.Gives text 2 .initial outcome) ∧
      (∀ outcome, items.rule.Gives text 2 .initial outcome ↔ ∃ raw, whole.rule.Gives text 2 .initial raw ∧
        outcome = Option.map (Match.unseparated .pattern .pattern) <$> raw) ∧
      ∃ found, twice.rule.Gives text 2 .initial (.ok (some found)) := by
  intro text word comma
  have regular : word.Regular text fun _ => True := regular_leaf (Leaf.literal_within "ab") fun _ _ _ => .pattern _
  have tells : word.Tells text (fun _ => True) fun start => if text.hasAt "ab".toList start then some (start + 2) else none := by
    intro store start _ _ _
    obtain ⟨after, comes⟩ := comes_leaf (Leaf.literal "ab") 0 false text start store
    refine ⟨_, after, comes, ?_⟩
    rw [Option.map_map]
    exact Option.map_id'
  have found : Leaf.literal "ab" text 2 = .ok (some (.span 4)) := rfl
  have matched : ¬word.rule.Gives text 2 .initial (.ok none) := by
    rintro ⟨final, fails⟩
    obtain ⟨after, comes⟩ := comes_leaf (Leaf.literal "ab") 0 false text 2 .initial
    rw [found] at comes
    cases (fails.unique comes).1
  have stays : comma.Stays text fun _ => True := fun _ _ _ _ _ _ _ _ => trivial
  obtain ⟨once, separated, patterns⟩ :=
    repetitions_agree regular (trivial : (fun _ => True) Store.initial) (by decide : (0 : Int) ≤ 2) (by decide)
  obtain ⟨⟨stop, ends⟩, -⟩ := patterns rfl _ tells
  refine ⟨regular, _, _, _, _, _, ⟨.initial, _, rfl⟩, ⟨.initial, _, rfl⟩, ⟨.initial, _, rfl⟩, ⟨.initial, _, rfl⟩,
    ⟨.initial, _, rfl⟩, ?_, ?_, ?_⟩
  · exact (once _ _ ⟨.initial, _, rfl⟩ ⟨.initial, _, rfl⟩).2 matched
  · exact separated comma _ _ stays ⟨.initial, _, rfl⟩ ⟨.initial, _, rfl⟩
  · obtain ⟨found, gives, -⟩ := ends (word.many >>= many) (by simp) _ ⟨.initial, _, rfl⟩
    exact ⟨found, gives⟩

set_option maxRecDepth 10000 in
/-- Repetitions run a pattern where it has matched nothing before. If a builder has made a difference to what
it matches there, they go on, and end somewhere else than a single repetition. -/
theorem repetitions_differ :
    let text := Text.ofString "cb"
    ∃ made known once twice, (fickleSession false).assigned? "word" = some (.grammar made) ∧ made.kind = .pattern ∧
      made.Calm text known ∧ known (fickleSession false) ∧ made.many.Yields once ∧ (made.many >>= many).Yields twice ∧
      once.rule.Gives text 0 (fickleSession false) (.ok (some (.span 1))) ∧
      twice.rule.Gives text 0 (fickleSession false) (.ok (some (.span 2))) := by
  intro text
  let loop (tag inner : Tag) (rule : Rule) : Grammar := ⟨.pattern, tag, .object tag false (.many .pattern inner rule)⟩
  let once := loop 6 17 fickle.rule
  let twice := loop 7 6 once.rule
  obtain ⟨one, first, -⟩ : ∃ after, once.rule.Comes text 0 (fickleSession false) (.ok (some (.span 1))) after ∧
      (fickleSession true).Agree none after := Rule.comes_of_run 20 (by cbv)
  obtain ⟨two, second, -⟩ : ∃ after, twice.rule.Comes text 0 (fickleSession false) (.ok (some (.span 2))) after ∧
      (fickleSession true).Agree none after := Rule.comes_of_run 20 (by cbv)
  exact ⟨fickle, _, once, twice, assigned_fickle, rfl, calm_fickle, .of ⟨false, rfl⟩, ⟨.initial, _, rfl⟩, ⟨.initial, _, rfl⟩,
    ⟨one, first⟩, ⟨two, second⟩⟩

end Grammar

end TextGrammar
