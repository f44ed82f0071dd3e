import TextGrammar.Proofs.Answers
import TextGrammar.Proofs.MirroredRuns
import TextGrammar.Proofs.Offsets

/-! What repetitions consist of. A grammar that comes to an answer from every offset is run in a chain, each
time from the end of the match before. The chain ends where the grammar matches nothing, where it takes
nothing, and at the end of the text, and nowhere before. -/

namespace TextGrammar
open TextGrammar.Action

variable {made whole : Grammar} {text : Text} {known : Store → Prop}

/-- A grammar that comes to an answer from every offset, in stores among which its runs stay. What it
matches ends between its start and the end of the text, with a value if the grammar is a parser. -/
def Grammar.Calm (made : Grammar) (text : Text) (known : Store → Prop) : Prop :=
  ∀ ⦃store start⦄, known store → 0 ≤ start → start ≤ (text.size : Int) →
    ∃ found after, made.rule.Comes text start store (.ok found) after ∧ known after ∧
      ∀ one ∈ found, made.kind.Suits one.value ∧ start ≤ one.stop ∧ one.stop ≤ (text.size : Int)

/-- Runs of a grammar in a row: what they match, and where the last of them ends. -/
inductive Grammar.Chain (made : Grammar) (text : Text) : Store → Int → List Match → Int → Prop
  /-- The grammar matches nothing. -/
  | failed {store start after} : made.rule.Comes text start store (.ok none) after → Chain made text store start [] start
  /-- It takes nothing, or everything that is left. -/
  | last {store start found after} : made.rule.Comes text start store (.ok (some found)) after →
      found.stop = start ∨ found.stop = text.size → Chain made text store start [found] found.stop
  /-- It goes on, and there is more. -/
  | step {store start found after rest stop} : made.rule.Comes text start store (.ok (some found)) after →
      found.stop ≠ start → found.stop ≠ text.size → Chain made text after found.stop rest stop →
        Chain made text store start (found :: rest) stop

namespace Grammar.Chain
variable {store : Store} {start stop : Int} {all : List Match}

/-- There is one chain at most. -/
theorem unique (chain : made.Chain text store start all stop) {others : List Match} {last : Int}
    (other : made.Chain text store start others last) : others = all ∧ last = stop := by
  induction chain generalizing others last with
  | failed comes =>
    cases other with
    | failed => exact ⟨rfl, rfl⟩
    | last again | step again => cases (comes.unique again).1
  | last comes ends =>
    cases other with
    | failed again => cases (comes.unique again).1
    | last again =>
      cases (comes.unique again).1
      exact ⟨rfl, rfl⟩
    | step again moved short =>
      cases (comes.unique again).1
      rcases ends with ends | ends
      · exact absurd ends moved
      · exact absurd ends short
  | step comes moved short _ ih =>
    cases other with
    | failed again => cases (comes.unique again).1
    | last again ends =>
      cases (comes.unique again).1
      rcases ends with ends | ends
      · exact absurd ends moved
      · exact absurd ends short
    | step again _ _ rest =>
      obtain ⟨same, rfl⟩ := comes.unique again
      cases same
      obtain ⟨rfl, rfl⟩ := ih rest
      exact ⟨rfl, rfl⟩

section Calm
variable (calm : made.Calm text known)
include calm

/-- Where the run that ends a chain ends, if that is not at the end of the text. -/
theorem ended (chain : made.Chain text store start all stop) (from_ : known store) (valid : 0 ≤ start)
    (inside : start ≤ text.size) : stop = text.size ∨ ∃ last answer after, known last ∧
      made.rule.Comes text stop last (.ok answer) after ∧ ∀ one ∈ answer, one.stop = stop := by
  induction chain with
  | failed comes => exact .inr ⟨_, none, _, from_, comes, by simp⟩
  | last comes ends =>
    rcases ends with same | ends
    · refine .inr ⟨_, some _, _, from_, same ▸ comes, ?_⟩
      rintro _ ⟨⟩
      rfl
    · exact .inl ends
  | step comes moved short _ ih =>
    obtain ⟨found, after, again, leads, within⟩ := calm from_ valid inside
    obtain ⟨same, rfl⟩ := comes.unique again
    cases same
    obtain ⟨-, later, before⟩ := within _ rfl
    exact ih leads (Int.le_trans valid later) before

/-- A chain is no longer than the text, apart from a match that takes nothing. -/
theorem bounds (chain : made.Chain text store start all stop) (from_ : known store) (valid : 0 ≤ start)
    (inside : start ≤ text.size) : start ≤ stop ∧ stop ≤ text.size ∧ (all.length : Int) ≤ max 1 (text.size - start) ∧
      ∀ one ∈ all, made.kind.Suits one.value := by
  induction chain with
  | failed => exact ⟨Int.le_refl _, inside, by simp, by simp⟩
  | last comes =>
    obtain ⟨found, after, again, leads, within⟩ := calm from_ valid inside
    cases (comes.unique again).1
    obtain ⟨suits, later, before⟩ := within _ rfl
    exact ⟨later, before, Int.le_max_left _ _, List.forall_mem_singleton.mpr suits⟩
  | step comes moved short _ ih =>
    obtain ⟨found, after, again, leads, within⟩ := calm from_ valid inside
    obtain ⟨same, rfl⟩ := comes.unique again
    cases same
    obtain ⟨suits, later, before⟩ := within _ rfl
    obtain ⟨onward, ends, short, suited⟩ := ih leads (Int.le_trans valid later) before
    refine ⟨Int.le_trans later onward, ends, ?_, List.forall_mem_cons.mpr ⟨suits, suited⟩⟩
    rw [List.length_cons]
    omega

end Calm

end Grammar.Chain

namespace Grammar.Calm
variable (calm : made.Calm text known) {store : Store} {start : Int}
include calm

/-- The loop runs through the chain, as long as it has rounds left. -/
theorem repeatFrom (bound : Nat) (from_ : known store) (valid : 0 ≤ start) (inside : start ≤ text.size)
    (enough : (text.size - start).toNat < bound) :
    ∃ all stop, made.Chain text store start all stop ∧ ∀ found {other}, store.Agree none other →
      ∃ final, final.Known known ∧
        (Runner.repeatFrom (Rule.limit made.rule text) made.kind text.size bound start found).exec other =
          (.ok (found ++ all.toArray, stop), final) := by
  induction bound generalizing store start with
  | zero => omega
  | succ bound ih =>
    obtain ⟨answer, after, comes, leads, within⟩ := calm from_ valid inside
    have run {other} (agree : store.Agree none other) := (Rule.limit_mirrors made.rule text start).comes (known_anywhere _) agree comes
    cases answer with
    | none =>
      refine ⟨[], start, .failed comes, fun found other agree => ?_⟩
      obtain ⟨final, ran, agrees⟩ := run agree
      refine ⟨final, (Store.Known.of leads).congr agrees, ?_⟩
      rw [Runner.repeatFrom, exec_bind_ok (Rule.comes_iff.mp ran)]
      simp
    | some one =>
      obtain ⟨suits, later, before⟩ := within one rfl
      have stopped := Match.stopAs_of_suits suits
      by_cases ends : one.stop = start ∨ one.stop = text.size
      · refine ⟨[one], one.stop, .last comes ends, fun found other agree => ?_⟩
        obtain ⟨final, ran, agrees⟩ := run agree
        refine ⟨final, (Store.Known.of leads).congr agrees, ?_⟩
        rw [Runner.repeatFrom, exec_bind_ok (Rule.comes_iff.mp ran)]
        dsimp only
        rw [stopped, exec_bind_ok (exec_ofExcept_ok _ _), if_pos ends]
        simp
      · obtain ⟨moved, short⟩ := not_or.mp ends
        obtain ⟨all, stop, chain, loops⟩ := ih leads (Int.le_trans valid later) before (by omega)
        refine ⟨one :: all, stop, .step comes moved short chain, fun found other agree => ?_⟩
        obtain ⟨next, ran, agrees⟩ := run agree
        obtain ⟨final, is, looped⟩ := loops (found.push one) agrees
        refine ⟨final, is, ?_⟩
        rw [Runner.repeatFrom, exec_bind_ok (Rule.comes_iff.mp ran)]
        dsimp only
        rw [stopped, exec_bind_ok (exec_ofExcept_ok _ _), if_neg ends, looped]
        simp

/-- So what is matched as often as possible is what the chain has matched. -/
theorem many (from_ : known store) (valid : 0 ≤ start) (inside : start ≤ text.size) :
    ∃ all stop, made.Chain text store start all stop ∧ ∀ tag, ∃ final, final.Known known ∧
      (Rule.many made.kind tag made.rule).Comes text start store (.ok (some (.collected made.kind all.toArray stop))) final := by
  obtain ⟨all, stop, chain, loops⟩ :=
    calm.repeatFrom (Runner.rounds text start) from_ valid inside (Runner.rounds_enough text start)
  refine ⟨all, stop, chain, fun tag => ?_⟩
  obtain ⟨final, is, looped⟩ := loops #[] (.refl none store)
  rw [Array.empty_append] at looped
  have direct : (Rule.many made.kind tag made.rule).Direct := trivial
  simp only [Rule.comes_iff_step direct]
  rw [Runner.step, exec_bind_ok looped, exec_bind_ok (exec_get _)]
  dsimp only
  split
  · exact ⟨_, is.congr ((Store.Agree.refl none final).record_left _).symm, rfl⟩
  · exact ⟨_, is, rfl⟩

end Grammar.Calm

namespace Grammar

theorem exec_many {making makes : Store} (made : Grammar) (is : made.many.exec making = (.ok whole, makes)) :
    ∃ named traced, whole = ⟨made.kind, named, .object named traced (.many made.kind made.tag made.rule)⟩ := by
  cases is
  exact ⟨_, _, rfl⟩

/-- The values that a repetition has collected. -/
theorem collected_value {kind : Kind} {all : List Match} (stop : Int) (suits : ∀ one ∈ all, kind.Suits one.value) :
    (kind = .pattern → (Match.collected kind all.toArray stop).value = none) ∧
      (kind = .parser → ∃ values, all.map Match.value = values.map some ∧
        (Match.collected kind all.toArray stop).value = some (.list values)) := by
  cases kind with
  | pattern => exact ⟨fun _ => rfl, nofun⟩
  | parser =>
    refine ⟨nofun, fun _ => ⟨all.filterMap Match.value, ?_, rfl⟩⟩
    induction all with
    | nil => rfl
    | cons one rest ih =>
      obtain ⟨value, is⟩ := Option.isSome_iff_exists.mp (suits one List.mem_cons_self rfl)
      rw [List.map_cons, List.filterMap_cons_some is, List.map_cons, is,
        ih fun other member => suits other (List.mem_cons_of_mem _ member)]

/-- What is matched as often as possible is always found. It is the one chain of runs of the grammar, which
ends where the grammar matches nothing, where it takes nothing, and at the end of the text, and nowhere
before. It is no longer than the text, apart from a match that takes nothing; and unless it has come to the
end of the text, the grammar takes nothing where it has come to. -/
theorem many_chains (calm : made.Calm text known) {making makes : Store} (is : made.many.exec making = (.ok whole, makes))
    {store : Store} (from_ : known store) {start : Int} (valid : 0 ≤ start) (inside : start ≤ text.size) :
    ∃ all stop result after, made.Chain text store start all stop ∧
      (∀ others last, made.Chain text store start others last → others = all ∧ last = stop) ∧
      whole.rule.Comes text start store (.ok (some result)) after ∧ result.stop = stop ∧
      (made.kind = .pattern → result.value = none) ∧
      (made.kind = .parser → ∃ values, all.map Match.value = values.map some ∧ result.value = some (.list values)) ∧
      start ≤ stop ∧ stop ≤ text.size ∧ (all.length : Int) ≤ max 1 (text.size - start) ∧
      (stop ≠ text.size → ∀ answer, (∀ later, known later → ∃ final, made.rule.Comes text stop later (.ok answer) final) →
        ∀ one ∈ answer, one.stop = stop) := by
  obtain ⟨named, traced, rfl⟩ := exec_many made is
  obtain ⟨all, stop, chain, comes⟩ := calm.many from_ valid inside
  obtain ⟨final, -, comes⟩ := comes made.tag
  obtain ⟨after, comes, -⟩ := Mirrors.comes_object named traced (.refl none store) comes
  obtain ⟨later, before, short, suits⟩ := chain.bounds calm from_ valid inside
  obtain ⟨pattern, parser⟩ := collected_value stop suits
  refine ⟨all, stop, _, after, chain, fun others last other => chain.unique other, comes, ?_, pattern, parser, later,
    before, short, fun open_ answer always => ?_⟩
  · cases made.kind <;> rfl
  · obtain ends | ⟨last, found, final, leads, comes, same⟩ := chain.ended calm from_ valid inside
    · exact absurd ends open_
    · obtain ⟨_, again⟩ := always last leads
      cases (comes.unique again).1
      exact same

/-- What an object comes to that is made of a leaf. -/
theorem comes_leaf (recognise : Leaf) (tag : Tag) (traced : Bool) (text : Text) (start : Int) (store : Store) :
    ∃ after, (Rule.object tag traced (.leaf recognise)).Comes text start store (recognise text start) after := by
  have leaf : (Rule.leaf recognise).Comes text start store (recognise text start) store := by
    have direct : (Rule.leaf recognise).Direct := trivial
    rw [Rule.comes_iff_step direct, Runner.step]
    cases recognise text start <;> rfl
  obtain ⟨after, comes, -⟩ := Mirrors.comes_object tag traced (.refl none store) leaf
  exact ⟨after, comes⟩

/-- A leaf that answers from every offset is calm in all stores. -/
theorem calm_leaf {recognise : Leaf} {kind : Kind} {tag : Tag} {traced : Bool}
    (answers : ∀ start, 0 ≤ start → start ≤ (text.size : Int) → ∃ found, recognise text start = .ok found ∧
      ∀ one ∈ found, kind.Suits one.value ∧ start ≤ one.stop ∧ one.stop ≤ (text.size : Int)) :
    Calm ⟨kind, tag, .object tag traced (.leaf recognise)⟩ text fun _ => True := by
  intro store start _ valid inside
  obtain ⟨found, is, within⟩ := answers start valid inside
  obtain ⟨after, comes⟩ := comes_leaf recognise tag traced text start store
  rw [is] at comes
  exact ⟨found, after, comes, trivial, within⟩

/-- Two words and what is left of a third one. -/
theorem many_chains_words :
    let text := Text.ofString "ababa"
    let word : Grammar := ⟨.pattern, 0, .object 0 false (.leaf (Leaf.literal "ab"))⟩
    ∃ whole making, word.many.exec .initial = (.ok whole, making) ∧ word.Calm text (fun _ => True) ∧
      ∃ result after, whole.rule.Comes text 0 .initial (.ok (some result)) after ∧ result.stop = 4 := by
  intro text word
  have calm : word.Calm text fun _ => True := by
    refine calm_leaf fun start valid inside => ⟨_, rfl, fun one member => ⟨.pattern _, ?_⟩⟩
    exact Leaf.literal_within "ab" text start one valid inside (congrArg Except.ok member)
  obtain ⟨all, stop, result, after, -, unique, comes, same, -⟩ :=
    many_chains calm (rfl : word.many.exec .initial = _) (trivial : (fun _ => True) Store.initial) (Int.le_refl 0) (by decide)
  obtain ⟨one, first⟩ := comes_leaf (Leaf.literal "ab") 0 false text 0 .initial
  obtain ⟨two, second⟩ := comes_leaf (Leaf.literal "ab") 0 false text 2 one
  obtain ⟨_, third⟩ := comes_leaf (Leaf.literal "ab") 0 false text 4 two
  have chain : word.Chain text .initial 0 [.span 2, .span 4] 4 :=
    .step first (by decide) (by decide) (.step second (by decide) (by decide) (.failed third))
  refine ⟨_, _, rfl, calm, result, after, comes, same.trans (unique _ _ chain).2.symm⟩

/-- A grammar is calm in stores that agree with known ones if it is calm in those. -/
theorem calm_known (calm : ∀ ⦃store start⦄, known store → 0 ≤ start → start ≤ (text.size : Int) →
    ∃ found after, made.rule.Comes text start store (.ok found) after ∧ after.Known known ∧
      ∀ one ∈ found, made.kind.Suits one.value ∧ start ≤ one.stop ∧ one.stop ≤ (text.size : Int)) :
    made.Calm text (Store.Known known) := by
  rintro store start ⟨clean, is, agree⟩ valid inside
  obtain ⟨found, after, comes, leads, within⟩ := calm is valid inside
  obtain ⟨final, ran, same⟩ := (Rule.limit_mirrors made.rule text start).comes (known_anywhere _) agree comes
  exact ⟨found, final, ran, leads.congr same, within⟩

/-- Where there is no `c`, this runs what a variable holds. Then it has a builder called that assigns its
placeholder to the variable. -/
abbrev fickleWord : Expression :=
  .erased (.orElse (.captured (.literal "c")) (.orElse (.bind (.pure .null) fun _ => .variable "shared")
    (.followedBy
      (.recursive .parser "inner" none fun _ => .leak "shared" (.variable "inner") (.finish (.captured (.literal "b"))))
      (.constant .failure))))

/-- A session with that pattern, before its builder is called or afterwards. -/
abbrev fickleSession (resolved : Bool) : Store :=
  let kept := [.assign "shared" (.captured (.literal "a")), .assign "word" fickleWord]
  .afterAll (if resolved then kept ++ [.matchPrefix (.variable "word") (Text.ofString "b") 0] else kept)

/-- The pattern itself. -/
def fickle : Grammar :=
  ⟨.pattern, 17, .object 17 false (.erased (.object 16 false (.orElse
    (.object 9 false (.captured .pattern (.object 8 false (.leaf (Leaf.literal "c")))))
    (.object 15 false (.orElse
      (.object 11 false (.bind [] (fun _ => .variable "shared") (.object 10 false (.leaf (Leaf.pure .null)))))
      (.object 14 false (.sequence .parser .pattern (.object 13 false (.recursive 0)) (.object 2 false (.leaf Leaf.failure)))))))))⟩

set_option maxRecDepth 10000 in
theorem assigned_fickle : (fickleSession false).assigned? "word" = some (.grammar fickle) := by
  cbv

set_option maxRecDepth 10000 in
/-- It matches `b` from the second time on, and `c` always. -/
theorem fickle_comes (resolved : Bool) {start : Int} (valid : 0 ≤ start) (inside : start ≤ 2) :
    let found := if start = 0 then some (.span 1) else if start = 1 ∧ resolved then some (.span 2) else none
    ∃ final, fickle.rule.Comes (Text.ofString "cb") start (fickleSession resolved) (.ok found) final ∧
      (fickleSession (resolved || start ≠ 0)).Agree none final := by
  obtain rfl | rfl | rfl : start = 0 ∨ start = 1 ∨ start = 2 := by omega
  all_goals cases resolved <;> exact Rule.comes_of_run 20 (by cbv)

/-- So it is calm, although it does not always match the same. -/
theorem calm_fickle : fickle.Calm (Text.ofString "cb") (Store.Known fun store => ∃ resolved, store = fickleSession resolved) := by
  refine calm_known ?_
  rintro _ start ⟨resolved, rfl⟩ valid inside
  obtain ⟨final, comes, agree⟩ := fickle_comes resolved valid inside
  refine ⟨_, final, comes, (Store.Known.of ⟨_, rfl⟩).congr agree, fun one member => ⟨.pattern _, ?_⟩⟩
  split at member
  next first =>
    cases member
    subst first
    exact ⟨by decide, by decide⟩
  next =>
    split at member
    next second =>
      cases member
      obtain ⟨rfl, -⟩ := second
      exact ⟨by decide, by decide⟩
    next => cases member

set_option maxRecDepth 10000 in
/-- A chain may end within the text, and the pattern match more where it has ended, if a builder has made a
difference to what the pattern matches there. -/
theorem many_chains_resumed :
    let text := Text.ofString "cb"
    ∃ made known whole makes after final, (fickleSession false).assigned? "word" = some (.grammar made) ∧
      made.Calm text known ∧ known (fickleSession false) ∧ made.many.exec (fickleSession false) = (.ok whole, makes) ∧
      whole.rule.Comes text 0 (fickleSession false) (.ok (some (.span 1))) after ∧ known after ∧
      made.rule.Comes text 1 after (.ok (some (.span 2))) final := by
  intro text
  let whole : Grammar := ⟨.pattern, 18, .object 18 false (.many .pattern 17 fickle.rule)⟩
  obtain ⟨makes, made⟩ : ∃ makes, fickle.many.exec (fickleSession false) = (.ok whole, makes) :=
    ⟨(fickle.many.exec (fickleSession false)).2, Prod.ext (by cbv) (by rfl)⟩
  obtain ⟨after, comes, agree⟩ : ∃ after, whole.rule.Comes text 0 (fickleSession false) (.ok (some (.span 1))) after ∧
      (fickleSession true).Agree none after := Rule.comes_of_run 20 (by cbv)
  obtain ⟨_, again, -⟩ := fickle_comes true (by decide : (0 : Int) ≤ 1) (by decide)
  obtain ⟨final, more, -⟩ := (Rule.limit_mirrors fickle.rule text 1).comes (known_anywhere _) agree again
  exact ⟨fickle, _, whole, makes, after, final, assigned_fickle, calm_fickle, .of ⟨false, rfl⟩, made, comes,
    (Store.Known.of ⟨true, rfl⟩).congr agree, more⟩

end Grammar

end TextGrammar
