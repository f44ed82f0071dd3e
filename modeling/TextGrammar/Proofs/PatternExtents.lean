import TextGrammar.Proofs.Foretelling
import TextGrammar.Proofs.LeafForms
import TextGrammar.Proofs.WholeTexts

/-! How much patterns take of what is left of a text. It is told from their blueprints, so that recursive
patterns are no different from others: what their definitions take is what they take. -/

namespace TextGrammar
open TextGrammar.Action Filter

namespace Blueprint
variable {base : Store} {text : Text} {blueprint first second : Blueprint} {rest after last : List Char}
  {left : Option (List Char)}

/-- A pattern that takes what is left of a text up to some other rest, or finds no match, whatever else
is under way. -/
def Takes (base : Store) (text : Text) (blueprint : Blueprint) (rest : List Char)
    (left : Option (List Char)) : Prop :=
  ∀ active stage, limit base active stage blueprint text (text.offsetOf rest) =
    .ok (left.map fun after => .span (text.offsetOf after))

namespace Takes

theorem of_step (takes : ∀ active stage, Player.step base (limit base) active stage blueprint text
    (text.offsetOf rest) = .ok (left.map fun after => .span (text.offsetOf after))) :
    blueprint.Takes base text rest left := by
  intro active stage
  rw [limit_eq_step, takes]

theorem object (takes : blueprint.Takes base text rest left) :
    (Blueprint.object blueprint).Takes base text rest left :=
  of_step takes

section Word
variable {word : String}

theorem literal (inside : word.toList ++ rest <:+ text.toList) :
    (Blueprint.leaf (Leaf.literal word)).Takes base text (word.toList ++ rest) (some rest) := by
  refine of_step fun active stage => ?_
  obtain ⟨before, parted⟩ := inside
  have found := Text.hasAt_offsetOf parted.symm word.toList
  rw [List.isPrefixOf_iff_prefix.mpr (List.prefix_append _ _)] at found
  have length : text.offsetOf (word.toList ++ rest) + word.toList.length = text.offsetOf rest := by
    rw [Text.offsetOf, Text.offsetOf, List.length_append]
    omega
  simp only [Player.step, Leaf.literal, Leaf.total, found, ↓reduceIte, length]
  rfl

theorem no_literal (absent : ¬word.toList <+: rest) (inside : rest <:+ text.toList) :
    (Blueprint.leaf (Leaf.literal word)).Takes base text rest none := by
  refine of_step fun active stage => ?_
  obtain ⟨before, parted⟩ := inside
  have found := Text.hasAt_offsetOf parted.symm word.toList
  rw [Bool.eq_false_iff.mpr (mt List.isPrefixOf_iff_prefix.mp absent)] at found
  simp only [Player.step, Leaf.literal, Leaf.total, found]
  rfl

end Word

theorem sequence_none (one : first.Takes base text rest none) :
    (Blueprint.sequence .pattern .pattern first second).Takes base text rest none := by
  refine of_step fun active stage => ?_
  simp only [Player.step, one active stage]
  rfl

theorem sequence (one : first.Takes base text rest (some after)) (two : second.Takes base text after left) :
    (Blueprint.sequence .pattern .pattern first second).Takes base text rest left := by
  refine of_step fun active stage => ?_
  simp only [Player.step, one active stage]
  change (limit base active stage second text (text.offsetOf after) >>= _) = _
  rw [two active stage]
  cases left <;> rfl

theorem orElse_next (one : first.Takes base text rest none) (two : second.Takes base text rest left) :
    (Blueprint.orElse first second).Takes base text rest left := by
  refine of_step fun active stage => ?_
  simp only [Player.step, one active stage]
  exact two active stage

theorem orElse_found (one : first.Takes base text rest (some after)) :
    (Blueprint.orElse first second).Takes base text rest (some after) := by
  refine of_step fun active stage => ?_
  simp only [Player.step, one active stage]
  rfl

theorem invoke {target : Target} (unlimited : target.limit base = none)
    (defined : target.definition base = .ok blueprint) (takes : blueprint.Takes base text rest left) :
    (Blueprint.invoke target).Takes base text rest left := by
  refine of_step fun active stage => ?_
  simp only [Player.step, defined, unlimited]
  exact takes _ _

end Takes

/-- What a pattern takes one time after the other, until it finds no match or nothing is left. -/
inductive Exhausts (base : Store) (text : Text) (blueprint : Blueprint) : List Char → List Char → Prop
  | stop {rest : List Char} : blueprint.Takes base text rest none → Exhausts base text blueprint rest rest
  | last {rest : List Char} : blueprint.Takes base text rest (some []) → Exhausts base text blueprint rest []
  | next {rest after last : List Char} : blueprint.Takes base text rest (some after) →
      after.length < rest.length → after ≠ [] → Exhausts base text blueprint after last →
        Exhausts base text blueprint rest last

theorem Exhausts.of_nil (exhausts : blueprint.Exhausts base text [] last) : last = [] := by
  cases exhausts with
  | stop | last => rfl
  | next _ shorter => exact absurd shorter (Nat.not_lt_zero _)

theorem Exhausts.repeatFrom (exhausts : blueprint.Exhausts base text rest last) (active : Key → Nat)
    (stage bound : Nat) (enough : rest.length < bound) (found : Array Match) :
    ∃ all, Player.repeatFrom (limit base active stage blueprint text) .pattern text.size bound
      (text.offsetOf rest) found = .ok (all, text.offsetOf last) := by
  induction exhausts generalizing bound found with
  | stop takes =>
    cases bound with
    | zero => omega
    | succ bound =>
      refine ⟨found, ?_⟩
      rw [Player.repeatFrom, takes active stage]
      rfl
  | last takes =>
    cases bound with
    | zero => omega
    | succ bound =>
      refine ⟨found.push (.span (text.offsetOf [])), ?_⟩
      rw [Player.repeatFrom, takes active stage]
      exact if_pos (.inr text.offsetOf_nil)
  | @next rest after last takes shorter goes _ ih =>
    cases bound with
    | zero => omega
    | succ bound =>
      obtain ⟨all, repeats⟩ := ih bound (by omega) (found.push (.span (text.offsetOf after)))
      refine ⟨all, ?_⟩
      have moved : ¬text.offsetOf after = text.offsetOf rest := mt Text.offsetOf_inj.mp (Nat.ne_of_lt shorter)
      have inside : ¬text.offsetOf after = text.size := mt Text.offsetOf_eq_size.mp goes
      rw [Player.repeatFrom, takes active stage]
      exact (if_neg (not_or.mpr ⟨moved, inside⟩)).trans repeats

namespace Takes

theorem oneOrMore_none (one : blueprint.Takes base text rest none) :
    (Blueprint.oneOrMore .pattern blueprint).Takes base text rest none := by
  refine of_step fun active stage => ?_
  simp only [Player.step, one active stage]
  rfl

theorem oneOrMore (one : blueprint.Takes base text rest (some after)) (shorter : after.length < rest.length)
    (exhausts : blueprint.Exhausts base text after last) :
    (Blueprint.oneOrMore .pattern blueprint).Takes base text rest (some last) := by
  refine of_step fun active stage => ?_
  have moved : ¬text.offsetOf after = text.offsetOf rest := mt Text.offsetOf_inj.mp (Nat.ne_of_lt shorter)
  simp only [Player.step, one active stage]
  change (if text.offsetOf after = text.offsetOf rest ∨ text.offsetOf after = text.size then _ else _) = _
  by_cases ended : after = []
  · subst ended
    rw [if_pos (.inr text.offsetOf_nil), exhausts.of_nil]
    rfl
  · have inside : ¬text.offsetOf after = text.size := mt Text.offsetOf_eq_size.mp ended
    obtain ⟨all, repeats⟩ := exhausts.repeatFrom active stage _ (text.rounds_offsetOf after)
      #[.span (text.offsetOf after)]
    rw [if_neg (not_or.mpr ⟨moved, inside⟩)]
    change (Player.repeatFrom (limit base active stage blueprint text) .pattern text.size
      (Runner.rounds text (text.offsetOf after)) (text.offsetOf after) _ >>= _) = _
    rw [repeats]
    rfl

end Takes

end Blueprint

/-- A scene with nothing in it. -/
def Scene.bare (base : Store) : Scene := ⟨base, fun _ => False, fun _ => False⟩

theorem Scene.bare_founded (history : List Command) :
    (bare (.afterAll history)).Founded (fun _ => 0) 0 (bare (.afterAll history)).cast (.afterAll history) := by
  have held : (bare (.afterAll history)).Held := ⟨nofun, nofun, nofun, nofun, nofun⟩
  exact held.founded_afterAll

/-- A pattern that takes some of a text takes the whole of it if nothing is left. -/
theorem Scene.playWhole_takes {base : Store} {fuel stage : Nat} {active : Key → Nat} {body : Blueprint}
    {text : Text} {left : Option (List Char)}
    (told : Blueprint.run base fuel active stage body text 0 =
      .ok (left.map fun after => .span (text.offsetOf after))) :
    (do return (← playWhole base fuel active stage ⟨.pattern, body⟩ text).any (·.2)) =
      Except.ok (decide (left = some [])) := by
  rw [playWhole, told]
  cases left with
  | none => rfl
  | some rest =>
    change Except.ok (text.offsetOf rest == text.size) = _
    by_cases ended : rest = []
    · simp [ended, Text.offsetOf_nil]
    · simp [ended, mt Text.offsetOf_eq_size.mp ended]

/-- A session decides by what a pattern takes of the whole text. -/
theorem Session.deciding_takes {history : List Command} {subject : Expression} {body : Blueprint} {text : Text}
    {left : Option (List Char)} (plain : subject.Plain fun _ => False)
    (drafted : subject.drafted (Store.afterAll history).globals (.stage 0) [] = .ok (.grammar ⟨.pattern, body⟩))
    (takes : body.Takes (.afterAll history) text text.toList left) :
    ∃ enough, ∀ fuel, enough ≤ fuel → ((deciding fuel subject text).exec (.afterAll history)).1 =
      .ok (decide (left = some [])) := by
  have limit := takes (fun _ => 0) 1
  rw [Text.offsetOf_toList] at limit
  have settles := Blueprint.limit_settles (.afterAll history) (fun _ => 0) 1 body text 0 (by rw [limit]; nofun)
  rw [limit] at settles
  obtain ⟨enough, same⟩ := eventually_atTop.mp settles
  refine ⟨enough, fun fuel least => ?_⟩
  have runs : (Scene.bare (.afterAll history)).Runs (fun _ => 0) 0 (Scene.bare (.afterAll history)).cast
      (deciding fuel subject text) (do
        let draft ← (subject.drafted (Store.afterAll history).globals (.stage 0) []).mapError .fault
        let sketch ← (draft.asGrammar "matches").mapError .fault
        return (← Scene.playWhole (.afterAll history) fuel (fun _ => 0) 1 sketch text).any (·.2)) :=
    .evaluatingPlain plain fun _ _ _ plays => .ofGrammar plays (fun _ _ made =>
      (Scene.runWhole_runs made fuel text).bind fun found => .pure (found.any (·.2))) _
  rw [drafted] at runs
  obtain ⟨result, after, further, ran, -, -, alike⟩ := runs _ (.refl _) _ (Scene.bare_founded history)
  rw [ran]
  apply Alike.of_ok
  rw [← Scene.playWhole_takes (same fuel least)]
  exact alike

end TextGrammar
