import Mathlib.Data.List.Forall2
import TextGrammar.Proofs.Comparison
import TextGrammar.Proofs.Limits

/-! Blueprints that run alike. Two of them are compared by two players, one of whom plays in the limit
and the other one with so much fuel: where neither is cut off, their matches are related and their
faults correspond. What runs alike does so inside whatever it is put into, and so do recursive
grammars whose definitions run alike as far as the grammars themselves do. -/

namespace TextGrammar

/-- The kind of a sequence of two grammars. -/
def Kind.andThen : Kind → Kind → Kind
  | .pattern, second => second
  | .parser, _ => .parser

/-- The one of two players whose fuel is limited. -/
inductive Side
  | first
  | second

namespace Side
variable (base : Store)

noncomputable def firstPlayer : Side → Nat → Player
  | .first, fuel => Blueprint.run base fuel
  | .second, _ => Blueprint.limit base

noncomputable def secondPlayer : Side → Nat → Player
  | .first, _ => Blueprint.limit base
  | .second, fuel => Blueprint.run base fuel

variable (side : Side) (fuel : Nat) (active : Key → Nat) (stage : Nat) (blueprint : Blueprint) (text : Text) (start : Int)

theorem firstPlayer_step : side.firstPlayer base (fuel + 1) active stage blueprint text start =
    Player.step base (side.firstPlayer base fuel) active stage blueprint text start := by
  cases side with
  | first => rfl
  | second => exact Blueprint.limit_eq_step base active stage blueprint text start

theorem secondPlayer_step : side.secondPlayer base (fuel + 1) active stage blueprint text start =
    Player.step base (side.secondPlayer base fuel) active stage blueprint text start := by
  cases side with
  | first => exact Blueprint.limit_eq_step base active stage blueprint text start
  | second => rfl

end Side

/-- In what way blueprints are alike. -/
structure Likeness where
  terms : Comparison Fault
  /-- The kind of a grammar that is like one of some kind. -/
  kinds : Kind → Kind
  /-- The matches that grammars of some kind find, and those that the others find. -/
  matched : Kind → Match → Match → Prop
  /-- The invocations that are under way. -/
  under : (Key → Nat) → (Key → Nat) → Prop
  pattern : kinds .pattern = .pattern
  andThen : ∀ one two, kinds (one.andThen two) = (kinds one).andThen (kinds two)
  span : ∀ stop, matched .pattern (.span stop) (.span stop)
  stops : ∀ {kind one two}, matched kind one two → terms.Meets Eq (one.stopAs kind) (two.stopAs (kinds kind))
  absent : ∀ kind start, matched kind (.absent kind start) (.absent (kinds kind) start)
  collected : ∀ {kind} {found founds : Array Match} stop, List.Forall₂ (matched kind) found.toList founds.toList →
    matched kind (.collected kind found stop) (.collected (kinds kind) founds stop)
  followedBy : ∀ {kind other one two next later}, matched kind one two → matched other next later →
    terms.Meets (matched (kind.andThen other)) (one.followedBy kind other next)
      (two.followedBy (kinds kind) (kinds other) later)

/-- Blueprints of some kind that run alike with so much fuel, however much has been parsed before. -/
def Blueprint.Near (base : Store) (like : Likeness) (side : Side) (fuel : Nat) (kind : Kind)
    (blueprint other : Blueprint) : Prop :=
  ∀ active counts, like.under active counts → ∀ stage later text start,
    (like.terms.runs (side = .first) (side = .second)).Meets (Option.Rel (like.matched kind))
      (side.firstPlayer base fuel active stage blueprint text start)
      (side.secondPlayer base fuel counts later other text start)

namespace Blueprint.Near
variable {base : Store} {like : Likeness} {side : Side} {fuel less : Nat} {kind kinds : Kind}
  {one two first second : Blueprint}

theorem zero (kind : Kind) (one two : Blueprint) : Near base like side 0 kind one two := by
  intro active counts _ stage later text start
  cases side with
  | first => exact .cutFirst rfl
  | second => exact .cutSecond rfl

/-- Less fuel shows no difference that more fuel does not show. -/
theorem earlier (near : Near base like side fuel kind one two) (least : less ≤ fuel) :
    Near base like side less kind one two := by
  intro active counts under stage later text start
  have meets := near active counts under stage later text start
  cases side with
  | first =>
    by_cases cut : run base less active stage one text start = .error .exhausted
    · change Comparison.Meets _ _ (run base less active stage one text start) _
      rw [cut]
      exact .cutFirst rfl
    · rw [Side.firstPlayer, ← run_more cut least]
      exact meets
  | second =>
    by_cases cut : run base less counts later two text start = .error .exhausted
    · change Comparison.Meets _ _ _ (run base less counts later two text start)
      rw [cut]
      exact .cutSecond rfl
    · rw [Side.secondPlayer, ← run_more cut least]
      exact meets

/-- What a step of each player comes to is what blueprints come to with one more unit of fuel. -/
theorem of_step (steps : ∀ active counts, like.under active counts → ∀ stage later text start,
    (like.terms.runs (side = .first) (side = .second)).Meets (Option.Rel (like.matched kind))
      (Player.step base (side.firstPlayer base fuel) active stage one text start)
      (Player.step base (side.secondPlayer base fuel) counts later two text start)) :
    Near base like side (fuel + 1) kind one two := by
  intro active counts under stage later text start
  rw [Side.firstPlayer_step, Side.secondPlayer_step]
  exact steps active counts under stage later text start

theorem leaf {recognise other : Leaf} (finds : ∀ text start,
    like.terms.Meets (Option.Rel (like.matched kind)) (recognise text start) (other text start)) :
    Near base like side (fuel + 1) kind (.leaf recognise) (.leaf other) :=
  of_step fun _ _ _ _ _ text start => (finds text start).faults

theorem object (near : Near base like side fuel kind one two) :
    Near base like side (fuel + 1) kind (.object one) (.object two) :=
  of_step near

theorem sequence (near : Near base like side fuel kind one two) (next : Near base like side fuel kinds first second) :
    Near base like side (fuel + 1) (kind.andThen kinds) (.sequence kind kinds one first)
      (.sequence (like.kinds kind) (like.kinds kinds) two second) := by
  refine of_step fun active counts under stage later text start => ?_
  refine (near active counts under stage later text start).bind fun found founds related => ?_
  cases related with
  | none => exact .answer .none
  | some related =>
    refine (like.stops related).faults.bind fun stop _ is => ?_
    subst is
    refine (next active counts under stage later text stop).bind fun found founds others => ?_
    cases others with
    | none => exact .answer .none
    | some others => exact (like.followedBy related others).faults.bind fun _ _ related => .answer (.some related)

theorem orElse (near : Near base like side fuel kind one two) (next : Near base like side fuel kind first second) :
    Near base like side (fuel + 1) kind (.orElse one first) (.orElse two second) := by
  refine of_step fun active counts under stage later text start => ?_
  refine (near active counts under stage later text start).bind fun found founds related => ?_
  cases related with
  | none => exact next active counts under stage later text start
  | some related => exact .answer (.some related)

theorem either {parts others : List Blueprint} (near : List.Forall₂ (Near base like side fuel kind) parts others) :
    Near base like side (fuel + 1) kind (.either parts) (.either others) := by
  refine of_step fun active counts under stage later text start => ?_
  induction near with
  | nil => exact .answer .none
  | cons near _ ih =>
    refine (near active counts under stage later text start).bind fun found founds related => ?_
    cases related with
    | none => exact ih
    | some related => exact .answer (.some related)

theorem optional (near : Near base like side fuel kind one two) :
    Near base like side (fuel + 1) kind (.optional kind one) (.optional (like.kinds kind) two) := by
  refine of_step fun active counts under stage later text start => ?_
  refine (near active counts under stage later text start).bind fun found founds related => ?_
  cases related with
  | none => exact .answer (.some (like.absent kind start))
  | some related => exact .answer (.some related)

/-- Matches that repetitions have found. -/
abbrev Lists (like : Likeness) (kind : Kind) (found founds : Array Match) : Prop :=
  List.Forall₂ (like.matched kind) found.toList founds.toList

theorem Lists.push {found founds : Array Match} {next later : Match} (lists : Lists like kind found founds)
    (related : like.matched kind next later) : Lists like kind (found.push next) (founds.push later) := by
  rw [Lists, Array.toList_push, Array.toList_push]
  exact List.rel_append lists (.cons related .nil)

section Loops
variable (near : Near base like side fuel kind one two) {active counts : Key → Nat}
  (under : like.under active counts) (stage later : Nat) (text : Text)
include near under

theorem repeatFrom (bound : Nat) (position : Int) {found founds : Array Match}
    (lists : Lists like kind found founds) :
    (like.terms.runs (side = .first) (side = .second)).Meets
      (fun one two => Lists like kind one.1 two.1 ∧ one.2 = two.2)
      (Player.repeatFrom (side.firstPlayer base fuel active stage one text) kind text.size bound position found)
      (Player.repeatFrom (side.secondPlayer base fuel counts later two text) (like.kinds kind) text.size bound
        position founds) :=
  Comparison.repeatFrom (near active counts under stage later text) (fun _ _ => like.stops)
    (fun lists related => lists.push related) text.size bound position lists

theorem repeatTimes (count : Nat) (position : Int) {found founds : Array Match}
    (lists : Lists like kind found founds) :
    (like.terms.runs (side = .first) (side = .second)).Meets
      (Option.Rel fun one two => Lists like kind one.1 two.1 ∧ one.2 = two.2)
      (Player.repeatTimes (side.firstPlayer base fuel active stage one text) kind text.size count position found)
      (Player.repeatTimes (side.secondPlayer base fuel counts later two text) (like.kinds kind) text.size count
        position founds) :=
  Comparison.repeatTimes (near active counts under stage later text) (fun _ _ => like.stops)
    (fun lists related => lists.push related) text.size count position lists

end Loops

theorem many (near : Near base like side fuel kind one two) :
    Near base like side (fuel + 1) kind (.many kind one) (.many (like.kinds kind) two) := by
  refine of_step fun active counts under stage later text start => ?_
  refine (near.repeatFrom under stage later text _ start (.nil : Lists like kind #[] #[])).bind fun found founds ends => ?_
  obtain ⟨found, stop⟩ := found
  obtain ⟨founds, _⟩ := founds
  obtain ⟨lists, rfl⟩ := ends
  exact .answer (.some (like.collected stop lists))

theorem oneOrMore (near : Near base like side fuel kind one two) :
    Near base like side (fuel + 1) kind (.oneOrMore kind one) (.oneOrMore (like.kinds kind) two) := by
  refine of_step fun active counts under stage later text start => ?_
  refine (near active counts under stage later text start).bind fun first firsts related => ?_
  cases related with
  | none => exact .answer .none
  | @some first firsts related =>
    have lists : Lists like kind #[first] #[firsts] := .cons related .nil
    refine (like.stops related).faults.bind fun stop _ is => ?_
    subst is
    dsimp only
    split
    · exact .answer (.some (like.collected stop lists))
    · refine (near.repeatFrom under stage later text _ stop lists).bind fun found founds ends => ?_
      obtain ⟨found, stop⟩ := found
      obtain ⟨founds, _⟩ := founds
      obtain ⟨lists, rfl⟩ := ends
      exact .answer (.some (like.collected stop lists))

theorem times (count : Nat) (near : Near base like side fuel kind one two) :
    Near base like side (fuel + 1) kind (.times kind count one) (.times (like.kinds kind) count two) := by
  refine of_step fun active counts under stage later text start => ?_
  refine (near.repeatTimes under stage later text count start (.nil : Lists like kind #[] #[])).bind
    fun found founds ends => ?_
  cases ends with
  | none => exact .answer .none
  | @some found founds ends =>
    obtain ⟨found, stop⟩ := found
    obtain ⟨founds, _⟩ := founds
    obtain ⟨lists, rfl⟩ := ends
    exact .answer (.some (like.collected stop lists))

theorem separated (near : Near base like side fuel kind one two) (next : Near base like side fuel kind first second) :
    Near base like side (fuel + 1) kind (.separated kind one first) (.separated (like.kinds kind) two second) := by
  refine of_step fun active counts under stage later text start => ?_
  refine (near active counts under stage later text start).bind fun first firsts related => ?_
  cases related with
  | none => exact .answer .none
  | @some first firsts related =>
    have lists : Lists like kind #[first] #[firsts] := .cons related .nil
    refine (like.stops related).faults.bind fun stop _ is => ?_
    subst is
    refine (next.repeatFrom under stage later text _ stop lists).bind fun found founds ends => ?_
    obtain ⟨found, stop⟩ := found
    obtain ⟨founds, _⟩ := founds
    obtain ⟨lists, rfl⟩ := ends
    exact .answer (.some (like.collected stop lists))

/-- Recursive grammars whose definitions run alike, with limits that are reached by both of them. -/
theorem invoke {target other : Target}
    (defined : like.terms.Meets (Near base like side fuel kind) (target.definition base) (other.definition base))
    (titles : ∀ limit start, like.terms.same (.tooDeep (target.title base) limit start)
      (.tooDeep (other.title base) limit start))
    (limits : other.limit base = target.limit base)
    (counted : ∀ active counts, like.under active counts → target.limit base = none ∨ active target.key = counts other.key)
    (enters : ∀ active counts, like.under active counts →
      like.under (target.key.enter active) (other.key.enter counts)) :
    Near base like side (fuel + 1) kind (.invoke target) (.invoke other) := by
  refine of_step fun active counts under stage later text start => ?_
  refine defined.faults.bind fun body shell near => ?_
  have enters := near _ _ (enters active counts under) stage later text start
  rw [limits]
  split
  next limit is =>
    obtain none | same := counted active counts under
    · rw [none] at is
      cases is
    · rw [same]
      dsimp only
      split
      · exact .failure (titles _ _)
      · exact enters
  next => exact enters

/-- Recursive grammars run alike if their definitions do as far as they run alike themselves. -/
theorem recursive {target other : Target}
    (defined : ∀ less < fuel, Near base like side less kind (.invoke target) (.invoke other) →
      like.terms.Meets (Near base like side less kind) (target.definition base) (other.definition base))
    (titles : ∀ limit start, like.terms.same (.tooDeep (target.title base) limit start)
      (.tooDeep (other.title base) limit start))
    (limits : other.limit base = target.limit base)
    (counted : ∀ active counts, like.under active counts → target.limit base = none ∨ active target.key = counts other.key)
    (enters : ∀ active counts, like.under active counts →
      like.under (target.key.enter active) (other.key.enter counts)) :
    Near base like side fuel kind (.invoke target) (.invoke other) := by
  induction fuel with
  | zero => exact zero _ _ _
  | succ fuel ih =>
    have near := ih fun less least => defined less (Nat.lt_succ_of_lt least)
    exact .invoke (defined fuel fuel.lt_succ_self near) titles limits counted enters

/-- In the limit blueprints are alike that are with any fuel, whichever player has it: one of them is cut
off if the other one is. -/
theorem limits (near : ∀ side fuel, Near base like side fuel kind one two) {active counts : Key → Nat}
    (under : like.under active counts) (stage later : Nat) (text : Text) (start : Int) :
    (like.terms.runs False False).Meets (Option.Rel (like.matched kind))
      (limit base active stage one text start) (limit base counts later two text start) := by
  by_cases first : limit base active stage one text start = .error .exhausted
  · by_cases second : limit base counts later two text start = .error .exhausted
    · rw [first, second]
      exact .failure trivial
    · obtain ⟨fuel, same⟩ := exists_run_eq_limit base counts later two text start second
      have meets := near .second fuel active counts under stage later text start
      rw [Side.secondPlayer, same] at meets
      exact meets.uncut nofun fun _ => second
  · obtain ⟨fuel, same⟩ := exists_run_eq_limit base active stage one text start first
    have meets := near .first fuel active counts under stage later text start
    rw [Side.firstPlayer, same] at meets
    exact meets.uncut (fun _ => first) nofun

end Blueprint.Near

/-- Grammars of some kind that run alike with so much fuel. -/
structure Sketch.Near (base : Store) (like : Likeness) (side : Side) (fuel : Nat) (kind : Kind)
    (made other : Sketch) : Prop where
  is : made.kind = kind
  kinds : other.kind = like.kinds kind
  body : made.body.Near base like side fuel kind other.body

namespace Sketch.Near
variable {base : Store} {like : Likeness} {side : Side} {fuel less : Nat} {kind kinds : Kind}
  {made other next later : Sketch}

theorem earlier (near : Near base like side fuel kind made other) (least : less ≤ fuel) :
    Near base like side less kind made other :=
  ⟨near.is, near.kinds, near.body.earlier least⟩

theorem new {one two : Blueprint} (near : one.Near base like side fuel kind two) :
    Near base like side fuel kind (.new kind one) (.new (like.kinds kind) two) :=
  ⟨rfl, rfl, near.object.earlier fuel.le_succ⟩

theorem leaf {recognise others : Leaf} (finds : ∀ text start,
    like.terms.Meets (Option.Rel (like.matched kind)) (recognise text start) (others text start)) :
    Near base like side fuel kind (.new kind (.leaf recognise)) (.new (like.kinds kind) (.leaf others)) :=
  .new ((Blueprint.Near.leaf finds).earlier fuel.le_succ)

theorem literal (word : String) : Near base like side fuel .pattern (.literal word) (.literal word) := by
  rw [Sketch.literal]
  nth_rewrite 3 [← like.pattern]
  refine .leaf fun text start => ?_
  rw [Leaf.literal, Leaf.total]
  cases (if text.hasAt word.toList start then some (start + word.toList.length) else none : Option Int) with
  | none => exact .answer .none
  | some stop => exact .answer (.some (like.span stop))

theorem around (near : Near base like side fuel kind made other) {wrap : Kind → Blueprint → Blueprint}
    (wraps : made.body.Near base like side fuel kind other.body →
      (wrap kind made.body).Near base like side (fuel + 1) kind (wrap (like.kinds kind) other.body)) :
    Near base like side fuel kind (made.around wrap) (other.around wrap) := by
  rw [Sketch.around, Sketch.around, near.is, near.kinds]
  exact .new ((wraps near.body).earlier fuel.le_succ)

theorem followedByGrammar (near : Near base like side fuel kind made other) (two : Near base like side fuel kinds next later) :
    Near base like side fuel (kind.andThen kinds) (made.followedByGrammar next) (other.followedByGrammar later) := by
  have sequence (one two : Sketch) : one.followedByGrammar two =
      .new (one.kind.andThen two.kind) (.sequence one.kind two.kind one.body two.body) := by
    rw [Sketch.followedByGrammar]
    cases one.kind <;> rfl
  rw [sequence, sequence, near.is, near.kinds, two.is, two.kinds, ← like.andThen]
  exact .new ((near.body.sequence two.body).earlier fuel.le_succ)

theorem choice (near : Near base like side fuel kind made other) (two : Near base like side fuel kind next later) :
    Near base like side fuel kind (made.choice next) (other.choice later) := by
  rw [Sketch.choice, Sketch.choice, near.is, near.kinds]
  exact .new ((near.body.orElse two.body).earlier fuel.le_succ)

end Sketch.Near

end TextGrammar
