import TextGrammar.Proofs.Blueprints

/-! Computations that are compared with one another. Their answers are related and their failures
correspond, unless one of them failed in a way that says nothing about the other one: that is how a
run that may be cut off is compared with one that is not. -/

namespace TextGrammar

variable {ε α β γ δ : Type}

/-- How the failures of two computations are compared. -/
structure Comparison (ε : Type) where
  /-- Failures of the first computation that say nothing about the second one. -/
  cutFirst : ε → Prop
  /-- Failures of the second computation that say nothing about the first one. -/
  cutSecond : ε → Prop
  same : ε → ε → Prop

/-- Two outcomes that compare. -/
inductive Comparison.Meets (terms : Comparison ε) (answers : α → β → Prop) :
    Except ε α → Except ε β → Prop
  | answer {one : α} {other : β} : answers one other → Meets terms answers (.ok one) (.ok other)
  | failure {one other : ε} : terms.same one other → Meets terms answers (.error one) (.error other)
  | cutFirst {one : ε} {other : Except ε β} : terms.cutFirst one → Meets terms answers (.error one) other
  | cutSecond {one : Except ε α} {other : ε} : terms.cutSecond other → Meets terms answers one (.error other)

namespace Comparison

namespace Meets
variable {terms : Comparison ε} {answers : α → β → Prop} {results : γ → δ → Prop} {one : Except ε α} {other : Except ε β}

theorem bind {next : α → Except ε γ} {later : β → Except ε δ} (meets : terms.Meets answers one other)
    (rest : ∀ answer result, answers answer result → terms.Meets results (next answer) (later result)) :
    terms.Meets results (one >>= next) (other >>= later) := by
  cases meets with
  | answer related => exact rest _ _ related
  | failure same => exact .failure same
  | cutFirst cut => exact .cutFirst cut
  | cutSecond cut => exact .cutSecond cut

/-- What a computation goes on with where the other one has come to an end. -/
theorem bindFirst {next : α → Except ε γ} {results : γ → β → Prop} (meets : terms.Meets answers one other)
    (rest : ∀ answer result, answers answer result → terms.Meets results (next answer) (.ok result)) :
    terms.Meets results (one >>= next) other := by
  cases meets with
  | answer related => exact rest _ _ related
  | failure same => exact .failure same
  | cutFirst cut => exact .cutFirst cut
  | cutSecond cut => exact .cutSecond cut

theorem mono {wider : α → β → Prop} (meets : terms.Meets answers one other)
    (more : ∀ answer result, answers answer result → wider answer result) :
    terms.Meets wider one other := by
  cases meets with
  | answer related => exact .answer (more _ _ related)
  | failure same => exact .failure same
  | cutFirst cut => exact .cutFirst cut
  | cutSecond cut => exact .cutSecond cut

end Meets

/-- Runs are compared by their faults. One of them may have been cut off, and then says nothing. -/
def runs (terms : Comparison Fault) (before after : Prop) : Comparison Halt where
  cutFirst
    | .fault fault => terms.cutFirst fault
    | .exhausted => before
  cutSecond
    | .fault fault => terms.cutSecond fault
    | .exhausted => after
  same
    | .fault one, .fault other => terms.same one other
    | .exhausted, .exhausted => True
    | _, _ => False

section Runs
variable {terms : Comparison Fault} {before after : Prop}

theorem Meets.faults {answers : α → β → Prop} {one : Except Fault α} {other : Except Fault β}
    (meets : terms.Meets answers one other) :
    (terms.runs before after).Meets answers (one.mapError .fault) (other.mapError .fault) := by
  cases meets with
  | answer related => exact .answer related
  | failure same => exact .failure same
  | cutFirst cut => exact .cutFirst cut
  | cutSecond cut => exact .cutSecond cut

/-- What was not cut off is compared all the same if nothing may be cut off. -/
theorem Meets.uncut {answers : α → β → Prop} {one : Except Halt α} {other : Except Halt β}
    (meets : (terms.runs before after).Meets answers one other)
    (first : before → one ≠ .error .exhausted) (second : after → other ≠ .error .exhausted) :
    (terms.runs False False).Meets answers one other := by
  cases meets with
  | answer related => exact .answer related
  | failure same => exact .failure same
  | @cutFirst halt _ cut =>
    cases halt with
    | fault fault => exact .cutFirst cut
    | exhausted => exact absurd rfl (first cut)
  | @cutSecond _ halt cut =>
    cases halt with
    | fault fault => exact .cutSecond cut
    | exhausted => exact absurd rfl (second cut)

section Loops
variable {matched : Match → Match → Prop} {attempt other : Int → Except Halt (Option Match)}
  {kind kinds : Kind} {lists : Array Match → Array Match → Prop}
  (each : ∀ position, (terms.runs before after).Meets (Option.Rel matched) (attempt position)
    (other position))
  (stops : ∀ one two, matched one two →
    terms.Meets Eq (one.stopAs kind) (two.stopAs kinds))
  (push : ∀ {all alls one two}, lists all alls → matched one two →
    lists (all.push one) (alls.push two))
  (size : Nat)
include each stops push

theorem repeatFrom (bound : Nat) (position : Int) {found founds : Array Match} (same : lists found founds) :
    (terms.runs before after).Meets (fun one two => lists one.1 two.1 ∧ one.2 = two.2)
      (Player.repeatFrom attempt kind size bound position found)
      (Player.repeatFrom other kinds size bound position founds) := by
  induction bound generalizing position found founds with
  | zero => exact .failure trivial
  | succ bound ih =>
    refine (each position).bind fun next nexts related => ?_
    cases related with
    | none => exact .answer ⟨same, rfl⟩
    | some related =>
      refine (Meets.faults (stops _ _ related)).bind fun stop _ is => ?_
      subst is
      split
      · exact .answer ⟨push same related, rfl⟩
      · exact ih stop (push same related)

theorem repeatTimes (count : Nat) (position : Int) {found founds : Array Match} (same : lists found founds) :
    (terms.runs before after).Meets (Option.Rel fun one two => lists one.1 two.1 ∧ one.2 = two.2)
      (Player.repeatTimes attempt kind size count position found)
      (Player.repeatTimes other kinds size count position founds) := by
  induction count generalizing position found founds with
  | zero => exact .answer (.some ⟨same, rfl⟩)
  | succ count ih =>
    refine (each position).bind fun next nexts related => ?_
    cases related with
    | none => exact .answer .none
    | some related =>
      refine (Meets.faults (stops _ _ related)).bind fun stop _ is => ?_
      subst is
      split
      · exact .answer (.some ⟨push same related, rfl⟩)
      · exact ih stop (push same related)

end Loops

end Runs

end Comparison

/-- Drafts of two expressions that compare, from counts that do. -/
def Drafting.Meets (counts : Nat → Nat → Prop) (terms : Comparison Fault) (related : α → β → Prop)
    (plan : Drafting α) (other : Drafting β) : Prop :=
  ∀ index later, counts index later →
    terms.Meets (fun one two => related one.1 two.1 ∧ counts one.2 two.2) (plan.run index) (other.run later)

namespace Drafting.Meets
variable {counts : Nat → Nat → Prop} {terms : Comparison Fault} {related : α → β → Prop}
  {results : γ → δ → Prop} {plan : Drafting α} {other : Drafting β}

theorem bind {next : α → Drafting γ} {later : β → Drafting δ}
    (meets : Drafting.Meets counts terms related plan other)
    (rest : ∀ draft drafted, related draft drafted →
      Drafting.Meets counts terms results (next draft) (later drafted)) :
    Drafting.Meets counts terms results (plan >>= next) (other >>= later) :=
  fun index count same => (meets index count same).bind fun _ _ answers =>
    rest _ _ answers.1 _ _ answers.2

/-- What drafting goes on with where the other one has come to an end. -/
theorem bindFirst {next : α → Drafting γ} {results : γ → β → Prop}
    (meets : Drafting.Meets counts terms related plan other)
    (rest : ∀ draft drafted, related draft drafted →
      Drafting.Meets counts terms results (next draft) (pure drafted)) :
    Drafting.Meets counts terms results (plan >>= next) other :=
  fun index count same => (meets index count same).bindFirst fun _ _ answers =>
    rest _ _ answers.1 _ _ answers.2

theorem pure {draft : α} {drafted : β} (holds : related draft drafted) :
    Drafting.Meets counts terms related (Pure.pure draft) (Pure.pure drafted) :=
  fun _ _ same => .answer ⟨holds, same⟩

theorem lift {outcome : Except Fault α} {outcomes : Except Fault β}
    (meets : terms.Meets related outcome outcomes) :
    Drafting.Meets counts terms related (liftM outcome) (liftM outcomes) := by
  intro index later same
  cases meets with
  | answer holds => exact .answer ⟨holds, same⟩
  | failure holds => exact .failure holds
  | cutFirst cut => exact .cutFirst cut
  | cutSecond cut => exact .cutSecond cut

/-- Nothing but the drafts matters in the end. -/
theorem drafted (meets : Drafting.Meets counts terms related plan other) (start : counts 0 0) :
    terms.Meets related (plan.run' 0) (other.run' 0) := by
  have ends := meets 0 0 start
  rw [StateT.run', StateT.run']
  change terms.Meets related (Prod.fst <$> plan.run 0) (Prod.fst <$> other.run 0)
  generalize plan.run 0 = one at ends ⊢
  generalize other.run 0 = two at ends ⊢
  cases ends with
  | answer holds => exact .answer holds.1
  | failure holds => exact .failure holds
  | cutFirst cut => exact .cutFirst cut
  | cutSecond cut => exact .cutSecond cut

end Drafting.Meets

end TextGrammar
