import TextGrammar.Proofs.Histories

/-! More fuel. A run that ends without having been cut off ends in the same way with any more fuel,
so what it comes to is a matter of the grammar alone. -/

namespace TextGrammar
open TextGrammar.Action

namespace Alignment

/-- A run and one with more fuel. The first one gives up where it is cut off. Their traces are the same if
they were from the start. -/
abbrev refuelled (traced : Prop) (text : Text) : Alignment :=
  twin .any text (· = .exhausted) (fun _ => True) none fun first second => traced → first.trace = second.trace

theorem refuelled_lawful (traced : Prop) (text : Text) : (refuelled traced text).Lawful :=
  twin_lawful Parts.complete_any (fun same still other given => by rw [still.trace, other.trace, same given])
    (fun same alike given => by rw [alike.eq id]; exact congrArg (_ :: ·) (same given))
    (fun _ gaveUp => nomatch gaveUp) fun _ _ => trivial

theorem refuelled_runs (traced : Prop) (text : Text) (fuel more : Nat) :
    (refuelled traced text).Runs (Rule.run fuel) (Rule.run (fuel + more)) := by
  induction fuel with
  | zero =>
    have ends {α β : Type} {pair : Alignment} {answers : α → β → Prop} {second : Action β}
        (gaveUp : pair.givesUp .exhausted) (passed : ∀ store, pair.passed store) :
        pair.Aligned answers (throw .exhausted) second :=
      fun _ _ _ => .behind gaveUp (passed _)
    exact ⟨fun _ _ _ _ => ends rfl fun _ => trivial, fun _ _ _ _ _ => ends rfl fun _ => trivial,
      fun rule text start _ => Rule.run_grows _ rule text start⟩
  | succ fuel ih =>
    rw [Nat.succ_add]
    exact ih.step (refuelled_lawful traced text) (guards_of_none rfl) (fun _ _ => guards_of_none rfl)
      fun rule text start _ => Rule.run_grows (fuel + more + 1) rule text start

end Alignment

/-- A match that was not cut off is the same with more fuel. -/
theorem Session.matching_more {subject : Expression} {text : Text} {start : Int} {store : Store}
    {fuel : Nat} (finished : ((matching fuel subject text start).exec store).1 ≠ .error .exhausted)
    {more : Nat} (enough : fuel ≤ more) :
    ((matching more subject text start).exec store).1 =
      ((matching fuel subject text start).exec store).1 := by
  obtain ⟨rest, rfl⟩ := Nat.exists_eq_add_of_le enough
  have lawful := Alignment.refuelled_lawful True text
  have evaluates := lawful.makes_evaluate [] subject subject.builtFrom_any
  have aligned : (Alignment.refuelled True text).Aligned (Alignment.refuelled True text).Outcomes
      (matching fuel subject text start) (matching (fuel + rest) subject text start) :=
    evaluates.thenAligned fun operand made =>
      lawful.matchFrom (Alignment.refuelled_runs True text fuel rest) made rfl rfl
  have ends := aligned ⟨.refl _ store, store.builtFrom_any, fun _ => rfl⟩
  generalize (matching fuel subject text start).exec store = one at ends finished ⊢
  generalize (matching (fuel + rest) subject text start).exec store = two at ends ⊢
  cases ends with
  | answer same _ => exact congrArg Except.ok (Alignment.twin_outcomes same).symm
  | halt same _ => exact congrArg Except.error (Eq.symm same)
  | behind gaveUp _ => exact absurd (congrArg Except.error gaveUp) finished

end TextGrammar
