import TextGrammar.Proofs.Fuel
import TextGrammar.Proofs.HistoryIndependence
import TextGrammar.Proofs.Limits

/-! What a match comes to if it is not cut off. There is one outcome at most, and it is told by the
blueprint of the grammar in the limit, apart from the names of grammars in faults. -/

namespace TextGrammar
open Filter

theorem Alike.symm {α : Type} {first second : Except Halt α} (alike : Alike first second) :
    Alike second first :=
  Eq.symm alike

/-- Faults that are alike are the same apart from the names of grammars. -/
theorem Alike.unnamed {α : Type} {first second : Except Fault α}
    (alike : Alike (first.mapError .fault) (second.mapError .fault)) :
    first.mapError Fault.unnamed = second.mapError Fault.unnamed := by
  cases first with
  | ok answer =>
    cases second with
    | ok other => exact congrArg Except.ok (Except.ok.inj alike)
    | error fault => cases alike
  | error fault =>
    cases second with
    | ok other => cases alike
    | error cause => exact congrArg Except.error (Halt.fault.inj (Except.error.inj alike))

namespace Session
variable {base store : Store} {subject : Expression} {text : Text} {start : Int}

/-- A match that comes to an outcome with enough fuel. -/
def Comes (store : Store) (subject : Expression) (text : Text) (start : Int)
    (outcome : Except Fault (Option Match)) : Prop :=
  ∃ fuel, ((matching fuel subject text start).exec store).1 = outcome.mapError .fault

theorem Comes.finished (outcome : Except Fault (Option Match)) :
    outcome.mapError Halt.fault ≠ .error .exhausted := by
  cases outcome <;> simp [Except.mapError]

/-- What an outcome is told by has come to an end. -/
theorem Comes.told {outcome : Except Fault (Option Match)} {told : Except Halt (Option Match)}
    (alike : Alike (outcome.mapError .fault) told) : told ≠ .error .exhausted := by
  rintro rfl
  obtain ⟨halt, error, same⟩ := alike.of_error
  cases halt with
  | fault cause => cases same
  | exhausted => exact finished outcome error

theorem Comes.unique {first second : Except Fault (Option Match)}
    (one : Comes store subject text start first) (two : Comes store subject text start second) :
    first = second := by
  obtain ⟨fuel, one⟩ := one
  obtain ⟨other, two⟩ := two
  have same : first.mapError Halt.fault = second.mapError .fault := by
    rcases Nat.le_total fuel other with less | less
    · rw [← one, ← two]
      exact (matching_more (by rw [one]; exact finished first) less).symm
    · rw [← one, ← two]
      exact matching_more (by rw [two]; exact finished second) less
  cases first <;> cases second <;> cases same <;> rfl

/-- What a match comes to in the limit, told from the store that a session has reached. -/
noncomputable def foretold (base : Store) (subject : Expression) (text : Text) (start : Int) :
    Except Halt (Option Match) := do
  let draft ← (subject.drafted base.globals (.stage 0) []).mapError .fault
  let made ← (draft.asGrammar "match_prefix").mapError .fault
  (text.checkOffset start).mapError .fault
  Blueprint.limit base (fun _ => 0) 1 made.body text start

/-- What is drafted comes to what its blueprint comes to in the limit. -/
theorem foretold_drafted {sketch : Sketch}
    (drafted : subject.drafted base.globals (.stage 0) [] = .ok (.grammar sketch)) :
    foretold base subject text start = (do
      (text.checkOffset start).mapError .fault
      Blueprint.limit base (fun _ => 0) 1 sketch.body text start) := by
  rw [foretold, drafted]
  rfl

theorem foretell_settles (fuel : Nat) :
    Settles (foretell base fuel subject text start) fun _ => foretold base subject text start :=
  .bind (.refl _) fun _ => .bind (.refl _) fun _ => .bind (.refl _) fun _ =>
    Blueprint.run_settles_limit base _ _ _ _ _ fuel

theorem foretold_settles : Settles (foretold base subject text start) fun fuel =>
    foretell base fuel subject text start :=
  .bind (.refl _) fun _ => .bind (.refl _) fun _ => .bind (.refl _) fun _ =>
    Blueprint.limit_settles base _ _ _ _ _

end Session

namespace Scene
open Session
variable {scene : Scene} {cast : Cast} {store : Store} (founded : scene.Founded (fun _ => 0) 0 cast store)
  {subject : Expression} (plain : subject.Plain scene.allowed) {text : Text} {start : Int}
include founded plain

theorem matching_alike (fuel : Nat) : Alike ((matching fuel subject text start).exec store).1
    (foretell scene.base fuel subject text start) := by
  obtain ⟨result, after, further, ran, -, -, alike⟩ :=
    matching_runs plain fuel text start _ (.refl _) _ founded
  rw [ran]
  exact alike

theorem comes_alike {outcome : Except Fault (Option Match)}
    (comes : Comes store subject text start outcome) :
    Alike (outcome.mapError .fault) (foretold scene.base subject text start) := by
  obtain ⟨fuel, ended⟩ := comes
  have alike : Alike ((matching fuel subject text start).exec store).1 _ :=
    matching_alike founded plain fuel
  rw [ended] at alike
  rwa [(foretell_settles fuel).eq (Comes.told alike)]

theorem comes_finished {outcome : Except Fault (Option Match)} (comes : Comes store subject text start outcome) :
    foretold scene.base subject text start ≠ .error .exhausted :=
  Comes.told (comes_alike founded plain comes)

theorem comes_of_foretold (finished : foretold scene.base subject text start ≠ .error .exhausted) :
    ∃ outcome, Comes store subject text start outcome := by
  obtain ⟨fuel, same⟩ := (foretold_settles finished).exists
  have alike : Alike ((matching fuel subject text start).exec store).1 _ :=
    matching_alike founded plain fuel
  rw [show foretell scene.base fuel subject text start = _ from same] at alike
  cases ended : ((matching fuel subject text start).exec store).1 with
  | ok found => exact ⟨.ok found, fuel, ended⟩
  | error halt =>
    cases halt with
    | fault cause => exact ⟨.error cause, fuel, ended⟩
    | exhausted =>
      rw [ended] at alike
      obtain ⟨halt, cut, same⟩ := alike.symm.of_error
      cases halt with
      | fault cause => cases same
      | exhausted => exact absurd cut finished

theorem comes_ok_iff {found : Option Match} : Comes store subject text start (.ok found) ↔
    foretold scene.base subject text start = .ok found := by
  refine ⟨fun comes => (comes_alike founded plain comes).symm.of_ok, fun told => ?_⟩
  have finished : foretold scene.base subject text start ≠ .error .exhausted := by simp [told]
  obtain ⟨outcome, comes⟩ := comes_of_foretold founded plain finished
  have alike := comes_alike founded plain comes
  rw [told] at alike
  cases outcome with
  | ok answer =>
    cases alike.of_ok
    exact comes
  | error fault => cases alike.of_ok

theorem comes_error_iff {class_ : FaultClass} :
    (∃ fault : Fault, fault.class = class_ ∧ Comes store subject text start (.error fault)) ↔
      ∃ fault : Fault, fault.class = class_ ∧
        foretold scene.base subject text start = .error (.fault fault) := by
  constructor
  · rintro ⟨fault, is, comes⟩
    obtain ⟨halt, told, same⟩ := (comes_alike founded plain comes).symm.of_error
    cases halt with
    | fault cause =>
      have same : cause.unnamed = fault.unnamed := Halt.fault.inj same
      exact ⟨cause, by rw [← cause.class_unnamed, same, fault.class_unnamed, is], told⟩
    | exhausted => cases same
  · rintro ⟨fault, is, told⟩
    have finished : foretold scene.base subject text start ≠ .error .exhausted := by simp [told]
    obtain ⟨outcome, comes⟩ := comes_of_foretold founded plain finished
    have alike := comes_alike founded plain comes
    rw [told] at alike
    obtain ⟨halt, ended, same⟩ := alike.of_error
    cases outcome with
    | ok answer => cases ended
    | error cause =>
      cases ended
      have same : cause.unnamed = fault.unnamed := Halt.fault.inj same
      exact ⟨cause, by rw [← cause.class_unnamed, same, fault.class_unnamed, is], comes⟩

/-- What is foretold alike comes to the same, apart from the names of grammars in faults. -/
theorem comes_other {other : Expression} (others : other.Plain scene.allowed) {outcome : Except Fault (Option Match)}
    (comes : Comes store subject text start outcome)
    (alike : Alike (foretold scene.base subject text start) (foretold scene.base other text start)) :
    ∃ result, Comes store other text start result ∧ result.mapError Fault.unnamed = outcome.mapError Fault.unnamed := by
  have told : Alike (outcome.mapError .fault) (foretold scene.base other text start) :=
    (comes_alike founded plain comes).trans alike
  obtain ⟨result, comes⟩ := comes_of_foretold founded others (Comes.told told)
  have same : Alike (outcome.mapError .fault) (result.mapError .fault) :=
    told.trans (comes_alike founded others comes).symm
  exact ⟨result, comes, same.symm.unnamed⟩

end Scene

end TextGrammar
