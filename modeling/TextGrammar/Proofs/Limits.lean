import Mathlib.Order.Filter.AtTopBot.Basic
import TextGrammar.Proofs.Following

/-! What blueprints come to with enough fuel. A run that is not cut off stays what it is with more
fuel, so every blueprint has one outcome in the limit, and that is the outcome of one step whose
parts are run in the limit. -/

namespace TextGrammar
open Filter

variable {α β : Type}

/-- Attempts that come to an outcome from some number on, unless the outcome is to be cut off. -/
def Settles (outcome : Except Halt α) (attempts : Nat → Except Halt α) : Prop :=
  outcome ≠ .error .exhausted → ∀ᶠ fuel in atTop, attempts fuel = outcome

namespace Settles
variable {outcome : Except Halt α} {attempts : Nat → Except Halt α}

theorem refl (outcome : Except Halt α) : Settles outcome fun _ => outcome :=
  fun _ => .of_forall fun _ => rfl

/-- Attempts that are all the same. -/
theorem eq {other : Except Halt α} (settles : Settles outcome fun _ => other)
    (finished : outcome ≠ .error .exhausted) : other = outcome :=
  eventually_const.mp (settles finished)

theorem bind {next : α → Except Halt β} {nexts : Nat → α → Except Halt β}
    (first : Settles outcome attempts) (rest : ∀ answer, Settles (next answer) (nexts · answer)) :
    Settles (outcome >>= next) fun fuel => attempts fuel >>= nexts fuel := by
  intro finished
  cases outcome with
  | error halt =>
    have uncut : (.error halt : Except Halt α) ≠ .error .exhausted := by
      rintro ⟨⟩
      exact finished rfl
    filter_upwards [first uncut] with fuel same
    rw [same]
    rfl
  | ok answer =>
    filter_upwards [first (by simp), rest answer finished] with fuel same later
    rw [same]
    exact later

/-- Settling passes from the parts of a computation to the whole of it. -/
def following : Following Nat where
  holds := Settles
  refl := refl
  bind := bind

end Settles

/-- A step settles where the runs of the parts do. -/
theorem Player.step_settles {base : Store} {player : Player} {players : Nat → Player}
    (each : ∀ active stage blueprint text start, Settles (player active stage blueprint text start)
      (players · active stage blueprint text start))
    (active : Key → Nat) (stage : Nat) (blueprint : Blueprint) (text : Text) (start : Int) :
    Settles (step base player active stage blueprint text start) fun fuel =>
      step base (players fuel) active stage blueprint text start := by
  refine Settles.following.step rfl (each active) (fun _ => rfl) (fun stage target body text start => ?_)
    stage blueprint text start
  have enters := each (target.key.enter active) stage body text start
  simp only [Player.enter]
  split
  · split
    · exact .refl _
    · exact enters
  · exact enters

namespace Blueprint

/-- What is not cut off stays the same with more fuel. -/
theorem run_more {base : Store} {fuel more : Nat} {active : Key → Nat} {stage : Nat}
    {blueprint : Blueprint} {text : Text} {start : Int}
    (finished : run base fuel active stage blueprint text start ≠ .error .exhausted) (least : fuel ≤ more) :
    run base more active stage blueprint text start = run base fuel active stage blueprint text start := by
  have onward fuel active stage blueprint text start :
      Settles (run base fuel active stage blueprint text start) fun _ =>
        run base (fuel + 1) active stage blueprint text start := by
    induction fuel generalizing active stage blueprint text start with
    | zero => exact fun finished => absurd rfl finished
    | succ fuel ih => exact Player.step_settles ih _ _ _ _ _
  induction more, least using Nat.le_induction with
  | base => rfl
  | succ more _ ih =>
    rw [← ih] at finished ⊢
    exact (onward more _ _ _ _ _).eq finished

theorem run_settles (base : Store) (fuel : Nat) (active : Key → Nat) (stage : Nat)
    (blueprint : Blueprint) (text : Text) (start : Int) :
    Settles (run base fuel active stage blueprint text start)
      (run base · active stage blueprint text start) :=
  fun finished => eventually_atTop.mpr ⟨fuel, fun _ least => run_more finished least⟩

open Classical in
/-- What a blueprint comes to with enough fuel. It is cut off if no fuel is enough. -/
noncomputable def limit (base : Store) : Player := fun active stage blueprint text start =>
  if finished : ∃ fuel, run base fuel active stage blueprint text start ≠ .error .exhausted then
    run base finished.choose active stage blueprint text start
  else .error .exhausted

variable (base) (active : Key → Nat) (stage : Nat) (blueprint : Blueprint) (text : Text) (start : Int)

theorem limit_settles : Settles (limit base active stage blueprint text start)
    (run base · active stage blueprint text start) := by
  by_cases settled : ∃ fuel, run base fuel active stage blueprint text start ≠ .error .exhausted
  · rw [limit, dif_pos settled]
    exact run_settles base _ active stage blueprint text start
  · rw [limit, dif_neg settled]
    exact fun finished => absurd rfl finished

theorem exists_run_eq_limit (finished : limit base active stage blueprint text start ≠ .error .exhausted) :
    ∃ fuel, run base fuel active stage blueprint text start = limit base active stage blueprint text start :=
  (limit_settles base active stage blueprint text start finished).exists

theorem run_settles_limit (fuel : Nat) : Settles (run base fuel active stage blueprint text start)
    fun _ => limit base active stage blueprint text start := by
  intro finished
  have settled : ∃ fuel, run base fuel active stage blueprint text start ≠ .error .exhausted :=
    ⟨fuel, finished⟩
  rw [limit, dif_pos settled]
  have one := run_settles base _ active stage blueprint text start settled.choose_spec
  have two := run_settles base _ active stage blueprint text start finished
  obtain ⟨more, first, second⟩ := (one.and two).exists
  exact .of_forall fun _ => first.symm.trans second

/-- What the run of a blueprint consists of in the limit. -/
theorem limit_eq_step : limit base active stage blueprint text start =
    Player.step base (limit base) active stage blueprint text start := by
  have upwards fuel : Settles (run base (fuel + 1) active stage blueprint text start) fun _ =>
      Player.step base (limit base) active stage blueprint text start :=
    Player.step_settles (fun active stage blueprint text start =>
      run_settles_limit base active stage blueprint text start fuel) _ _ _ _ _
  by_cases finished : limit base active stage blueprint text start = .error .exhausted
  · by_contra other
    rw [finished] at other
    have settled := Player.step_settles (limit_settles base) active stage blueprint text start (Ne.symm other)
    obtain ⟨fuel, same⟩ := settled.exists
    have cut : run base (fuel + 1) active stage blueprint text start ≠ .error .exhausted :=
      fun cut => other (cut.symm.trans same)
    have reached := (run_settles_limit base active stage blueprint text start (fuel + 1)).eq cut
    exact cut (reached.symm.trans finished)
  · obtain ⟨enough, same⟩ := eventually_atTop.mp (limit_settles base _ _ _ _ _ finished)
    have here := same (enough + 1) (Nat.le_succ _)
    rw [← here] at finished ⊢
    exact ((upwards enough).eq finished).symm

/-- A leaf does what its function says. -/
theorem limit_leaf (recognise : Leaf) : limit base active stage (.object (.leaf recognise)) text start =
    (recognise text start).mapError .fault := by
  rw [limit_eq_step]
  change limit base active stage (.leaf recognise) text start = _
  rw [limit_eq_step]
  rfl

end Blueprint

end TextGrammar
