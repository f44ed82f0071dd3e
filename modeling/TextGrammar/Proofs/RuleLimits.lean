import Mathlib.Order.Filter.AtTopBot.Basic
import TextGrammar.Proofs.Fuel

/-! What rules come to with enough fuel, in whatever store they are run. A run that is not cut off stays
what it is with more fuel, down to the store that it leaves behind. So every rule has one outcome in the
limit, and the outcome of what is put together from other rules is one step whose parts are run in the
limit. -/

namespace TextGrammar
open Filter TextGrammar.Action

variable {α β : Type}

theorem Cell.Alike.eq {first second : Cell} (alike : first.Alike True second) : first = second := by
  obtain ⟨name, kind, builder, definition, building, active, calls, limit⟩ := alike
  cases first
  cases second
  simp_all

/-- Stores that agree have nothing but their traces apart. -/
theorem Store.Agree.eq {first second : Store} (agree : first.Agree none second) (traces : first.trace = second.trace) :
    first = second := by
  have cells : first.cells = second.cells := by
    refine Array.ext agree.size fun index one two => ?_
    have alike : (first.cellAt index).Alike True (second.cellAt index) := by
      obtain ⟨name, kind, builder, definition, building, active, calls, limit⟩ := agree.cells index
      exact ⟨name, kind, builder, definition, building, active, calls, fun _ => limit (by simp)⟩
    simpa [Store.cellAt, one, two] using alike.eq
  obtain ⟨verbose, names, assigned, tallies, running, -, -⟩ := agree
  cases first
  cases second
  simp_all

/-- A run that is not cut off is the same with more fuel. -/
theorem Rule.run_more {rule : Rule} {text : Text} {start : Int} {store : Store} {fuel more : Nat}
    (finished : ((Rule.run fuel rule text start).exec store).1 ≠ .error .exhausted) (least : fuel ≤ more) :
    (Rule.run more rule text start).exec store = (Rule.run fuel rule text start).exec store := by
  obtain ⟨rest, rfl⟩ := Nat.exists_eq_add_of_le least
  have here : (Alignment.refuelled True text).place start start := rfl
  have ends := (Alignment.refuelled_runs True text fuel rest).aligned rule.builtFrom_any here
    ⟨.refl _ store, store.builtFrom_any, fun _ => rfl⟩
  change Alignment.Ends _ _ ((Rule.run fuel rule text start).exec store)
    ((Rule.run (fuel + rest) rule text start).exec store) at ends
  generalize (Rule.run fuel rule text start).exec store = one at ends finished ⊢
  generalize (Rule.run (fuel + rest) rule text start).exec store = two at ends ⊢
  cases ends with
  | answer same stores =>
    rw [Alignment.twin_outcomes same, stores.agree.eq (stores.link trivial)]
  | halt same stores =>
    obtain rfl := same
    rw [stores.agree.eq (stores.link trivial)]
  | behind gaveUp _ => exact absurd (congrArg Except.error gaveUp) finished

/-- Attempts that come to what an action does from some number on, unless that is to be cut off. -/
def Action.Settles (action : Action α) (attempts : Nat → Action α) : Prop :=
  ∀ store, (action.exec store).1 ≠ .error .exhausted → ∀ᶠ fuel in atTop, (attempts fuel).exec store = action.exec store

namespace Action.Settles
variable {action : Action α} {attempts : Nat → Action α}

theorem refl (action : Action α) : action.Settles fun _ => action :=
  fun _ _ => .of_forall fun _ => rfl

theorem eq {other : Action α} (settles : action.Settles fun _ => other) {store : Store}
    (finished : (action.exec store).1 ≠ .error .exhausted) : other.exec store = action.exec store :=
  eventually_const.mp (settles store finished)

theorem bind {next : α → Action β} {nexts : Nat → α → Action β} (first : action.Settles attempts)
    (rest : ∀ answer, (next answer).Settles (nexts · answer)) :
    (action >>= next).Settles fun fuel => attempts fuel >>= nexts fuel := by
  intro store finished
  rcases ended : action.exec store with ⟨halt | answer, after⟩
  · rw [exec_bind_error ended] at finished ⊢
    have uncut : (Except.error halt : Except Halt α) ≠ .error .exhausted := by
      rintro ⟨⟩
      exact finished rfl
    have settled := first store
    rw [ended] at settled
    filter_upwards [settled uncut] with fuel same
    exact exec_bind_error same
  · rw [exec_bind_ok ended] at finished ⊢
    have settled := first store
    rw [ended] at settled
    filter_upwards [settled (by simp), rest answer after finished] with fuel same later
    rw [exec_bind_ok same]
    exact later

/-- What goes on with a match, or finds none. -/
theorem onward {action : Action (Option Match)} {attempts : Nat → Action (Option Match)} {next : Match → Action (Option Match)}
    {nexts : Nat → Match → Action (Option Match)} (first : action.Settles attempts)
    (rest : ∀ found, (next found).Settles (nexts · found)) :
    Settles
      (do
        let some found ← action | return none
        next found)
      fun fuel => (do
        let some found ← attempts fuel | return none
        nexts fuel found) := by
  refine first.bind fun found => ?_
  cases found with
  | none => exact refl _
  | some found => exact rest found

theorem repeatFrom {attempt : Int → Action (Option Match)} {attempts : Nat → Int → Action (Option Match)}
    (each : ∀ position, (attempt position).Settles (attempts · position)) (kind : Kind) (size bound : Nat) (position : Int)
    (found : Array Match) : (Runner.repeatFrom attempt kind size bound position found).Settles fun fuel =>
      Runner.repeatFrom (attempts fuel) kind size bound position found := by
  induction bound generalizing position found with
  | zero => exact refl _
  | succ bound ih =>
    refine (each position).bind fun next => ?_
    cases next with
    | none => exact refl _
    | some next =>
      refine bind (refl _) fun stop => ?_
      split
      · exact refl _
      · exact ih _ _

theorem repeatTimes {attempt : Int → Action (Option Match)} {attempts : Nat → Int → Action (Option Match)}
    (each : ∀ position, (attempt position).Settles (attempts · position)) (kind : Kind) (size count : Nat) (position : Int)
    (found : Array Match) : (Runner.repeatTimes attempt kind size count position found).Settles fun fuel =>
      Runner.repeatTimes (attempts fuel) kind size count position found := by
  induction count generalizing position found with
  | zero => exact refl _
  | succ count ih =>
    refine (each position).bind fun next => ?_
    cases next with
    | none => exact refl _
    | some next =>
      refine bind (refl _) fun stop => ?_
      split
      · exact refl _
      · exact ih _ _

theorem firstOf {attempt : Rule → Action (Option Match)} {attempts : Nat → Rule → Action (Option Match)}
    (each : ∀ rule, (attempt rule).Settles (attempts · rule)) (rules : List Rule) :
    (Runner.firstOf attempt rules).Settles fun fuel => Runner.firstOf (attempts fuel) rules := by
  induction rules with
  | nil => exact refl _
  | cons rule rest ih =>
    refine (each rule).bind fun found => ?_
    cases found with
    | none => exact ih
    | some found => exact refl _

end Action.Settles

namespace Rule

open Classical in
/-- What a rule comes to with enough fuel. It is cut off if no fuel is enough. -/
noncomputable def limit : Runner := fun rule text start => fun store =>
  if finished : ∃ fuel, ((Rule.run fuel rule text start).exec store).1 ≠ .error .exhausted then
    (Rule.run finished.choose rule text start).exec store
  else (.error .exhausted, store)

/-- Rules that are put together from others, and from nothing that is made while they run. -/
def Direct : Rule → Prop
  | .bind _ _ _ | .recursive _ | .placeholder _ => False
  | _ => True

variable (rule : Rule) (text : Text) (start : Int)

theorem limit_settles : (limit rule text start).Settles (Rule.run · rule text start) := by
  intro store finished
  by_cases settled : ∃ fuel, ((Rule.run fuel rule text start).exec store).1 ≠ .error .exhausted
  · have is : (limit rule text start).exec store = (Rule.run settled.choose rule text start).exec store := dif_pos settled
    rw [is]
    exact eventually_atTop.mpr ⟨_, fun more least => run_more settled.choose_spec least⟩
  · have is : (limit rule text start).exec store = (.error .exhausted, store) := dif_neg settled
    rw [is] at finished
    exact absurd rfl finished

theorem run_settles_limit (fuel : Nat) : (Rule.run fuel rule text start).Settles fun _ => limit rule text start := by
  intro store finished
  have settled : ∃ fuel, ((Rule.run fuel rule text start).exec store).1 ≠ .error .exhausted := ⟨fuel, finished⟩
  have is : (limit rule text start).exec store = (Rule.run settled.choose rule text start).exec store := dif_pos settled
  have one := run_more settled.choose_spec (Nat.le_max_left settled.choose fuel)
  have two := run_more finished (Nat.le_max_right settled.choose fuel)
  exact .of_forall fun _ => is.trans (one.symm.trans two)

variable {rule}

/-- A step settles where the runs of the parts do. -/
theorem step_settles (direct : rule.Direct) {runner : Runner} {runners : Nat → Runner}
    (each : ∀ rule text start, (runner rule text start).Settles (runners · rule text start)) :
    (runner.step rule text start).Settles fun fuel => (runners fuel).step rule text start := by
  have one (rule : Rule) (start : Int) := each rule text start
  cases rule with
  | leaf recognise => exact .refl _
  | object tag traced body =>
    refine .bind (.refl _) fun _ => ?_
    dsimp only
    split
    · exact .bind (.refl _) fun _ => .bind (.refl _) fun _ => one body start
    · exact one body start
  | sequence firstKind secondKind first second =>
    refine (one first start).onward fun found => .bind (.refl _) fun stop => ?_
    exact (one second stop).onward fun next => .refl _
  | orElse first second =>
    refine (one first start).bind fun found => ?_
    cases found with
    | none => exact one second start
    | some found => exact .refl _
  | either alternatives => exact .firstOf (fun rule => one rule start) alternatives
  | optional kind operand =>
    refine (one operand start).bind fun found => ?_
    cases found <;> exact .refl _
  | many kind tag operand => exact .bind (.repeatFrom (one operand) _ _ _ _ _) fun _ => .refl _
  | oneOrMore kind operand =>
    refine (one operand start).onward fun first => .bind (.refl _) fun stop => ?_
    dsimp only
    split
    · exact .refl _
    · exact .bind (.repeatFrom (one operand) _ _ _ _ _) fun _ => .refl _
  | times kind count operand =>
    refine .bind (.repeatTimes (one operand) _ _ _ _ _) fun found => ?_
    cases found <;> exact .refl _
  | separated kind first rest =>
    refine (one first start).onward fun found => .bind (.refl _) fun stop => ?_
    exact .bind (.repeatFrom (one rest) _ _ _ _ _) fun _ => .refl _
  | captured kind operand => exact (one operand start).onward fun found => .refl _
  | valued value operand => exact (one operand start).onward fun found => .refl _
  | erased operand => exact (one operand start).onward fun found => .refl _
  | map transform operand => exact (one operand start).onward fun found => .refl _
  | filter accept operand => exact (one operand start).onward fun found => .refl _
  | retaining held operand => exact one operand start
  | bind | recursive | placeholder => exact direct.elim

/-- What the run of a rule consists of in the limit. -/
theorem limit_eq_step (direct : rule.Direct) (store : Store) :
    (limit rule text start).exec store = (Runner.step limit rule text start).exec store ∨
      ((limit rule text start).exec store).1 = .error .exhausted ∧
        ((Runner.step limit rule text start).exec store).1 = .error .exhausted := by
  have upwards fuel : (Rule.run (fuel + 1) rule text start).Settles fun _ => Runner.step limit rule text start :=
    step_settles text start direct fun rule text start => run_settles_limit rule text start fuel
  by_cases finished : ((limit rule text start).exec store).1 = .error .exhausted
  · refine .inr ⟨finished, ?_⟩
    by_contra other
    obtain ⟨fuel, same⟩ := (step_settles text start direct limit_settles store other).exists
    rw [← same] at other
    have reached := (run_settles_limit rule text start (fuel + 1)).eq other
    exact other ((congrArg Prod.fst reached).symm.trans finished)
  · left
    obtain ⟨enough, same⟩ := eventually_atTop.mp (limit_settles rule text start store finished)
    have here := same (enough + 1) (Nat.le_succ _)
    rw [← here] at finished ⊢
    exact ((upwards enough).eq finished).symm

/-- A run of a rule that comes to an outcome with enough fuel, and to the store that it leaves behind. -/
def Comes (rule : Rule) (text : Text) (start : Int) (store : Store) (outcome : Except Fault (Option Match))
    (after : Store) : Prop :=
  ∃ fuel, (Rule.run fuel rule text start).exec store = (outcome.mapError .fault, after)

variable {text start} {store after final : Store} {outcome other : Except Fault (Option Match)}

/-- What a rule comes to is what it comes to in the limit, if that is not cut off. -/
theorem comes_iff : rule.Comes text start store outcome after ↔
    (limit rule text start).exec store = (outcome.mapError .fault, after) := by
  have finished : outcome.mapError Halt.fault ≠ .error .exhausted := by
    cases outcome <;> simp [Except.mapError]
  constructor
  · rintro ⟨fuel, ended⟩
    rw [← ended]
    exact eventually_const.mp (run_settles_limit rule text start fuel store (by rw [ended]; exact finished))
  · intro ended
    obtain ⟨fuel, same⟩ := (limit_settles rule text start store (by rw [ended]; exact finished)).exists
    exact ⟨fuel, same.trans ended⟩

/-- So what a rule comes to is told by its step. -/
theorem comes_iff_step (direct : rule.Direct) : rule.Comes text start store outcome after ↔
    (Runner.step limit rule text start).exec store = (outcome.mapError .fault, after) := by
  rw [comes_iff]
  rcases limit_eq_step text start direct store with same | ⟨cut, other⟩
  · rw [same]
  · constructor
    · intro ended
      rw [ended] at cut
      cases outcome <;> cases cut
    · intro ended
      rw [ended] at other
      cases outcome <;> cases other

theorem Comes.unique (one : rule.Comes text start store outcome after) (two : rule.Comes text start store other final) :
    outcome = other ∧ after = final := by
  have same := (comes_iff.mp one).symm.trans (comes_iff.mp two)
  obtain ⟨outcomes, stores⟩ := Prod.mk.inj same
  refine ⟨?_, stores⟩
  cases outcome <;> cases other <;> cases outcomes <;> rfl

end Rule

end TextGrammar
