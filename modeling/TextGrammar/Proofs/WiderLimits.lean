import TextGrammar.Proofs.Limits

/-! Runs with wider limits. What comes to an answer while some invocations are under way comes to the same
answer while fewer of them are, and with limits that are wider or missing. -/

namespace TextGrammar

/-- A run that comes to an answer if another one does. -/
def Reaches {α : Type} (outcome other : Except Halt α) : Prop :=
  ∀ answer, outcome = .ok answer → other = .ok answer

/-- Answers are reached from the parts of a computation to the whole of it. -/
def Reaches.following : Following Unit where
  holds outcome others := Reaches outcome (others ())
  refl _ _ is := is
  bind first rest answer is := by
    rename_i outcome others next nexts
    cases outcome with
    | error halt => cases is
    | ok middle => exact (congrArg (· >>= nexts ()) (first middle rfl)).trans (rest middle answer is)

/-- A store with the grammars of another one, whose limits are no narrower. -/
structure Store.Widens (wider base : Store) : Prop where
  globals : wider.globals = base.globals
  definition : ∀ target : Target, target.definition wider = target.definition base
  limit : ∀ {target : Target} {limit}, target.limit wider = some limit →
    ∃ less, less ≤ limit ∧ target.limit base = some less

theorem Key.enter_mono {active counts : Key → Nat} (fewer : ∀ key, counts key ≤ active key) (entered key : Key) :
    entered.enter counts key ≤ entered.enter active key := by
  rw [Key.enter, Key.enter]
  split
  · exact Nat.succ_le_succ (fewer key)
  · exact fewer key

variable {wider base : Store} (widens : wider.Widens base)
include widens

theorem Player.enter_widens {player other : Player} {active counts : Key → Nat} (fewer : ∀ key, counts key ≤ active key)
    {stage : Nat} {target : Target} {body : Blueprint} {text : Text} {start : Int}
    (reaches : Reaches (player (target.key.enter active) stage body text start)
      (other (target.key.enter counts) stage body text start)) :
    Reaches (player.enter base active stage target body text start) (other.enter wider counts stage target body text start) := by
  intro answer is
  by_cases below : ∀ limit, target.limit base = some limit → active target.key < limit
  · rw [enter_below below] at is
    rw [enter_below fun limit limited => ?_]
    · exact reaches answer is
    · obtain ⟨less, least, limited⟩ := widens.limit limited
      have reached := below less limited
      have fewer := fewer target.key
      omega
  · obtain ⟨limit, limited, deep⟩ : ∃ limit, target.limit base = some limit ∧ limit ≤ active target.key := by
      simpa using below
    rw [enter_deep limited deep] at is
    cases is

namespace Blueprint

theorem run_widens (fuel : Nat) {active counts : Key → Nat} (fewer : ∀ key, counts key ≤ active key) (stage : Nat)
    (blueprint : Blueprint) (text : Text) (start : Int) :
    Reaches (run base fuel active stage blueprint text start) (run wider fuel counts stage blueprint text start) := by
  induction fuel generalizing active counts stage blueprint text start with
  | zero => exact nofun
  | succ fuel ih =>
    let others : Unit → Player := fun _ => run wider fuel
    have each stage blueprint text start : Reaches.following.holds (run base fuel active stage blueprint text start)
        (others · counts stage blueprint text start) := ih fewer stage blueprint text start
    refine Reaches.following.step widens.globals each widens.definition (fun stage target body text start => ?_)
      stage blueprint text start
    exact Player.enter_widens widens fewer (ih (Key.enter_mono fewer target.key) stage body text start)

/-- In the limit answers are reached with wider limits, and while fewer invocations are under way. -/
theorem limit_widens {active counts : Key → Nat} (fewer : ∀ key, counts key ≤ active key) (stage : Nat)
    (blueprint : Blueprint) (text : Text) (start : Int) :
    Reaches (limit base active stage blueprint text start) (limit wider counts stage blueprint text start) := by
  intro answer is
  have finished : limit base active stage blueprint text start ≠ .error .exhausted := by
    rw [is]
    nofun
  obtain ⟨fuel, same⟩ := exists_run_eq_limit base active stage blueprint text start finished
  have reached := run_widens widens fuel fewer stage blueprint text start answer (same.trans is)
  have settles := run_settles_limit wider counts stage blueprint text start fuel
  rw [reached] at settles
  exact settles.eq nofun

end Blueprint

end TextGrammar
