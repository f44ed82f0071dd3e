import TextGrammar.Proofs.Blueprints

/-! Runs that follow one another. Whatever the outcome of a run says of some other runs, if that passes
from what is computed first to what is computed next, it passes from the parts of a blueprint to the
blueprint. -/

namespace TextGrammar

/-- Runs the definition of a recursive grammar, unless too many invocations of it are under way. -/
def Player.enter (base : Store) (player : Player) (active : Key → Nat) (stage : Nat) (target : Target)
    (body : Blueprint) (text : Text) (start : Int) : Except Halt (Option Match) := do
  if let some limit := target.limit base then
    if limit ≤ active target.key then .error (.fault (.tooDeep (target.title base) limit start))
  player (target.key.enter active) stage body text start

theorem Player.step_invoke (base : Store) (player : Player) (active : Key → Nat) (stage : Nat) (target : Target)
    (text : Text) (start : Int) : Player.step base player active stage (.invoke target) text start =
      (target.definition base).mapError .fault >>= fun body => player.enter base active stage target body text start :=
  rfl

section Enter
variable {base : Store} {player : Player} {active : Key → Nat} {stage : Nat} {target : Target} {body : Blueprint}
  {text : Text} {start : Int}

theorem Player.enter_below (below : ∀ limit, target.limit base = some limit → active target.key < limit) :
    player.enter base active stage target body text start =
      player (target.key.enter active) stage body text start := by
  rw [Player.enter]
  cases is : target.limit base with
  | none => rfl
  | some limit => simp only [if_neg (Nat.not_le.mpr (below limit is))]

theorem Player.enter_deep {limit : Nat} (is : target.limit base = some limit) (deep : limit ≤ active target.key) :
    player.enter base active stage target body text start = .error (.fault (.tooDeep (target.title base) limit start)) := by
  rw [Player.enter, is]
  simp only [if_pos deep]
  rfl

end Enter

/-- What an outcome says of attempts, which passes on when both go on alike. -/
structure Following (ι : Type) where
  holds : {α : Type} → Except Halt α → (ι → Except Halt α) → Prop
  refl : ∀ {α : Type} (outcome : Except Halt α), holds outcome fun _ => outcome
  bind : ∀ {α β : Type} {outcome : Except Halt α} {attempts : ι → Except Halt α} {next : α → Except Halt β}
    {nexts : ι → α → Except Halt β}, holds outcome attempts → (∀ answer, holds (next answer) (nexts · answer)) →
      holds (outcome >>= next) fun index => attempts index >>= nexts index

namespace Following
variable {ι : Type} (following : Following ι)

section Loops
variable {attempt : Int → Except Halt (Option Match)} {attempts : ι → Int → Except Halt (Option Match)}
  (each : ∀ position, following.holds (attempt position) (attempts · position)) (kind : Kind) (size : Nat)
include each

theorem repeatFrom (bound : Nat) (position : Int) (found : Array Match) :
    following.holds (Player.repeatFrom attempt kind size bound position found) fun index =>
      Player.repeatFrom (attempts index) kind size bound position found := by
  induction bound generalizing position found with
  | zero => exact following.refl _
  | succ bound ih =>
    refine following.bind (each position) fun next => ?_
    cases next with
    | none => exact following.refl _
    | some next =>
      refine following.bind (following.refl _) fun stop => ?_
      split
      · exact following.refl _
      · exact ih _ _

theorem repeatTimes (count : Nat) (position : Int) (found : Array Match) :
    following.holds (Player.repeatTimes attempt kind size count position found) fun index =>
      Player.repeatTimes (attempts index) kind size count position found := by
  induction count generalizing position found with
  | zero => exact following.refl _
  | succ count ih =>
    refine following.bind (each position) fun next => ?_
    cases next with
    | none => exact following.refl _
    | some next =>
      refine following.bind (following.refl _) fun stop => ?_
      split
      · exact following.refl _
      · exact ih _ _

end Loops

theorem firstOf {attempt : Blueprint → Except Halt (Option Match)}
    {attempts : ι → Blueprint → Except Halt (Option Match)}
    (each : ∀ blueprint, following.holds (attempt blueprint) (attempts · blueprint)) (alternatives : List Blueprint) :
    following.holds (Player.firstOf attempt alternatives) fun index =>
      Player.firstOf (attempts index) alternatives := by
  induction alternatives with
  | nil => exact following.refl _
  | cons blueprint rest ih =>
    refine following.bind (each blueprint) fun found => ?_
    cases found with
    | none => exact ih
    | some found => exact following.refl _

variable {following}

/-- What goes on with a match, or finds none. -/
theorem onward {outcome : Except Halt (Option Match)} {attempts : ι → Except Halt (Option Match)}
    {further : Match → Except Halt (Option Match)} {furthers : ι → Match → Except Halt (Option Match)}
    (first : following.holds outcome attempts) (rest : ∀ found, following.holds (further found) (furthers · found)) :
    following.holds
      (do
        let some found ← outcome | return none
        further found)
      fun index => (do
        let some found ← attempts index | return none
        furthers index found) := by
  refine following.bind first fun found => ?_
  cases found with
  | none => exact following.refl _
  | some found => exact rest found

variable (following) in
/-- A step follows where the runs of the parts do, and where recursive grammars do. -/
theorem step {base other : Store} {player : Player} {players : ι → Player} {active counts : Key → Nat}
    (globals : other.globals = base.globals)
    (each : ∀ stage blueprint text start, following.holds (player active stage blueprint text start)
      (players · counts stage blueprint text start))
    (defined : ∀ target : Target, target.definition other = target.definition base)
    (enters : ∀ stage (target : Target) body text start, following.holds
      (player.enter base active stage target body text start)
      fun index => (players index).enter other counts stage target body text start)
    (stage : Nat) (blueprint : Blueprint) (text : Text) (start : Int) :
    following.holds (Player.step base player active stage blueprint text start) fun index =>
      Player.step other (players index) counts stage blueprint text start := by
  have one (part : Blueprint) (start : Int) := each stage part text start
  cases blueprint with
  | leaf recognise => exact following.refl _
  | object body => exact one body start
  | sequence firstKind secondKind first second =>
    refine onward (one first start) fun found => following.bind (following.refl _) fun stop => ?_
    exact onward (one second stop) fun next => following.refl _
  | orElse first second =>
    refine following.bind (one first start) fun found => ?_
    cases found with
    | none => exact one second start
    | some found => exact following.refl _
  | either alternatives => exact following.firstOf (fun blueprint => one blueprint start) alternatives
  | optional kind operand =>
    refine following.bind (one operand start) fun found => ?_
    cases found <;> exact following.refl _
  | many kind operand =>
    exact following.bind (following.repeatFrom (one operand) _ _ _ _ _) fun _ => following.refl _
  | oneOrMore kind operand =>
    refine onward (one operand start) fun first => following.bind (following.refl _) fun stop => ?_
    dsimp only
    split
    · exact following.refl _
    · exact following.bind (following.repeatFrom (one operand) _ _ _ _ _) fun _ => following.refl _
  | times kind count operand =>
    refine following.bind (following.repeatTimes (one operand) _ _ _ _ _) fun found => ?_
    cases found <;> exact following.refl _
  | separated kind first rest =>
    refine onward (one first start) fun found => following.bind (following.refl _) fun stop => ?_
    exact following.bind (following.repeatFrom (one rest) _ _ _ _ _) fun _ => following.refl _
  | captured kind operand => exact onward (one operand start) fun found => following.refl _
  | valued value operand => exact onward (one operand start) fun found => following.refl _
  | erased operand => exact onward (one operand start) fun found => following.refl _
  | map transform operand => exact onward (one operand start) fun found => following.refl _
  | filter accept operand => exact onward (one operand start) fun found => following.refl _
  | bind names continuation operand =>
    simp only [Player.step, globals]
    refine onward (one operand start) fun found => following.bind (following.refl _) fun value => ?_
    refine following.bind (following.refl _) fun draft => ?_
    cases draft with
    | raw value => exact following.refl _
    | grammar next => exact each (stage + 1) next.body text found.stop
  | retaining operand => exact one operand start
  | invoke target =>
    simp only [Player.step_invoke, defined]
    exact following.bind (following.refl _) fun body => enters stage target body text start

end Following

end TextGrammar
