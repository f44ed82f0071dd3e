import TextGrammar.Proofs.Execution

/-! What runs come to once they have fuel enough. A moment of a session is whatever is known of its
store, and how runs may change it then. An action settles if from some fuel on it has one and the same
outcome at every such moment. -/

namespace TextGrammar
open TextGrammar.Action

/-- What is known of a store while grammars are run, and what may become of it. -/
structure Moment where
  holds : Store → Prop
  moves : Store → Store → Prop
  traced : ∀ {store : Store} (trace : List Event), holds store → moves store { store with trace }
  kept : ∀ {store next : Store}, holds store → moves store next → holds next
  trans : ∀ {store next last : Store}, moves store next → moves next last → moves store last

variable {α β : Type} (moment : Moment)

/-- An action that with fuel enough has an outcome, and changes the store as the moment allows. -/
def Moment.Settles (action : Nat → Action α) (outcome : Except Halt α) : Prop :=
  ∃ enough, ∀ fuel, enough ≤ fuel → ∀ store, moment.holds store →
    ∃ next, (action fuel).exec store = (outcome, next) ∧ moment.moves store next

namespace Moment.Settles
variable {moment} {action : Nat → Action α} {outcome : Except Halt β}

/-- An action that needs no fuel and leaves no more behind than a trace. -/
theorem always {action : Action β}
    (settles : ∀ store : Store, ∃ trace, action.exec store = (outcome, { store with trace })) :
    moment.Settles (fun _ => action) outcome := by
  refine ⟨0, fun _ _ store holds => ?_⟩
  obtain ⟨trace, settles⟩ := settles store
  exact ⟨_, settles, moment.traced trace holds⟩

theorem pure (answer : β) : moment.Settles (fun _ => Pure.pure answer) (.ok answer) :=
  always fun _ => ⟨_, rfl⟩

theorem ofExcept (outcome : Except Fault β) :
    moment.Settles (fun _ => Action.ofExcept outcome) (outcome.mapError .fault) := by
  cases outcome with
  | ok answer => exact pure answer
  | error fault => exact always fun _ => ⟨_, rfl⟩

theorem bind {answer : α} {next : Nat → α → Action β} (first : moment.Settles action (.ok answer))
    (rest : moment.Settles (fun fuel => next fuel answer) outcome) :
    moment.Settles (fun fuel => action fuel >>= next fuel) outcome := by
  obtain ⟨enough, first⟩ := first
  obtain ⟨more, rest⟩ := rest
  refine ⟨max enough more, fun fuel least store holds => ?_⟩
  obtain ⟨between, one, moved⟩ := first fuel (by omega) store holds
  obtain ⟨last, two, further⟩ := rest fuel (by omega) between (moment.kept holds moved)
  rw [exec_bind_ok one]
  exact ⟨last, two, moment.trans moved further⟩

theorem bind_halt {halt : Halt} (first : moment.Settles action (.error halt))
    (next : Nat → α → Action β) :
    moment.Settles (fun fuel => action fuel >>= next fuel) (.error halt) := by
  obtain ⟨enough, first⟩ := first
  refine ⟨enough, fun fuel least store holds => ?_⟩
  obtain ⟨between, one, moved⟩ := first fuel least store holds
  rw [exec_bind_error one]
  exact ⟨between, rfl, moved⟩

/-- What is written down on the way makes no difference. -/
theorem logged {action : Nat → Action β} (settles : moment.Settles action outcome)
    (event : Store → Event) :
    moment.Settles (fun fuel => do record (event (← get)); action fuel) outcome := by
  obtain ⟨enough, settles⟩ := settles
  refine ⟨enough, fun fuel least store holds => ?_⟩
  have moved := moment.traced (event store :: store.trace) holds
  obtain ⟨last, run, further⟩ := settles fuel least _ (moment.kept holds moved)
  exact ⟨last, run, moment.trans moved further⟩

section Found
variable {attempt : Nat → Action (Option Match)} {next : Nat → Match → Action (Option β)}

/-- What follows a match, where there is one. -/
theorem onFound {found : Match} {outcome : Except Halt (Option β)}
    (first : moment.Settles attempt (.ok (some found)))
    (rest : moment.Settles (fun fuel => next fuel found) outcome) :
    moment.Settles (fun fuel => do
      let some found ← attempt fuel | return none
      next fuel found) outcome :=
  first.bind rest

theorem onNone (first : moment.Settles attempt (.ok none)) :
    moment.Settles (fun fuel => do
      let some found ← attempt fuel | return none
      next fuel found) (.ok none) :=
  first.bind (pure none)

theorem onHalt {halt : Halt} (first : moment.Settles attempt (.error halt)) :
    moment.Settles (fun fuel => do
      let some found ← attempt fuel | return none
      next fuel found) (.error halt) :=
  first.bind_halt _

end Found

/-- A rule settles if one level of its run does. -/
theorem run {rule : Rule} {text : Text} {start : Int} {outcome : Except Halt (Option Match)}
    (settles : moment.Settles (fun fuel => Runner.step (Rule.run fuel) rule text start) outcome) :
    moment.Settles (fun fuel => Rule.run fuel rule text start) outcome := by
  obtain ⟨enough, settles⟩ := settles
  refine ⟨enough + 1, fun fuel least store holds => ?_⟩
  cases fuel with
  | zero => omega
  | succ fuel => exact settles fuel (by omega) store holds

theorem step {rule : Rule} {text : Text} {start : Int} {outcome : Except Halt (Option Match)}
    (settles : moment.Settles (fun fuel => Rule.run fuel rule text start) outcome) :
    moment.Settles (fun fuel => Runner.step (Rule.run fuel) rule text start) outcome := by
  obtain ⟨enough, settles⟩ := settles
  exact ⟨enough, fun fuel least store holds => settles (fuel + 1) (by omega) store holds⟩

end Moment.Settles

end TextGrammar
