import TextGrammar.Grammar.Command

/-! What an action does to a store, as a function. The rules below run every action through its
parts, so that nothing else has to look into the layers that actions are made of. -/

namespace TextGrammar

/-- What succeeds in two parts succeeds in both. -/
theorem ok_of_bind {α β : Type} {outcome : Except Fault α} {next : α → Except Fault β} {result : β}
    (succeeded : (outcome >>= next) = .ok result) :
    ∃ answer, outcome = .ok answer ∧ next answer = .ok result := by
  cases outcome with
  | error fault => cases succeeded
  | ok answer => exact ⟨answer, rfl, succeeded⟩

/-- The outcome of an action in a store, and the store that it leaves behind. -/
def Action.exec {α : Type} (action : Action α) (store : Store) : Except Halt α × Store :=
  action.run.run store

namespace Action
variable {α β : Type}

@[simp] theorem exec_pure (answer : α) (store : Store) :
    (pure answer : Action α).exec store = (.ok answer, store) := rfl

theorem exec_bind (action : Action α) (next : α → Action β) (store : Store) :
    (action >>= next).exec store = match action.exec store with
      | (.ok answer, after) => (next answer).exec after
      | (.error halt, after) => (.error halt, after) := by
  simp only [exec, bind, ExceptT.bind, ExceptT.mk, ExceptT.run, StateT.run, StateT.bind,
    ExceptT.bindCont]
  rcases action store with ⟨_ | answer, after⟩ <;> rfl

theorem exec_bind_ok {action : Action α} {next : α → Action β} {store after : Store} {answer : α}
    (answered : action.exec store = (.ok answer, after)) :
    (action >>= next).exec store = (next answer).exec after := by
  rw [exec_bind, answered]

theorem exec_bind_error {action : Action α} {next : α → Action β} {store after : Store} {halt : Halt}
    (halted : action.exec store = (.error halt, after)) :
    (action >>= next).exec store = (.error halt, after) := by
  rw [exec_bind, halted]

@[simp] theorem exec_get (store : Store) : (get : Action Store).exec store = (.ok store, store) := rfl

@[simp] theorem exec_set (store after : Store) :
    (set after : Action PUnit).exec store = (.ok (), after) := rfl

@[simp] theorem exec_modify (change : Store → Store) (store : Store) :
    (modify change : Action PUnit).exec store = (.ok (), change store) := rfl

@[simp] theorem exec_throw (halt : Halt) (store : Store) :
    (throw halt : Action α).exec store = (.error halt, store) := rfl

@[simp] theorem exec_fail (fault : Fault) (store : Store) :
    (fail fault : Action α).exec store = (.error (.fault fault), store) := rfl

@[simp] theorem exec_record (event : Event) (store : Store) :
    (record event).exec store = (.ok (), store.record event) := rfl

@[simp] theorem exec_cellAt (cell : CellId) (store : Store) :
    (cellAt cell).exec store = (.ok (store.cellAt cell), store) := rfl

@[simp] theorem exec_updateCell (cell : CellId) (change : Cell → Cell) (store : Store) :
    (updateCell cell change).exec store = (.ok (), store.updateCell cell change) := rfl

@[simp] theorem exec_ensuring (action : Action α) (cleanup : Store → Store) (store : Store) :
    (ensuring action cleanup).exec store =
      ((action.exec store).1, cleanup (action.exec store).2) := rfl

@[simp] theorem exec_ofExcept_ok (answer : α) (store : Store) :
    (ofExcept (.ok answer)).exec store = (.ok answer, store) := rfl

@[simp] theorem exec_ofExcept_error (fault : Fault) (store : Store) :
    (ofExcept (.error fault) : Action α).exec store = (.error (.fault fault), store) := rfl

theorem exec_attempt (action : Action α) (store : Store) :
    (attempt action).exec store = match action.exec store with
      | (.ok answer, after) => (.ok (.ok answer), after)
      | (.error (.fault fault), after) => (.ok (.error fault), after)
      | (.error .exhausted, after) => (.error .exhausted, after) := by
  simp only [exec, attempt, ExceptT.run, ExceptT.mk, bind, StateT.run, StateT.bind]
  rcases action store with ⟨(_ | _) | answer, after⟩ <;> rfl

/-- An action that only ever adds to the trace. -/
def Grows (action : Action α) : Prop :=
  ∀ store, store.trace <:+ (action.exec store).2.trace

theorem Grows.pure (answer : α) : Grows (pure answer) := fun _ => List.suffix_refl _

theorem Grows.bind {action : Action α} {next : α → Action β} (first : action.Grows)
    (rest : ∀ answer, (next answer).Grows) : (action >>= next).Grows := by
  intro store
  have before := first store
  rw [exec_bind]
  rcases ended : action.exec store with ⟨_ | answer, after⟩ <;> rw [ended] at before
  · exact before
  · exact before.trans (rest answer after)

theorem Grows.ofExcept (outcome : Except Fault α) : Grows (Action.ofExcept outcome) := by
  cases outcome <;> exact fun _ => List.suffix_refl _

theorem Grows.record (event : Event) : Grows (Action.record event) :=
  fun _ => List.suffix_cons _ _

theorem Grows.get : Grows (get : Action Store) := fun _ => List.suffix_refl _

theorem Grows.updateCell (cell : CellId) (change : Cell → Cell) :
    Grows (Action.updateCell cell change) := fun _ => List.suffix_refl _

/-- What follows an action that may fail only adds to the trace that it left. -/
theorem attempt_bind_grows (action : Action α) {next : Except Fault α → Action β}
    (rest : ∀ outcome, (next outcome).Grows) (store : Store) :
    (action.exec store).2.trace <:+ ((attempt action >>= next).exec store).2.trace := by
  rw [exec_bind, exec_attempt]
  rcases ended : action.exec store with ⟨(_ | _) | answer, after⟩
  · exact rest _ after
  · exact List.suffix_refl _
  · exact rest _ after

end Action

theorem Command.performAll_cons (command : Command) (rest : List Command) (store : Store) :
    ((performAll (command :: rest)).run store).2 =
      ((performAll rest).run { (command.perform.exec store).2 with trace := [] }).2 := by
  simp only [performAll, List.mapM_cons]
  rfl

/-- Every command has its own reply. -/
theorem Command.performAll_replies (command : Command) (rest : List Command) (store : Store) :
    ((performAll (command :: rest)).run store).1 =
      ⟨(command.perform.exec store).1, (command.perform.exec store).2.log⟩ ::
        ((performAll rest).run { (command.perform.exec store).2 with trace := [] }).1 := by
  simp only [performAll, List.mapM_cons]
  rfl

theorem Command.performAll_append (first second : List Command) (store : Store) :
    ((performAll (first ++ second)).run store).2 =
      ((performAll second).run ((performAll first).run store).2).2 := by
  induction first generalizing store with
  | nil => rfl
  | cons command rest ih =>
    rw [List.cons_append, performAll_cons, performAll_cons]
    exact ih _

end TextGrammar
